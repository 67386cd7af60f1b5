/-!
# Pieces of a text

A text cut at every occurrence of one character.

* `join_pieces`: put together again with that character between them, the pieces are the text;
* `not_mem_of_mem_pieces`: no piece holds the character.
-/

namespace GradeRelay.Text

/-- The stretches of a text between the occurrences of a character; one more than there are
occurrences. -/
def pieces (sep : Char) : List Char → List (List Char)
  | [] => [[]]
  | c :: rest =>
    if c = sep then [] :: pieces sep rest
    else
      match pieces sep rest with
      | [] => [[c]]
      | p :: ps => (c :: p) :: ps

/-- Pieces with a character between them. -/
def join (sep : Char) : List (List Char) → List Char
  | [] => []
  | [p] => p
  | p :: q :: rest => p ++ sep :: join sep (q :: rest)

@[simp]
theorem pieces_ne_nil (sep : Char) (cs : List Char) : pieces sep cs ≠ [] := by
  cases cs with
  | nil => simp [pieces]
  | cons c rest =>
    by_cases h : c = sep
    · simp [pieces, h]
    · cases hp : pieces sep rest <;> simp [pieces, h, hp]

@[simp]
theorem join_pieces (sep : Char) (cs : List Char) : join sep (pieces sep cs) = cs := by
  induction cs with
  | nil => rfl
  | cons c rest ih =>
    cases hp : pieces sep rest with
    | nil => exact absurd hp (pieces_ne_nil sep rest)
    | cons p ps =>
      rw [hp] at ih
      by_cases h : c = sep
      · simp [pieces, h, hp, join, ih]
      · cases ps with
        | nil => simpa [pieces, h, hp, join] using ih
        | cons q qs => simpa [pieces, h, hp, join] using ih

theorem not_mem_of_mem_pieces {sep : Char} {cs p : List Char} (hp : p ∈ pieces sep cs) :
    sep ∉ p := by
  induction cs generalizing p with
  | nil => simp_all [pieces]
  | cons c rest ih =>
    by_cases h : c = sep
    · simp only [pieces, h, if_true, List.mem_cons] at hp
      rcases hp with rfl | hp
      · simp
      · exact ih hp
    · cases hr : pieces sep rest with
      | nil => exact absurd hr (pieces_ne_nil sep rest)
      | cons q qs =>
        simp only [pieces, h, if_false, hr, List.mem_cons] at hp
        rcases hp with rfl | hp
        · have := ih (p := q) (by simp [hr])
          simp only [List.mem_cons, not_or]
          exact ⟨fun e => h e.symm, this⟩
        · exact ih (by simp [hr, hp])

end GradeRelay.Text
