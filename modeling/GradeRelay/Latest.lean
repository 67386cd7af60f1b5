/-!
# The latest of a list

The greatest element of a list under a comparison; of several greatest ones the last.

* `latest?_eq_none_iff`: there is one unless the list is empty;
* `mem_of_latest?`: it stands in the list.
-/

namespace GradeRelay

variable {α : Type}

/-- Keeps the later of two elements, the second of equals. -/
def laterOf (le : α → α → Bool) (a b : α) : α := if le a b then b else a

/-- The greatest element under a comparison, the last of equals. -/
def latest? (le : α → α → Bool) : List α → Option α
  | [] => none
  | a :: rest => some (rest.foldl (laterOf le) a)

theorem latest?_eq_none_iff {le : α → α → Bool} {l : List α} : latest? le l = none ↔ l = [] := by
  cases l <;> simp [latest?]

theorem foldl_laterOf_mem (le : α → α → Bool) (l : List α) (a : α) :
    l.foldl (laterOf le) a ∈ a :: l := by
  induction l generalizing a with
  | nil => simp
  | cons b r ih =>
    have h := ih (laterOf le a b)
    rcases List.mem_cons.1 h with h | h
    · rw [List.foldl_cons, h]
      by_cases hab : le a b = true <;> simp [laterOf, hab]
    · exact List.mem_cons_of_mem _ (List.mem_cons_of_mem _ h)

theorem mem_of_latest? {le : α → α → Bool} {l : List α} {a : α} (h : latest? le l = some a) :
    a ∈ l := by
  cases l with
  | nil => simp [latest?] at h
  | cons b r =>
    simp only [latest?, Option.some.injEq] at h
    exact h ▸ foldl_laterOf_mem le r b

end GradeRelay
