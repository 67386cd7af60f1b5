import GradeRelay.Proofs.Lists
import GradeRelay.Text.Quoted
/-!
# Quoted texts told apart

No character's written form between quotes begins another's, and none begins with a quote. So a
quoted text ends where its closing quote stands, whatever follows, and shows which text it is.

* `escapedAs_escape`: the forms in which a character is written between quotes;
* `EscapedAs.append_inj`: the form of one character is told from what follows;
* **`quote_append_inj`**: so is a quoted text;
* `newline_not_mem_quote`: it stands on one line.
-/

namespace GradeRelay.Text

/-! ## Hexadecimal digits -/

theorem exists_digitChar_of_mem {n : Nat} {c : Char} (h : c ∈ Nat.toDigits 16 n) :
    ∃ k, Nat.digitChar k = c := by
  induction n using Nat.strongRecOn with
  | ind n ih =>
    rw [Nat.toDigits_eq_if (by decide)] at h
    split at h
    · exact ⟨n, (List.mem_singleton.1 h).symm⟩
    · rcases List.mem_append.1 h with h | h
      · exact ih _ (by omega) h
      · exact ⟨_, (List.mem_singleton.1 h).symm⟩

theorem digitChar_inj {m n : Nat} (hm : m < 16) (hn : n < 16)
    (h : Nat.digitChar m = Nat.digitChar n) : m = n := by
  have hall : ∀ m < 16, ∀ n < 16, Nat.digitChar m = Nat.digitChar n → m = n := by decide
  exact hall m hm n hn h

theorem toDigits_sixteen_inj {m n : Nat} (h : Nat.toDigits 16 m = Nat.toDigits 16 n) : m = n := by
  induction m using Nat.strongRecOn generalizing n with
  | ind m ih =>
    rw [Nat.toDigits_eq_if (n := m) (by decide), Nat.toDigits_eq_if (n := n) (by decide)] at h
    have hlonger : ∀ (k : Nat) (c d : Char), [] ++ [c] ≠ Nat.toDigits 16 k ++ [d] :=
      fun k c d heq => Nat.toDigits_ne_nil (List.append_inj' heq rfl).1.symm
    split at h <;> split at h
    · exact digitChar_inj ‹_› ‹_› (List.cons.inj h).1
    · exact absurd h (hlonger _ _ _)
    · exact absurd h.symm (hlonger _ _ _)
    · obtain ⟨hhigh, hlow⟩ := List.append_inj' h rfl
      have hquot : m / 16 = n / 16 := ih _ (by omega) hhigh
      have hrem : m % 16 = n % 16 :=
        digitChar_inj (Nat.mod_lt _ (by decide)) (Nat.mod_lt _ (by decide)) (List.cons.inj hlow).1
      omega

/-! ## One character -/

/-- The characters that are written with a letter after a backslash, each with its letter. -/
def escapeLetters : List (Char × Char) :=
  [('"', '"'), ('\\', '\\'), ('\n', 'n'), ('\r', 'r'), ('\t', 't'), ('\x00', '0')]

/-- The forms in which a character is written between quotes: by its letter if it has one, else by
its code point or as it is. -/
inductive EscapedAs (c : Char) : List Char → Prop where
  | letter {m : Char} : (c, m) ∈ escapeLetters → EscapedAs c ['\\', m]
  | code : EscapedAs c ('\\' :: 'u' :: '\x7b' :: (Nat.toDigits 16 c.toNat ++ ['\x7d']))
  | self : (∀ m, (c, m) ∉ escapeLetters) → EscapedAs c [c]

theorem escapedAs_escape (c : Char) : EscapedAs c (escape c) := by
  unfold escape
  split
  · next h => exact .letter (by simp [h, escapeLetters])
  split
  · next h => exact .letter (by simp [h, escapeLetters])
  split
  · next h => exact .letter (by simp [h, escapeLetters])
  split
  · next h => exact .letter (by simp [h, escapeLetters])
  split
  · next h => exact .letter (by simp [h, escapeLetters])
  split
  · next h => exact .letter (by simp [h, escapeLetters])
  split
  · exact .code
  · exact .self (by simp [escapeLetters, *])

theorem escapeLetters_inj {c d m : Char} (hc : (c, m) ∈ escapeLetters)
    (hd : (d, m) ∈ escapeLetters) : c = d := by
  have hall : ∀ p ∈ escapeLetters, ∀ q ∈ escapeLetters, p.2 = q.2 → p.1 = q.1 := by decide
  exact hall _ hc _ hd rfl

theorem escapeLetters_ne_u {c : Char} : (c, 'u') ∉ escapeLetters := by
  have hall : ∀ p ∈ escapeLetters, p.2 ≠ 'u' := by decide
  exact fun h => hall _ h rfl

theorem brace_not_mem_toDigits {n : Nat} : '\x7d' ∉ Nat.toDigits 16 n := by
  intro h
  obtain ⟨k, hk⟩ := exists_digitChar_of_mem h
  exact Nat.digitChar_ne '\x7d' rfl hk

variable {c d : Char} {w v x y : List Char}

theorem EscapedAs.head_ne_quote (h : EscapedAs c w) : w ++ x ≠ '"' :: y := by
  cases h with
  | letter hm => exact fun heq => absurd (List.cons.inj heq).1 (by decide)
  | code => exact fun heq => absurd (List.cons.inj heq).1 (by decide)
  | self hno =>
    intro heq
    obtain rfl : c = '"' := (List.cons.inj heq).1
    exact hno '"' (by decide)

theorem not_backslash (hno : ∀ m, (c, m) ∉ escapeLetters) : '\\' ≠ c := by
  rintro rfl
  exact hno '\\' (by decide)

/-- **The form of a character** is told from what follows it, and shows the character. -/
theorem EscapedAs.append_inj (hc : EscapedAs c w) (hd : EscapedAs d v) (h : w ++ x = v ++ y) :
    c = d ∧ x = y := by
  cases hc with
  | letter hm =>
    cases hd with
    | letter hm' =>
      obtain ⟨rfl, hxy⟩ := List.cons.inj (List.cons.inj h).2
      exact ⟨escapeLetters_inj hm hm', hxy⟩
    | code =>
      obtain ⟨rfl, -⟩ := List.cons.inj (List.cons.inj h).2
      exact absurd hm escapeLetters_ne_u
    | self hno => exact absurd (List.cons.inj h).1 (not_backslash hno)
  | code =>
    cases hd with
    | letter hm =>
      obtain ⟨rfl, -⟩ := List.cons.inj (List.cons.inj h).2
      exact absurd hm escapeLetters_ne_u
    | code =>
      simp only [List.cons_append, List.append_assoc, List.cons.injEq, true_and] at h
      obtain ⟨hcode, hxy⟩ := append_cons_inj brace_not_mem_toDigits brace_not_mem_toDigits h
      exact ⟨Char.toNat_inj.1 (toDigits_sixteen_inj hcode), hxy⟩
    | self hno => exact absurd (List.cons.inj h).1 (not_backslash hno)
  | self hno =>
    cases hd with
    | letter => exact absurd (List.cons.inj h).1.symm (not_backslash hno)
    | code => exact absurd (List.cons.inj h).1.symm (not_backslash hno)
    | self => exact List.cons.inj h

theorem EscapedAs.newline_not_mem (h : EscapedAs c w) : '\n' ∉ w := by
  cases h with
  | letter hm =>
    have hall : ∀ p ∈ escapeLetters, '\n' ≠ p.2 := by decide
    exact List.not_mem_cons_of_ne_of_not_mem (by decide)
      (List.not_mem_cons_of_ne_of_not_mem (hall _ hm) List.not_mem_nil)
  | code =>
    simp only [List.mem_cons, List.mem_append, List.not_mem_nil, or_false, not_or]
    refine ⟨by decide, by decide, by decide, fun hm => ?_, by decide⟩
    obtain ⟨k, hk⟩ := exists_digitChar_of_mem hm
    exact Nat.digitChar_ne '\n' rfl hk
  | self hno =>
    intro hm
    obtain rfl : '\n' = c := List.mem_singleton.1 hm
    exact hno 'n' (by decide)

/-! ## Whole texts -/

theorem flatMap_escape_append_inj {s t : List Char}
    (h : s.flatMap escape ++ '"' :: x = t.flatMap escape ++ '"' :: y) : s = t ∧ x = y := by
  induction s generalizing t with
  | nil =>
    cases t with
    | nil => exact ⟨rfl, (List.cons.inj h).2⟩
    | cons d t =>
      rw [List.flatMap_cons, List.append_assoc] at h
      exact absurd h.symm (escapedAs_escape d).head_ne_quote
  | cons c s ih =>
    cases t with
    | nil =>
      rw [List.flatMap_cons, List.append_assoc] at h
      exact absurd h (escapedAs_escape c).head_ne_quote
    | cons d t =>
      rw [List.flatMap_cons, List.append_assoc, List.flatMap_cons, List.append_assoc] at h
      obtain ⟨rfl, hrest⟩ := (escapedAs_escape c).append_inj (escapedAs_escape d) h
      obtain ⟨rfl, hxy⟩ := ih hrest
      exact ⟨rfl, hxy⟩

@[simp]
theorem toList_quote (s : String) :
    (quote s).toList = '"' :: (s.toList.flatMap escape ++ ['"']) := String.toList_ofList

/-- **A quoted text** is told from what follows it, and shows the text. -/
theorem quote_append_inj {s t : String} (h : (quote s).toList ++ x = (quote t).toList ++ y) :
    s = t ∧ x = y := by
  simp only [toList_quote, List.cons_append, List.append_assoc] at h
  obtain ⟨hst, hxy⟩ := flatMap_escape_append_inj (List.cons.inj h).2
  exact ⟨String.toList_injective hst, hxy⟩

theorem newline_not_mem_quote (s : String) : '\n' ∉ (quote s).toList := by
  rw [toList_quote]
  simp only [List.mem_cons, List.mem_append, List.mem_flatMap, List.not_mem_nil, or_false, not_or]
  refine ⟨by decide, ?_, by decide⟩
  rintro ⟨c, -, hc⟩
  exact (escapedAs_escape c).newline_not_mem hc

end GradeRelay.Text
