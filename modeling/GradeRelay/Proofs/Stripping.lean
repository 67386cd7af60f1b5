import GradeRelay.Text.Blank
import Mathlib.Data.List.TakeWhile
/-!
# Stripped texts

What is left of a text without a class of characters at both ends, and what of it shows whether it
is blank.

* `strip_eq_nil_iff`: nothing is left exactly when every character belongs to the class;
* `isBlankText_eq_false_iff`: a text is not blank when one of its characters is not;
* `strip_between`, `between_strip`: what stands around the rest is dropped, and no more than that;
* `strip_eq_cons`: what is left begins where the class first ends.
-/

namespace GradeRelay.Text

variable {p : Char → Bool} {cs : List Char}

theorem strip_eq_nil_iff : strip p cs = [] ↔ ∀ c ∈ cs, p c = true := by
  rw [strip, List.reverse_eq_nil_iff, List.dropWhile_eq_nil_iff]
  constructor
  · intro h c hc
    by_cases hd : c ∈ cs.dropWhile p
    · exact h c (List.mem_reverse.2 hd)
    · rw [← List.takeWhile_append_dropWhile (p := p) (l := cs), List.mem_append] at hc
      exact (List.all_eq_true.1 List.all_takeWhile) c (hc.resolve_right hd)
  · intro h c hc
    exact h c ((List.dropWhile_sublist p).subset (List.mem_reverse.1 hc))

theorem isBlankText_eq_false_iff {t : String} :
    isBlankText t = false ↔ ∃ c ∈ t.toList, isBlank c = false := by
  rw [← Bool.not_eq_true, isBlankText, List.isEmpty_iff, strip_eq_nil_iff]
  simp only [Classical.not_forall, exists_prop, Bool.not_eq_true]

theorem strip_between {lead trail : List Char} (hl : ∀ c ∈ lead, p c = true)
    (hcs : ∀ c ∈ cs, p c = false) (ht : ∀ c ∈ trail, p c = true) :
    strip p (lead ++ cs ++ trail) = cs := by
  cases cs with
  | nil =>
    rw [strip_eq_nil_iff]
    intro c hc
    rw [List.append_nil, List.mem_append] at hc
    exact hc.elim (hl c) (ht c)
  | cons c r =>
    have hfront : (lead ++ (c :: r) ++ trail).dropWhile p = c :: r ++ trail := by
      rw [List.append_assoc, List.dropWhile_append_of_pos hl, List.cons_append]
      exact List.dropWhile_cons_of_neg (by simp [hcs c List.mem_cons_self])
    have hback : (c :: r).reverse.dropWhile p = (c :: r).reverse := by
      refine List.dropWhile_eq_self_iff.2 fun h => ?_
      rw [hcs _ (List.mem_reverse.1 (List.getElem_mem h))]
      exact Bool.false_ne_true
    rw [strip, hfront, List.reverse_append,
      List.dropWhile_append_of_pos fun d hd => ht d (List.mem_reverse.1 hd), hback,
      List.reverse_reverse]

theorem between_strip (p : Char → Bool) (cs : List Char) : ∃ lead trail,
    cs = lead ++ strip p cs ++ trail ∧ (∀ c ∈ lead, p c = true) ∧ ∀ c ∈ trail, p c = true := by
  refine ⟨cs.takeWhile p, ((cs.dropWhile p).reverse.takeWhile p).reverse, ?_, fun c hc => ?_,
    fun c hc => ?_⟩
  · rw [strip, List.append_assoc, ← List.reverse_append, List.takeWhile_append_dropWhile,
      List.reverse_reverse, List.takeWhile_append_dropWhile]
  · exact List.all_eq_true.1 List.all_takeWhile c hc
  · exact List.all_eq_true.1 List.all_takeWhile c (List.mem_reverse.1 hc)

theorem strip_eq_cons {rest : List Char} {c : Char} (h : cs.dropWhile p = c :: rest) :
    ∃ kept, strip p cs = c :: kept := by
  have hc : p c = false := by
    have := List.head?_dropWhile_not p cs
    rw [h] at this
    simpa using this
  have hlast : ∃ tail, (rest.reverse ++ [c]).dropWhile p = tail ++ [c] := by
    rw [List.dropWhile_append]
    split
    · exact ⟨[], List.dropWhile_cons_of_neg (Bool.eq_false_iff.1 hc)⟩
    · exact ⟨_, rfl⟩
  obtain ⟨tail, htail⟩ := hlast
  exact ⟨tail.reverse, by rw [strip, h, List.reverse_cons, htail, List.reverse_append]; rfl⟩

end GradeRelay.Text
