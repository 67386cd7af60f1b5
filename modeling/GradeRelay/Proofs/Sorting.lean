import GradeRelay.Store.Sitting
/-!
# Sorted rows

Look-ups that give several rows sort them, and rows of equal rank keep their order. So to sort a
list that begins with a row is to put it before the first row of the others that is not ranked
below it.

* `mergeSort_cons_split`: where the first row of a list goes;
* **`filter_mergeSort`**: rows may be left out before or after sorting;
* **`mergeSort_append`**: rows that all come later are sorted by themselves;
* **`pairwise_mergeSort_rankLt`**, `eq_of_perm_of_pairwise_rankLt`: rows under different numbers
  have one order by rank and number;
* `Step.sequenceLe_trans`, `Step.sequenceLe_total`: the steps on a question are sorted that way.
-/

namespace GradeRelay

section Sorting

variable {α : Type} {le : α → α → Bool}

theorem split_unique {p : α → Bool} {l₁ l₂ k₁ k₂ : List α} (h : l₁ ++ l₂ = k₁ ++ k₂)
    (hl₁ : ∀ x ∈ l₁, p x = false) (hl₂ : ∀ x ∈ l₂, p x = true) (hk₁ : ∀ x ∈ k₁, p x = false)
    (hk₂ : ∀ x ∈ k₂, p x = true) : l₁ = k₁ ∧ l₂ = k₂ := by
  have hpass : ∀ m₁ m₂ : List α, (∀ x ∈ m₁, p x = false) → (∀ x ∈ m₂, p x = true) →
      (m₁ ++ m₂).filter p = m₂ := by
    intro m₁ m₂ h₁ h₂
    have hnone : m₁.filter p = [] :=
      List.filter_eq_nil_iff.2 fun x hx => Bool.eq_false_iff.1 (h₁ x hx)
    rw [List.filter_append, hnone, List.nil_append, List.filter_eq_self.2 h₂]
  have hsame : l₂ = k₂ := by rw [← hpass l₁ l₂ hl₁ hl₂, h, hpass k₁ k₂ hk₁ hk₂]
  subst hsame
  exact ⟨List.append_cancel_right h, rfl⟩

/-- **The first row of a list** goes before all those not ranked below it, and after the rest. -/
theorem mergeSort_cons_split (htr : ∀ a b c, le a b = true → le b c = true → le a c = true)
    (ht : ∀ a b, (le a b || le b a) = true) (a : α) (l : List α) :
    ∃ l₁ l₂, (a :: l).mergeSort le = l₁ ++ a :: l₂ ∧ l.mergeSort le = l₁ ++ l₂ ∧
      (∀ b ∈ l₁, le a b = false) ∧ ∀ b ∈ l₂, le a b = true := by
  obtain ⟨l₁, l₂, hcons, hrest, hbefore⟩ := List.mergeSort_cons htr ht a l
  refine ⟨l₁, l₂, hcons, hrest, fun b hb => Bool.not_eq_true' _ ▸ hbefore b hb, ?_⟩
  have hsorted := List.pairwise_mergeSort htr ht (a :: l)
  rw [hcons] at hsorted
  exact fun b hb => List.rel_of_pairwise_cons (List.pairwise_append.1 hsorted).2.1 hb

/-- **Rows may be left out** before or after sorting. -/
theorem filter_mergeSort (htr : ∀ a b c, le a b = true → le b c = true → le a c = true)
    (ht : ∀ a b, (le a b || le b a) = true) (p : α → Bool) (l : List α) :
    (l.mergeSort le).filter p = (l.filter p).mergeSort le := by
  induction l with
  | nil => simp
  | cons a l ih =>
    obtain ⟨l₁, l₂, hcons, hrest, hbefore, hafter⟩ := mergeSort_cons_split htr ht a l
    rw [hrest, List.filter_append] at ih
    rw [hcons, List.filter_append]
    by_cases ha : p a = true
    · obtain ⟨k₁, k₂, hcons', hrest', hbefore', hafter'⟩ :=
        mergeSort_cons_split htr ht a (l.filter p)
      rw [hrest'] at ih
      obtain ⟨hk₁, hk₂⟩ := split_unique ih (fun b hb => hbefore b (List.mem_filter.1 hb).1)
        (fun b hb => hafter b (List.mem_filter.1 hb).1) hbefore' hafter'
      rw [List.filter_cons_of_pos ha, List.filter_cons_of_pos ha, hcons', hk₁, hk₂]
    · rw [List.filter_cons_of_neg ha, List.filter_cons_of_neg ha, ih]

/-- **Rows that all come later** are sorted by themselves. -/
theorem mergeSort_append (htr : ∀ a b c, le a b = true → le b c = true → le a c = true)
    (ht : ∀ a b, (le a b || le b a) = true) {l m : List α}
    (h : ∀ a ∈ l, ∀ b ∈ m, le a b = true) :
    (l ++ m).mergeSort le = l.mergeSort le ++ m.mergeSort le := by
  induction l with
  | nil => simp
  | cons a l ih =>
    obtain ⟨ha, hl⟩ := List.forall_mem_cons.1 h
    have ih := ih hl
    obtain ⟨l₁, l₂, hcons, hrest, hbefore, hafter⟩ := mergeSort_cons_split htr ht a l
    obtain ⟨k₁, k₂, hcons', hrest', hbefore', hafter'⟩ := mergeSort_cons_split htr ht a (l ++ m)
    rw [hrest, hrest', List.append_assoc] at ih
    have hlater : ∀ b ∈ l₂ ++ m.mergeSort le, le a b = true := by
      intro b hb
      rcases List.mem_append.1 hb with hb | hb
      · exact hafter b hb
      · exact ha b (List.mem_mergeSort.1 hb)
    obtain ⟨hk₁, hk₂⟩ := split_unique ih hbefore' hafter' hbefore hlater
    rw [List.cons_append, hcons', hcons, hk₁, hk₂, List.append_assoc, List.cons_append]

end Sorting

/-! ## Rows in the order of a rank -/

section Ranked

variable {α : Type} {rank : α → Ordinal} {id : α → Int} {l l' : List α}

/-- The first row is no later in rank, then in number of row. -/
def rankLe (rank : α → Ordinal) (id : α → Int) (a b : α) : Bool :=
  rank a < rank b || (rank a = rank b && id a ≤ id b)

/-- The first row comes before the second in rank, or in number of row where the ranks are one. -/
def RankLt (rank : α → Ordinal) (id : α → Int) (a b : α) : Prop :=
  rank a < rank b ∨ rank a = rank b ∧ id a < id b

theorem rankLe_iff {a b : α} : rankLe rank id a b = true ↔
    rank a < rank b ∨ rank a = rank b ∧ id a ≤ id b := by
  simp only [rankLe, Bool.or_eq_true, Bool.and_eq_true, decide_eq_true_eq]

theorem rankLe_trans (rank : α → Ordinal) (id : α → Int) (a b c : α)
    (hab : rankLe rank id a b = true) (hbc : rankLe rank id b c = true) :
    rankLe rank id a c = true := by
  rw [rankLe_iff] at hab hbc ⊢
  rcases hab with hab | ⟨hab, hid⟩
  · exact .inl (hbc.elim (UInt32.lt_trans hab) fun h => h.1 ▸ hab)
  · exact hbc.imp (fun h => hab ▸ h) fun h => ⟨hab.trans h.1, Int.le_trans hid h.2⟩

theorem rankLe_total (rank : α → Ordinal) (id : α → Int) (a b : α) :
    (rankLe rank id a b || rankLe rank id b a) = true := by
  rw [Bool.or_eq_true, rankLe_iff, rankLe_iff]
  by_cases hs : rank a = rank b
  · exact (Int.le_total (id a) (id b)).imp (fun h => .inr ⟨hs, h⟩) fun h => .inr ⟨hs.symm, h⟩
  · rw [← UInt32.toNat_inj] at hs
    rw [UInt32.lt_iff_toNat_lt, UInt32.lt_iff_toNat_lt]
    omega

theorem RankLt.asymm {a b : α} (h : RankLt rank id a b) : ¬ RankLt rank id b a := by
  unfold RankLt at h ⊢
  rw [UInt32.lt_iff_toNat_lt, ← UInt32.toNat_inj] at h ⊢
  omega

/-- **Rows under different numbers** have one place each once they are sorted. -/
theorem pairwise_mergeSort_rankLt (hn : (l.map id).Nodup) :
    (l.mergeSort (rankLe rank id)).Pairwise (RankLt rank id) := by
  have hsorted := List.pairwise_mergeSort (rankLe_trans rank id) (rankLe_total rank id) l
  have hperm := (List.mergeSort_perm l (rankLe rank id)).map id
  have hapart := List.pairwise_map.1 (hperm.nodup_iff.2 hn)
  refine (hsorted.and hapart).imp fun ⟨hle, hne⟩ => ?_
  exact (rankLe_iff.1 hle).imp_right fun ⟨hs, hid⟩ => ⟨hs, Int.lt_iff_le_and_ne.2 ⟨hid, hne⟩⟩

theorem eq_of_perm_of_pairwise_rankLt (hp : l.Perm l') (hl : l.Pairwise (RankLt rank id))
    (hl' : l'.Pairwise (RankLt rank id)) : l = l' :=
  hp.eq_of_pairwise (fun _ _ _ _ hab hba => absurd hba hab.asymm) hl hl'

end Ranked

/-! ## The order of steps -/

theorem Step.sequenceLe_iff {a b : Step} : sequenceLe a b = true ↔
    a.sequence < b.sequence ∨ a.sequence = b.sequence ∧ a.id ≤ b.id :=
  @rankLe_iff Step sequence id a b

theorem Step.sequenceLe_trans (a b c : Step) (hab : sequenceLe a b = true)
    (hbc : sequenceLe b c = true) : sequenceLe a c = true :=
  rankLe_trans sequence id a b c hab hbc

theorem Step.sequenceLe_total (a b : Step) : (sequenceLe a b || sequenceLe b a) = true :=
  rankLe_total sequence id a b

end GradeRelay
