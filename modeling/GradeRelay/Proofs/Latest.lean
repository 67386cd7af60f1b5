import GradeRelay.Latest
import Mathlib.Order.Lattice
/-!
# The latest of several

Where the latest of a list stands, what may be left out of the list without changing it, and which
it is where the comparison is one of ranks.

* `le_latest?`: the latest of a list is no earlier than any other of it;
* `latest?_eq_some_iff`, `latest?_filter`, `latest?_of_filter`: where it stands, and what may be
  left out of the list;
* `latest?_eq_some_iff_lastBy`: by rank, it is the last of the highest;
* `latest?_filter_eq_some_iff`: of a class without two of one rank, it is the greatest.
-/

namespace GradeRelay

/-! ## Where it stands -/

section Latest

variable {α : Type} {le : α → α → Bool}

theorem le_laterOf (ht : ∀ a b, le a b = true ∨ le b a = true) (a b : α) :
    le a (laterOf le a b) = true ∧ le b (laterOf le a b) = true := by
  unfold laterOf
  by_cases hab : le a b = true
  · rw [if_pos hab]
    exact ⟨hab, (ht b b).elim id id⟩
  · rw [if_neg hab]
    exact ⟨(ht a a).elim id id, (ht a b).resolve_left hab⟩

theorem le_foldl_laterOf (ht : ∀ a b, le a b = true ∨ le b a = true)
    (htr : ∀ a b c, le a b = true → le b c = true → le a c = true) (l : List α) (a : α) :
    le a (l.foldl (laterOf le) a) = true ∧ ∀ b ∈ l, le b (l.foldl (laterOf le) a) = true := by
  induction l generalizing a with
  | nil => exact ⟨(ht a a).elim id id, fun b hb => nomatch hb⟩
  | cons c rest ih =>
    obtain ⟨hac, hcc⟩ := le_laterOf ht a c
    obtain ⟨hm, hrest⟩ := ih (laterOf le a c)
    rw [List.foldl_cons]
    refine ⟨htr _ _ _ hac hm, fun b hb => ?_⟩
    rcases List.mem_cons.1 hb with rfl | hb
    · exact htr _ _ _ hcc hm
    · exact hrest b hb

theorem le_latest? (ht : ∀ a b, le a b = true ∨ le b a = true)
    (htr : ∀ a b c, le a b = true → le b c = true → le a c = true) {l : List α} {m b : α}
    (h : latest? le l = some m) (hb : b ∈ l) : le b m = true := by
  cases l with
  | nil => cases hb
  | cons a rest =>
    obtain rfl := Option.some.inj h
    obtain ⟨ha, hrest⟩ := le_foldl_laterOf ht htr rest a
    rcases List.mem_cons.1 hb with rfl | hb
    · exact ha
    · exact hrest b hb

theorem foldl_laterOf_of_lt {l : List α} {a : α} (h : ∀ b ∈ l, le a b = false) :
    l.foldl (laterOf le) a = a := by
  induction l with
  | nil => rfl
  | cons b rest ih =>
    obtain ⟨hb, hrest⟩ := List.forall_mem_cons.1 h
    rw [List.foldl_cons, laterOf, if_neg (by rw [hb]; exact Bool.false_ne_true)]
    exact ih hrest

theorem foldl_laterOf_split (ht : ∀ a b, le a b = true ∨ le b a = true)
    (htr : ∀ a b c, le a b = true → le b c = true → le a c = true) (l : List α) (a : α) :
    ∃ l₁ l₂, a :: l = l₁ ++ l.foldl (laterOf le) a :: l₂ ∧
      (∀ b ∈ l₁, le b (l.foldl (laterOf le) a) = true) ∧
      ∀ b ∈ l₂, le (l.foldl (laterOf le) a) b = false := by
  induction l generalizing a with
  | nil => exact ⟨[], [], rfl, fun _ h => (nomatch h), fun _ h => (nomatch h)⟩
  | cons b rest ih =>
    rw [List.foldl_cons]
    obtain ⟨l₁, l₂, hl, hbefore, hafter⟩ := ih (laterOf le a b)
    have hle := (le_foldl_laterOf ht htr rest (laterOf le a b)).1
    by_cases hab : le a b = true
    · have hb : laterOf le a b = b := if_pos hab
      rw [hb] at hl hbefore hafter hle ⊢
      exact ⟨a :: l₁, l₂, by rw [hl, List.cons_append],
        List.forall_mem_cons.2 ⟨htr _ _ _ hab hle, hbefore⟩, hafter⟩
    · have ha : laterOf le a b = a := if_neg hab
      rw [ha] at hl hbefore hafter hle ⊢
      cases l₁ with
      | nil =>
        obtain ⟨hw, rfl⟩ := List.cons.inj hl
        rw [← hw] at hafter ⊢
        exact ⟨[], b :: rest, rfl, fun _ h => (nomatch h),
          List.forall_mem_cons.2 ⟨Bool.eq_false_iff.2 hab, hafter⟩⟩
      | cons a' l₁ =>
        obtain ⟨rfl, hrest⟩ := List.cons.inj hl
        obtain ⟨haw, hbefore⟩ := List.forall_mem_cons.1 hbefore
        have hba : le b a = true := (ht a b).resolve_left hab
        refine ⟨a :: b :: l₁, l₂, congrArg (a :: b :: ·) hrest, ?_, hafter⟩
        exact List.forall_mem_cons.2
          ⟨haw, List.forall_mem_cons.2 ⟨htr _ _ _ hba haw, hbefore⟩⟩

/-- **The latest of a list** is no earlier than what stands before it, and later than what follows.
-/
theorem latest?_eq_some_iff (ht : ∀ a b, le a b = true ∨ le b a = true)
    (htr : ∀ a b c, le a b = true → le b c = true → le a c = true) {l : List α} {m : α} :
    latest? le l = some m ↔ ∃ l₁ l₂, l = l₁ ++ m :: l₂ ∧ (∀ b ∈ l₁, le b m = true) ∧
      ∀ b ∈ l₂, le m b = false := by
  constructor
  · intro h
    cases l with
    | nil => cases h
    | cons a rest =>
      obtain rfl := Option.some.inj h
      exact foldl_laterOf_split ht htr rest a
  · rintro ⟨l₁, l₂, rfl, hbefore, hafter⟩
    cases l₁ with
    | nil => exact congrArg some (foldl_laterOf_of_lt hafter)
    | cons a l₁ =>
      have hm : laterOf le (l₁.foldl (laterOf le) a) m = m :=
        if_pos (hbefore _ (foldl_laterOf_mem le l₁ a))
      rw [List.cons_append, latest?, List.foldl_append, List.foldl_cons, hm,
        foldl_laterOf_of_lt hafter]

variable {p : α → Bool} {l : List α} {m : α}

theorem latest?_filter (ht : ∀ a b, le a b = true ∨ le b a = true)
    (htr : ∀ a b c, le a b = true → le b c = true → le a c = true)
    (h : latest? le l = some m) (hp : p m = true) : latest? le (l.filter p) = some m := by
  obtain ⟨l₁, l₂, rfl, hbefore, hafter⟩ := (latest?_eq_some_iff ht htr).1 h
  refine (latest?_eq_some_iff ht htr).2
    ⟨l₁.filter p, l₂.filter p, ?_, fun b hb => ?_, fun b hb => ?_⟩
  · rw [List.filter_append, List.filter_cons_of_pos hp]
  · exact hbefore b (List.mem_filter.1 hb).1
  · exact hafter b (List.mem_filter.1 hb).1

/-- Elements earlier than the latest one do not matter to it. -/
theorem latest?_of_filter (ht : ∀ a b, le a b = true ∨ le b a = true)
    (htr : ∀ a b c, le a b = true → le b c = true → le a c = true)
    (h : latest? le (l.filter p) = some m) (hlt : ∀ b ∈ l, p b = false → le m b = false) :
    latest? le l = some m := by
  obtain ⟨k₁, k₂, hk, hbefore, hafter⟩ := (latest?_eq_some_iff ht htr).1 h
  obtain ⟨l₁, l', rfl, rfl, hl'⟩ := List.filter_eq_append_iff.1 hk
  obtain ⟨l₀, l₂, rfl, hl₀, -, rfl⟩ := List.filter_eq_cons_iff.1 hl'
  refine (latest?_eq_some_iff ht htr).2 ⟨l₁ ++ l₀, l₂, by rw [List.append_assoc], fun b hb => ?_,
    fun b hb => ?_⟩
  · by_cases hpb : p b = true
    · rcases List.mem_append.1 hb with hb | hb
      · exact hbefore b (List.mem_filter.2 ⟨hb, hpb⟩)
      · exact absurd hpb (hl₀ b hb)
    · have hmb := hlt b (by rcases List.mem_append.1 hb with hb | hb <;> simp [hb])
        (Bool.eq_false_iff.2 hpb)
      exact (ht b m).resolve_right (by rw [hmb]; exact Bool.false_ne_true)
  · by_cases hpb : p b = true
    · exact hafter b (List.mem_filter.2 ⟨hb, hpb⟩)
    · exact hlt b (by simp [hb]) (Bool.eq_false_iff.2 hpb)

end Latest

/-! ## The last of the highest -/

section LastBy

variable {α β : Type} [LinearOrder β] {rank : α → β} {le : α → α → Bool} {l : List α} {m : α}

/-- The element stands in the list with none higher before it and only lower ones after it. -/
def LastBy (rank : α → β) (l : List α) (m : α) : Prop :=
  ∃ l₁ l₂, l = l₁ ++ m :: l₂ ∧ (∀ b ∈ l₁, rank b ≤ rank m) ∧ ∀ b ∈ l₂, rank b < rank m

/-- **The latest of a list** under a comparison by rank is the last of the highest. -/
theorem latest?_eq_some_iff_lastBy (hle : ∀ a b, le a b = true ↔ rank a ≤ rank b) :
    latest? le l = some m ↔ LastBy rank l m := by
  have htotal : ∀ a b, le a b = true ∨ le b a = true := fun a b =>
    (le_total (rank a) (rank b)).imp (hle a b).2 (hle b a).2
  have htrans : ∀ a b c, le a b = true → le b c = true → le a c = true := fun a b c hab hbc =>
    (hle a c).2 (le_trans ((hle a b).1 hab) ((hle b c).1 hbc))
  have hlt : ∀ b, le m b = false ↔ rank b < rank m := fun b => by
    rw [← Bool.not_eq_true, hle, not_le]
  rw [latest?_eq_some_iff htotal htrans]
  simp only [LastBy, hle, hlt]

theorem LastBy.rank_le (h : LastBy rank l m) {b : α} (hb : b ∈ l) : rank b ≤ rank m := by
  obtain ⟨l₁, l₂, rfl, hbefore, hafter⟩ := h
  rcases List.mem_append.1 hb with hb | hb
  · exact hbefore b hb
  · rcases List.mem_cons.1 hb with rfl | hb
    · exact le_refl _
    · exact le_of_lt (hafter b hb)

end LastBy

/-! ## The greatest of a class -/

section Greatest

variable {α β : Type} [LinearOrder β] {rank : α → β} {P : α → Prop} {p : α → Bool}
  {le : α → α → Bool} {l l' : List α} {a b : α}

/-- Of the members of a list that have a property, all others have a lower rank. -/
structure Greatest (rank : α → β) (P : α → Prop) (l : List α) (a : α) : Prop where
  mem : a ∈ l
  holds : P a
  above : ∀ b ∈ l, P b → b ≠ a → rank b < rank a

theorem Greatest.unique (ha : Greatest rank P l a) (hb : Greatest rank P l b) : a = b := by
  by_contra hne
  exact lt_asymm (ha.above b hb.mem hb.holds (Ne.symm hne)) (hb.above a ha.mem ha.holds hne)

theorem Greatest.congr (h : Greatest rank P l a) (hl : ∀ b, P b → (b ∈ l' ↔ b ∈ l)) :
    Greatest rank P l' a where
  mem := (hl a h.holds).2 h.mem
  holds := h.holds
  above b hb hP := h.above b ((hl b hP).1 hb) hP

/-- **The latest of a class** is the greatest, where no two members of the list have one rank. -/
theorem latest?_filter_eq_some_iff (hle : ∀ a b, le a b = true ↔ rank a ≤ rank b)
    (hinj : ∀ a ∈ l, ∀ b ∈ l, rank a = rank b → a = b) :
    latest? le (l.filter p) = some a ↔ Greatest rank (fun a => p a = true) l a := by
  have hgreatest {m : α} (h : latest? le (l.filter p) = some m) :
      Greatest rank (fun a => p a = true) l m := by
    obtain ⟨hm, hpm⟩ := List.mem_filter.1 (mem_of_latest? h)
    refine ⟨hm, hpm, fun b hb hpb hne => lt_of_le_of_ne ?_ fun heq => hne (hinj b hb m hm heq)⟩
    exact ((latest?_eq_some_iff_lastBy hle).1 h).rank_le (List.mem_filter.2 ⟨hb, hpb⟩)
  constructor
  · exact hgreatest
  · intro ha
    cases h : latest? le (l.filter p) with
    | none =>
      have hmem : a ∈ l.filter p := List.mem_filter.2 ⟨ha.mem, ha.holds⟩
      rw [latest?_eq_none_iff.1 h] at hmem
      cases hmem
    | some m => rw [(hgreatest h).unique ha]

theorem latest?_map {γ : Type} {le : γ → γ → Bool} (f : α → γ) (l : List α) :
    latest? le (l.map f) = (latest? (fun a b => le (f a) (f b)) l).map f := by
  have hlater : ∀ a b, laterOf le (f a) (f b) = f (laterOf (fun a b => le (f a) (f b)) a b) :=
    fun a b => (apply_ite f _ _ _).symm
  cases l with
  | nil => rfl
  | cons a rest =>
    simp only [List.map_cons, latest?, Option.map_some, List.foldl_map]
    rw [List.foldl_hom f]
    exact fun a b => hlater a b

end Greatest

end GradeRelay
