import Mathlib.Data.List.Forall2
import Mathlib.Data.List.Nodup
import Mathlib.Data.List.TakeWhile
/-!
# Lists of rows

A table is a list of rows under a key that no two of them share, and what is looked up by the key
is one row or none. What is made of a list by a function that may fail is made of each row, in
order. A text that ends before a separator is told from what follows.

* `filter_flatMap_of_key`, `filter_key_eq_singleton`, `find?_key_eq_some`: rows found by their key;
* `nodup_map_append_iff`, `nodup_map_concat_iff`: rows put behind others;
* `find?_key_map`, `map_key_map`: rows rewritten under the keys that they have;
* `mapM_eq_some_iff`: a list that is worked through without failure;
* `filterMap_set_of_eq`, `filterMap_set_perm`: what one element of a list contributes;
* `map_eq_map_of_imp`: two lists that are told apart no better by another function;
* `takeWhile_eq_iff`, `append_cons_inj`: the front of a list, up to a separator;
* `length_concat_add`: places counted from behind one more row;
* `max?_perm`, `max?_toList_append`: the greatest number, in any order and in two goes.
-/

namespace GradeRelay

/-! ## Rows under a key -/

section Keyed

variable {α β κ : Type} [DecidableEq κ] {k : α → κ} {l m : List α} {a : α}

/-- **What several rows bring along** is told apart by their keys. -/
theorem filter_flatMap_of_key {k' : β → κ} {f : α → List β} (hn : (l.map k).Nodup)
    (hf : ∀ a ∈ l, ∀ b ∈ f a, k' b = k a) (ha : a ∈ l) :
    (l.flatMap f).filter (fun b => k' b = k a) = f a := by
  induction l with
  | nil => cases ha
  | cons c l ih =>
    rw [List.map_cons, List.nodup_cons] at hn
    rw [List.forall_mem_cons] at hf
    rw [List.flatMap_cons, List.filter_append]
    rcases List.mem_cons.1 ha with rfl | ha
    · have hother : ∀ b ∈ l.flatMap f, k' b ≠ k a := by
        intro b hb hkey
        obtain ⟨c, hc, hb⟩ := List.mem_flatMap.1 hb
        exact hn.1 (hkey ▸ hf.2 c hc b hb ▸ List.mem_map_of_mem hc)
      rw [List.filter_eq_self.2 fun b hb => decide_eq_true (hf.1 b hb),
        List.filter_eq_nil_iff.2 fun b hb => by simpa using hother b hb, List.append_nil]
    · have hne : k c ≠ k a := fun hkey => hn.1 (hkey ▸ List.mem_map_of_mem ha)
      have hother : ∀ b ∈ f c, k' b ≠ k a := fun b hb => hf.1 b hb ▸ hne
      rw [List.filter_eq_nil_iff.2 fun b hb => by simpa using hother b hb, List.nil_append,
        ih hn.2 hf.2 ha]

theorem filter_key_eq_singleton (hn : (l.map k).Nodup) (ha : a ∈ l) :
    l.filter (fun b => k b = k a) = [a] := by
  have hself : ∀ c ∈ l, ∀ b ∈ [c], k b = k c := fun c _ b hb =>
    congrArg k (List.mem_singleton.1 hb)
  simpa using filter_flatMap_of_key hn hself ha

theorem find?_key_eq_some (hn : (l.map k).Nodup) (ha : a ∈ l) :
    l.find? (fun b => k b = k a) = some a := by
  rw [← List.head?_filter, filter_key_eq_singleton hn ha, List.head?_cons]

omit [DecidableEq κ] in
theorem nodup_map_append_iff : ((l ++ m).map k).Nodup ↔
    (l.map k).Nodup ∧ (m.map k).Nodup ∧ ∀ a ∈ l, ∀ b ∈ m, k a ≠ k b := by
  simp only [List.map_append, List.nodup_append, List.forall_mem_map]

omit [DecidableEq κ] in
theorem nodup_map_concat_iff : ((l ++ [a]).map k).Nodup ↔
    (l.map k).Nodup ∧ ∀ b ∈ l, k b ≠ k a := by
  simp only [nodup_map_append_iff, List.forall_mem_singleton, List.map_singleton,
    List.nodup_singleton, true_and]

theorem any_key_eq_false (hn : ((l ++ a :: m).map k).Nodup) :
    l.any (fun b => k b = k a) = false := by
  simpa using fun b hb => (nodup_map_append_iff.1 hn).2.2 b hb a List.mem_cons_self

variable {f : α → α}

theorem find?_key_map (hf : ∀ a, k (f a) = k a) (l : List α) (x : κ) :
    (l.map f).find? (fun b => k b = x) = (l.find? fun b => k b = x).map f := by
  rw [List.find?_map]
  simp only [Function.comp_def, hf]

omit [DecidableEq κ] in
theorem map_key_map (hf : ∀ a, k (f a) = k a) (l : List α) : (l.map f).map k = l.map k := by
  rw [List.map_map]
  exact List.map_congr_left fun a _ => hf a

theorem map_eq_self_of_any {p : α → Bool} (h : l.any p = false) :
    l.map (fun a => if p a then f a else a) = l := by
  have hp := List.any_eq_false.1 h
  rw [List.map_congr_left fun a ha => if_neg (hp a ha), List.map_id']

end Keyed

/-! ## Lists worked through -/

section Traversed

variable {α β γ : Type} {f : α → Option β} {l l' : List α} {bs : List β}

theorem mapM_eq_some_iff : l.mapM f = some bs ↔ l.map f = bs.map some := by
  induction l generalizing bs with
  | nil => cases bs <;> simp
  | cons a l ih =>
    cases hf : f a with
    | none => cases bs <;> simp [hf]
    | some b =>
      cases bs with
      | nil => simp [hf, Option.bind_eq_some_iff]
      | cons c cs => simp [hf, Option.bind_eq_some_iff, ih, and_comm]

theorem mapM_eq_some_mem (h : l.mapM f = some bs) :
    (∀ b ∈ bs, ∃ a ∈ l, f a = some b) ∧ ∀ a ∈ l, ∃ b ∈ bs, f a = some b := by
  rw [mapM_eq_some_iff] at h
  constructor
  · intro b hb
    exact List.mem_map.1 (h ▸ List.mem_map_of_mem hb)
  · intro a ha
    obtain ⟨b, hb, hab⟩ := List.mem_map.1 (h ▸ List.mem_map_of_mem ha)
    exact ⟨b, hb, hab.symm⟩

theorem mapM_total (h : ∀ a ∈ l, ∃ b, f a = some b) : ∃ bs, l.mapM f = some bs := by
  have hsome : ∀ x ∈ l.map f, x.isSome = true := by
    intro x hx
    obtain ⟨a, ha, rfl⟩ := List.mem_map.1 hx
    obtain ⟨b, hb⟩ := h a ha
    rw [hb, Option.isSome_some]
  refine ⟨l.filterMap f, mapM_eq_some_iff.2 ?_⟩
  rw [List.map_filterMap_some_eq_filter_map_isSome, List.filter_eq_self.2 hsome]

theorem forall₂_of_filterMap_mapM {g : β → Option γ} {cs : List γ}
    (h : (l.filterMap f).mapM g = some cs) :
    List.Forall₂ (fun a c => ∃ b, f a = some b ∧ g b = some c) (l.filter fun a => (f a).isSome)
      cs := by
  rw [mapM_eq_some_iff] at h
  induction l generalizing cs with
  | nil =>
    obtain rfl := List.map_eq_nil_iff.1 h.symm
    exact .nil
  | cons a l ih =>
    cases hf : f a with
    | none =>
      rw [List.filterMap_cons_none hf] at h
      rw [List.filter_cons_of_neg (by simp [hf])]
      exact ih h
    | some b =>
      rw [List.filterMap_cons_some hf] at h
      rw [List.filter_cons_of_pos (by simp [hf])]
      cases cs with
      | nil => cases h
      | cons c cs =>
        obtain ⟨hc, hcs⟩ := List.cons.inj h
        exact .cons ⟨b, hf, hc⟩ (ih hcs)

variable {i : Nat} {x y : α}

theorem exists_set_split (hi : l[i]? = some x) (y : α) :
    ∃ l₁ l₂, l = l₁ ++ x :: l₂ ∧ l.set i y = l₁ ++ y :: l₂ := by
  obtain ⟨h, rfl⟩ := List.getElem?_eq_some_iff.1 hi
  exact (List.exists_of_set h).imp fun l₁ => Exists.imp fun l₂ ⟨hl, _, hset⟩ => ⟨hl, hset⟩

theorem filterMap_set_of_eq (hi : l[i]? = some x) (hf : f y = f x) :
    (l.set i y).filterMap f = l.filterMap f := by
  obtain ⟨l₁, l₂, hl, hset⟩ := exists_set_split hi y
  rw [hset, hl, List.filterMap_append, List.filterMap_append, List.filterMap_cons,
    List.filterMap_cons, hf]

theorem filterMap_set_perm {b : β} (hi : l[i]? = some x) (hx : f x = none) (hy : f y = some b) :
    ((l.set i y).filterMap f).Perm (l.filterMap f ++ [b]) := by
  obtain ⟨l₁, l₂, hl, hset⟩ := exists_set_split hi y
  rw [hset, hl, List.filterMap_append, List.filterMap_append, List.filterMap_cons_some hy,
    List.filterMap_cons_none hx]
  exact List.perm_middle.trans (List.perm_append_singleton b _).symm

end Traversed

/-! ## Lists seen through functions -/

/-- What equal values of one function determine is equal along equal lists of them. -/
theorem map_eq_map_of_imp {α β γ : Type} {f : α → β} {g : α → γ} {l l' : List α}
    (hfg : ∀ a ∈ l, ∀ b ∈ l', f a = f b → g a = g b) (h : l.map f = l'.map f) :
    l.map g = l'.map g := by
  induction l generalizing l' with
  | nil => rw [List.map_eq_nil_iff.1 h.symm]
  | cons a l ih =>
    cases l' with
    | nil => cases h
    | cons b l' =>
      obtain ⟨hab, hrest⟩ := List.cons.inj h
      have hrest := ih (fun x hx y hy => hfg x (.tail a hx) y (.tail b hy)) hrest
      rw [List.map_cons, List.map_cons, hfg a List.mem_cons_self b List.mem_cons_self hab, hrest]

/-! ## Up to a separator -/

section Separated

variable {α : Type} {p : α → Bool} {l w v : List α}

theorem takeWhile_eq_iff : l.takeWhile p = w ↔
    (∀ a ∈ w, p a = true) ∧ (l = w ∨ ∃ stop rest, p stop = false ∧ l = w ++ stop :: rest) := by
  constructor
  · rintro rfl
    refine ⟨List.all_eq_true.1 List.all_takeWhile, ?_⟩
    have hsplit := List.takeWhile_append_dropWhile (p := p) (l := l)
    cases h : l.dropWhile p with
    | nil => exact .inl (by rw [h, List.append_nil] at hsplit; exact hsplit.symm)
    | cons stop rest =>
      have hstop := List.head?_dropWhile_not p l
      rw [h] at hstop hsplit
      exact .inr ⟨stop, rest, by simpa using hstop, hsplit.symm⟩
  · rintro ⟨hw, rfl | ⟨stop, rest, hstop, rfl⟩⟩
    · exact List.takeWhile_eq_self_iff.2 hw
    · rw [List.takeWhile_append_of_pos hw, List.takeWhile_cons_of_neg (by simp [hstop]),
        List.append_nil]

/-- **A word up to a separator** that it does not hold is told from what follows. -/
theorem append_cons_inj [DecidableEq α] {sep : α} {x y : List α} (hw : sep ∉ w) (hv : sep ∉ v)
    (h : w ++ sep :: x = v ++ sep :: y) : w = v ∧ x = y := by
  have hsplit := congrArg (List.splitOn sep) h
  rw [List.splitOn_append_cons_self_of_not_mem hw, List.splitOn_append_cons_self_of_not_mem hv]
    at hsplit
  obtain rfl := (List.cons.inj hsplit).1
  exact ⟨rfl, (List.cons.inj (List.append_cancel_left h)).2⟩

end Separated

/-! ## Numbers -/

theorem length_concat_add {α : Type} (l : List α) (a : α) (j : Nat) :
    (l ++ [a]).length + j = l.length + (j + 1) := by
  rw [List.length_append, List.length_singleton, Nat.add_assoc, Nat.add_comm 1]

theorem max?_toList_append (l l' : List Nat) : (l.max?.toList ++ l').max? = (l ++ l').max? := by
  cases l with
  | nil => rfl
  | cons n rest =>
    rw [List.max?_cons', Option.toList_some, List.singleton_append, List.max?_cons',
      List.cons_append, List.max?_cons', List.foldl_append]

theorem max?_perm {l l' : List Nat} (h : l.Perm l') : l.max? = l'.max? := by
  cases hmax : l'.max? with
  | none =>
    rw [List.max?_eq_none_iff] at hmax ⊢
    rw [hmax] at h
    exact h.eq_nil
  | some n =>
    rw [List.max?_eq_some_iff] at hmax ⊢
    exact ⟨h.mem_iff.2 hmax.1, fun m hm => hmax.2 m (h.mem_iff.1 hm)⟩

end GradeRelay
