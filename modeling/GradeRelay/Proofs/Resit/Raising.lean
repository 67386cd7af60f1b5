import GradeRelay.Proofs.Footprint
import GradeRelay.Proofs.Lists
/-!
# Requests for an allowance

A request is for one learner at one assessment. It leaves the greater of what was permitted and what
is asked for, and says which of the two it was; every other allowance stays.

* `allowance?_raiseAllowance`, `allowance?_raiseAllowance_of_ne`: what a request leaves for its own
  pair and for any other;
* **`raiseAllowance_tells`**: the answer to a request is what happened;
* `Change.Tells.max?_eq`: what is permitted afterwards is a maximum;
* `OnePerPair.raiseAllowance`: no pair ever gets a second row;
* `grantResit_granted`, `Granted.grantResit`: what an attempt earns is allowed once.
-/

namespace GradeRelay

namespace Allowance

/-- Whom an allowance is for. -/
def pair (al : Allowance) : AssessmentId × UserId := (al.assessmentId, al.learnerId)

theorem isFor_iff {al : Allowance} {assessmentId : AssessmentId} {learnerId : UserId} :
    al.isFor assessmentId learnerId = true ↔ al.pair = (assessmentId, learnerId) := by
  simp only [isFor, pair, Bool.and_eq_true, decide_eq_true_eq, Prod.mk.injEq]

/-- A change tells what was permitted before and is permitted now, and that the sittings asked for
are covered. -/
def Change.Tells (before after : Option Ordinal) (asked : Nat) : Change → Prop
  | .created p => before = none ∧ after = some p ∧ p.toNat = asked
  | .raised was now => before = some was ∧ was < now ∧ after = some now ∧ now.toNat = asked
  | .unchanged p => before = some p ∧ after = some p ∧ asked ≤ p.toNat

theorem Change.request_tells (current : Option Ordinal) (n : Ordinal) :
    (Change.request current n).Tells current (some (Change.request current n).permitted)
      n.toNat := by
  cases current with
  | none => exact ⟨rfl, rfl, rfl⟩
  | some p =>
    rw [Change.request]
    by_cases hlt : p < n
    · rw [if_pos hlt]
      exact ⟨rfl, hlt, rfl, rfl⟩
    · rw [if_neg hlt]
      exact ⟨rfl, rfl, UInt32.le_iff_toNat_le.1 (UInt32.not_lt.1 hlt)⟩

variable {change : Change} {before after : Option Ordinal} {asked : Nat}

theorem Change.Tells.asked_le (h : change.Tells before after asked) :
    asked ≤ change.permitted.toNat := by
  cases change with
  | created p => exact Nat.le_of_eq h.2.2.symm
  | raised was now => exact Nat.le_of_eq h.2.2.2.symm
  | unchanged p => exact h.2.2

/-- **What is permitted afterwards** is the greater of what was and what is asked for. -/
theorem Change.Tells.max?_eq (h : change.Tells before after asked) :
    after.map UInt32.toNat = ((before.map UInt32.toNat).toList ++ [asked]).max? := by
  cases change with
  | created p =>
    obtain ⟨rfl, rfl, rfl⟩ := h
    rfl
  | raised was now =>
    obtain ⟨rfl, hlt, rfl, rfl⟩ := h
    have hle := Nat.le_of_lt (UInt32.lt_iff_toNat_lt.1 hlt)
    exact congrArg some (Nat.max_eq_right hle).symm
  | unchanged p =>
    obtain ⟨rfl, rfl, hle⟩ := h
    exact congrArg some (Nat.max_eq_left hle).symm

end Allowance

namespace Store

variable {s : Store} {assessmentId : AssessmentId} {learnerId : UserId} {n : Ordinal}

/-- The sittings permitted to a learner at an assessment. -/
def permitted? (s : Store) (assessmentId : AssessmentId) (learnerId : UserId) : Option Ordinal :=
  (s.allowance? assessmentId learnerId).map (·.permitted)

theorem allowance?_eq_some {al : Allowance} (h : s.allowance? assessmentId learnerId = some al) :
    al = ⟨assessmentId, learnerId, al.permitted⟩ := by
  have hfor := List.find?_some h
  cases Allowance.isFor_iff.1 hfor
  rfl

theorem allowance?_eq_map_permitted? : s.allowance? assessmentId learnerId =
    (s.permitted? assessmentId learnerId).map (⟨assessmentId, learnerId, ·⟩) := by
  rw [permitted?]
  cases h : s.allowance? assessmentId learnerId with
  | none => rfl
  | some al => rw [Option.map_some, Option.map_some, ← allowance?_eq_some h]

theorem isFor_raised (al : Allowance) (a : AssessmentId) (l : UserId) :
    (if al.isFor assessmentId learnerId then { al with permitted := n } else al).isFor a l =
      al.isFor a l := by
  split <;> rfl

/-- **A request leaves** its own pair with what its answer says. -/
theorem allowance?_raiseAllowance (s : Store) (assessmentId : AssessmentId) (learnerId : UserId)
    (n : Ordinal) :
    (s.raiseAllowance assessmentId learnerId n).2.allowance? assessmentId learnerId =
      some ⟨assessmentId, learnerId, (s.raiseAllowance assessmentId learnerId n).1.permitted⟩ := by
  unfold raiseAllowance Allowance.Change.request
  cases hal : s.allowance? assessmentId learnerId with
  | none =>
    rw [allowance?] at hal
    simp only [Option.map_none, allowance?]
    rw [List.find?_append, hal]
    simp [Allowance.isFor, Allowance.Change.permitted]
  | some al =>
    have heq := allowance?_eq_some hal
    simp only [Option.map_some]
    by_cases hlt : al.permitted < n
    · rw [if_pos hlt]
      rw [allowance?] at hal
      have hfor := List.find?_some hal
      simp only [allowance?, Allowance.Change.permitted]
      rw [List.find?_map]
      simp only [Function.comp_def, isFor_raised, hal, Option.map_some, if_pos hfor]
      rw [heq]
    · rw [if_neg hlt]
      exact hal.trans (congrArg some heq)

theorem allowance?_raiseAllowance_of_ne {a : AssessmentId} {l : UserId}
    (hne : ¬ (a = assessmentId ∧ l = learnerId)) :
    (s.raiseAllowance assessmentId learnerId n).2.allowance? a l = s.allowance? a l := by
  unfold raiseAllowance
  dsimp only
  split
  · next p _ =>
    have hnot : Allowance.isFor ⟨assessmentId, learnerId, p⟩ a l = false := by
      refine Bool.eq_false_iff.2 fun hfor => hne ?_
      cases Allowance.isFor_iff.1 hfor
      exact ⟨rfl, rfl⟩
    simp only [allowance?]
    rw [List.find?_append, List.find?_singleton, hnot]
    simp
  · simp only [allowance?]
    rw [List.find?_map]
    simp only [Function.comp_def, isFor_raised]
    cases hal : s.allowances.find? fun al => al.isFor a l with
    | none => rfl
    | some al =>
      have heq := allowance?_eq_some hal
      have hnot : ¬ al.isFor assessmentId learnerId = true := by
        rw [heq]
        intro hfor
        cases Allowance.isFor_iff.1 hfor
        exact hne ⟨rfl, rfl⟩
      rw [Option.map_some, if_neg hnot]
  · rfl

/-- **The answer to a request** is what happened. -/
theorem raiseAllowance_tells (s : Store) (assessmentId : AssessmentId) (learnerId : UserId)
    (n : Ordinal) : (s.raiseAllowance assessmentId learnerId n).1.Tells
      (s.permitted? assessmentId learnerId)
      ((s.raiseAllowance assessmentId learnerId n).2.permitted? assessmentId learnerId)
      n.toNat := by
  rw [permitted?.eq_1 (s.raiseAllowance assessmentId learnerId n).2, allowance?_raiseAllowance]
  exact Allowance.Change.request_tells (s.permitted? assessmentId learnerId) n

/-! ## The table -/

/-- No learner has two allowances at one assessment. -/
def OnePerPair (s : Store) : Prop := (s.allowances.map Allowance.pair).Nodup

theorem OnePerPair.nodup (h : s.OnePerPair) : s.allowances.Nodup :=
  List.Pairwise.of_map Allowance.pair (fun _ _ hne heq => hne (congrArg _ heq)) h

theorem OnePerPair.mem_iff (h : s.OnePerPair) {al : Allowance} :
    al ∈ s.allowances ↔ s.allowance? al.assessmentId al.learnerId = some al := by
  constructor
  · intro hmem
    have hpairs : (s.allowances.map Allowance.pair).Nodup := h
    rw [← find?_key_eq_some hpairs hmem, allowance?]
    congr 1
    funext al'
    exact Bool.eq_iff_iff.2 (Allowance.isFor_iff.trans decide_eq_true_iff.symm)
  · exact List.mem_of_find?_eq_some

theorem OnePerPair.perm {s' : Store} (h : s.OnePerPair) (h' : s'.OnePerPair)
    (hsame : ∀ assessmentId learnerId,
      s'.allowance? assessmentId learnerId = s.allowance? assessmentId learnerId) :
    s'.allowances.Perm s.allowances := by
  refine (List.perm_ext_iff_of_nodup h'.nodup h.nodup).2 fun al => ?_
  rw [h.mem_iff, h'.mem_iff, hsame]

theorem OnePerPair.raiseAllowance (h : s.OnePerPair) (assessmentId : AssessmentId)
    (learnerId : UserId) (n : Ordinal) :
    (s.raiseAllowance assessmentId learnerId n).2.OnePerPair := by
  unfold Store.raiseAllowance Allowance.Change.request
  cases hal : s.allowance? assessmentId learnerId with
  | none =>
    refine nodup_map_concat_iff.2 ⟨h, fun al hmem hpair => ?_⟩
    exact List.find?_eq_none.1 hal al hmem (Allowance.isFor_iff.2 hpair)
  | some al =>
    simp only [Option.map_some]
    by_cases hlt : al.permitted < n
    · have hpairs : (s.allowances.map fun al : Allowance =>
          if al.isFor assessmentId learnerId then { al with permitted := n } else al).map
            Allowance.pair = s.allowances.map Allowance.pair :=
        map_key_map (fun al => by split <;> rfl) _
      rw [if_pos hlt]
      simp only [OnePerPair]
      rw [hpairs]
      exact h
    · rw [if_neg hlt]
      exact h

/-! ## What an attempt earns -/

variable {s' : Store} {assessment : Assessment} {a : Attempt}

/-- An attempt that earns a resit has it allowed already. -/
def Granted (s : Store) (assessment : Assessment) (a : Attempt) : Prop :=
  s.earnsResit assessment a = true → ∃ n allowance, a.number.next? = some n ∧
    s.allowance? assessment.id a.learnerId = some allowance ∧ n ≤ allowance.permitted

/-- **What is earned is allowed** from then on. -/
theorem grantResit_granted {change : Option Allowance.Change}
    (h : s.grantResit assessment a = .ok (change, s')) : s'.Granted assessment a := by
  intro he
  have hearns : s.earnsResit assessment a = true := by
    rw [grantResit_footprint h] at he
    exact he
  rw [grantResit, if_pos hearns] at h
  split at h
  · cases h
  · next n hn =>
    cases h
    have htells := s.raiseAllowance_tells assessment.id a.learnerId n
    exact ⟨n, _, hn, s.allowance?_raiseAllowance assessment.id a.learnerId n,
      UInt32.le_iff_toNat_le.2 htells.asked_le⟩

theorem Granted.grantResit (h : s.Granted assessment a) : ∃ change,
    s.grantResit assessment a = .ok (change, s) ∧
      (change = none ∨ ∃ n, change = some (.unchanged n)) := by
  by_cases he : s.earnsResit assessment a = true
  · obtain ⟨n, allowance, hn, hal, hle⟩ := h he
    refine ⟨some (.unchanged allowance.permitted), ?_, .inr ⟨_, rfl⟩⟩
    have hlt : ¬ allowance.permitted < n := UInt32.not_lt.2 hle
    rw [Store.grantResit, if_pos he, hn]
    simp only [raiseAllowance, hal, Option.map_some, Allowance.Change.request, if_neg hlt]
  · exact ⟨none, by rw [Store.grantResit, if_neg he], .inl rfl⟩

end Store

end GradeRelay
