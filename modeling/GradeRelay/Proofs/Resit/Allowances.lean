import GradeRelay.Proofs.Footprint
import GradeRelay.Proofs.Resit.Raising
import GradeRelay.Proofs.Sample
/-!
# Allowances as running maxima

Sittings are asked for outright, or by an attempt that earns a resit; what is permitted is the most
that was ever asked for. A `Turn` is one call together with the stores before and after it, so that
what an attempt earns is judged at the time when it was looked at. Whether it earns anything depends
on the source rows alone, hence not on when sittings are asked for outright.

* `answer_ok`, `answer_truthful`: what a call asks for, and what it does about it;
* `follow_permitted`: what a run of calls leaves is the greatest of what was asked for;
* `demandsFrom_perm`: what is asked for does not depend on when the outright requests come;
* **`allowances_running_maximum`**: the allowances after any run of calls.
-/

namespace GradeRelay

namespace Allowance

/-! ## Calls -/

/-- What may happen to the allowances next: so many sittings are asked for, an attempt is looked at
that may earn its learner another, or every other table is rewritten from elsewhere. -/
inductive Call where
  | request (assessmentId : AssessmentId) (learnerId : UserId) (atLeast : Ordinal)
  | grant (assessment : Assessment) (a : Attempt)
  | elsewhere (t : Store)

/-- So many sittings, asked for a learner at an assessment. -/
structure Demand where
  assessmentId : AssessmentId
  learnerId : UserId
  sittings : Nat

/-- The sittings asked for, if they are for this learner at this assessment. -/
def Demand.for? (assessmentId : AssessmentId) (learnerId : UserId) (d : Demand) : Option Nat :=
  if d.assessmentId = assessmentId ∧ d.learnerId = learnerId then some d.sittings else none

namespace Call

/-- The call asks for sittings. -/
def isRequest : Call → Bool
  | .request .. => true
  | _ => false

/-- What a call asks for in the store that it finds: an attempt that earns a resit asks for the
sitting after it. -/
def demand? (s : Store) : Call → Option Demand
  | .request assessmentId learnerId atLeast => some ⟨assessmentId, learnerId, atLeast.toNat⟩
  | .grant assessment a =>
    if s.earnsResit assessment a then some ⟨assessment.id, a.learnerId, a.number.toNat + 1⟩
    else none
  | .elsewhere _ => none

/-- The store whose source rows are there after a call. -/
def sources (s : Store) : Call → Store
  | .elsewhere t => t
  | _ => s

theorem demand?_congr {s t : Store} (h : s.completions = t.completions) (c : Call) :
    c.demand? s = c.demand? t := by
  cases c with
  | request assessmentId learnerId atLeast => rfl
  | elsewhere u => rfl
  | grant assessment a =>
    have hearns : s.earnsResit assessment a = t.earnsResit assessment a := by
      unfold Store.earnsResit Store.isCompleted
      rw [h]
    rw [demand?, demand?, hearns]

theorem sources_congr {s t : Store} (h : s.completions = t.completions) (c : Call) :
    (c.sources s).completions = (c.sources t).completions := by
  cases c with
  | elsewhere u => rfl
  | request assessmentId learnerId atLeast => exact h
  | grant assessment a => exact h

theorem demand?_of_isRequest {c : Call} (h : c.isRequest = true) (s t : Store) :
    c.demand? s = c.demand? t := by
  cases c with
  | request assessmentId learnerId atLeast => rfl
  | grant assessment a => cases h
  | elsewhere u => cases h

theorem sources_of_isRequest {c : Call} (h : c.isRequest = true) (s : Store) : c.sources s = s := by
  cases c with
  | request assessmentId learnerId atLeast => rfl
  | grant assessment a => cases h
  | elsewhere u => cases h

end Call

/-- What calls ask for, one after the other, where every one of them is answered. -/
def demandsFrom (s : Store) : List Call → List Demand
  | [] => []
  | c :: rest => (c.demand? s).toList ++ demandsFrom (c.sources s) rest

/-- The same calls with the outright requests in any order and at any place. -/
structure Reordered (calls calls' : List Call) : Prop where
  requests : (calls.filter (·.isRequest)).Perm (calls'.filter (·.isRequest))
  others : calls.filter (!·.isRequest) = calls'.filter (!·.isRequest)

/-- **Outright requests may come first**: nothing else asks for more or for less. -/
theorem demandsFrom_perm (u s : Store) (calls : List Call) :
    (demandsFrom s calls).Perm ((calls.filter (·.isRequest)).filterMap (·.demand? u) ++
      demandsFrom s (calls.filter (!·.isRequest))) := by
  induction calls generalizing s with
  | nil => exact .nil
  | cons c rest ih =>
    by_cases hc : c.isRequest = true
    · have hdrop : (c :: rest).filter (!·.isRequest) = rest.filter (!·.isRequest) :=
        List.filter_cons_of_neg (by simp [hc])
      rw [List.filter_cons_of_pos hc, hdrop, demandsFrom, Call.sources_of_isRequest hc,
        Call.demand?_of_isRequest hc s u]
      cases hd : c.demand? u with
      | none =>
        rw [List.filterMap_cons_none hd]
        exact ih s
      | some d =>
        rw [List.filterMap_cons_some hd]
        exact (ih s).cons d
    · have hkeep : (c :: rest).filter (!·.isRequest) = c :: rest.filter (!·.isRequest) :=
        List.filter_cons_of_pos (by simp [hc])
      rw [List.filter_cons_of_neg hc, hkeep, demandsFrom, demandsFrom]
      exact ((ih (c.sources s)).append_left _).trans (List.perm_append_comm_assoc _ _ _)

theorem Reordered.demandsFrom_perm {calls calls' : List Call} (h : Reordered calls calls')
    (s : Store) : (demandsFrom s calls').Perm (demandsFrom s calls) := by
  refine (Allowance.demandsFrom_perm s s calls').trans ?_
  rw [← h.others]
  exact ((h.requests.symm.filterMap _).append_right _).trans
    (Allowance.demandsFrom_perm s s calls).symm

/-! ## Turns -/

/-- A call, what it was answered, and the stores that it found and left. -/
structure Turn where
  call : Call
  before : Store
  change : Option Change
  after : Store

namespace Turn

/-- What the call asked for in the store that it found. -/
def demand? (t : Turn) : Option Demand := t.call.demand? t.before

/-- The answer tells what was done for whom sittings were asked for, and nothing was done for
anyone else. -/
def Truthful (t : Turn) : Prop :=
  match t.demand? with
  | none => t.change = none ∧ t.after.allowances = t.before.allowances
  | some d =>
    (∃ change, t.change = some change ∧
      change.Tells (t.before.permitted? d.assessmentId d.learnerId)
        (t.after.permitted? d.assessmentId d.learnerId) d.sittings) ∧
      ∀ assessmentId learnerId, ¬ (assessmentId = d.assessmentId ∧ learnerId = d.learnerId) →
        t.after.allowance? assessmentId learnerId = t.before.allowance? assessmentId learnerId

variable {t : Turn}

theorem Truthful.lt_size (h : t.Truthful) {d : Demand} (hd : t.demand? = some d) :
    d.sittings < UInt32.size := by
  rw [Truthful, hd] at h
  obtain ⟨⟨change, -, htells⟩, -⟩ := h
  exact Nat.lt_of_le_of_lt htells.asked_le change.permitted.toNat_lt

theorem Truthful.permitted?_eq (h : t.Truthful) (assessmentId : AssessmentId)
    (learnerId : UserId) :
    (t.after.permitted? assessmentId learnerId).map UInt32.toNat =
      (((t.before.permitted? assessmentId learnerId).map UInt32.toNat).toList ++
        (t.demand?.bind (·.for? assessmentId learnerId)).toList).max? := by
  have hsame : t.after.allowance? assessmentId learnerId =
      t.before.allowance? assessmentId learnerId →
        (t.after.permitted? assessmentId learnerId).map UInt32.toNat =
          (((t.before.permitted? assessmentId learnerId).map UInt32.toNat).toList ++ []).max? := by
    intro heq
    rw [Store.permitted?, Store.permitted?, heq]
    cases t.before.allowance? assessmentId learnerId <;> rfl
  cases hd : t.demand? with
  | none =>
    rw [Truthful, hd] at h
    refine hsame ?_
    rw [Store.allowance?, Store.allowance?, h.2]
  | some d =>
    rw [Truthful, hd] at h
    obtain ⟨⟨change, -, htells⟩, hothers⟩ := h
    by_cases hfor : d.assessmentId = assessmentId ∧ d.learnerId = learnerId
    · rw [Option.bind_some, Demand.for?, if_pos hfor, ← hfor.1, ← hfor.2]
      exact htells.max?_eq
    · rw [Option.bind_some, Demand.for?, if_neg hfor]
      exact hsame (hothers _ _ fun he => hfor ⟨he.1.symm, he.2.symm⟩)

end Turn

end Allowance

namespace Store

open Allowance

variable {s s' t : Store} {c : Call} {change : Option Allowance.Change} {calls : List Call}
  {turns : List Turn}

/-! ## One call -/

/-- What a call answers, and the store that it leaves. -/
def answer (s : Store) : Call → Except Fault (Option Allowance.Change × Store)
  | .request assessmentId learnerId atLeast =>
    .ok (some (s.raiseAllowance assessmentId learnerId atLeast).1,
      (s.raiseAllowance assessmentId learnerId atLeast).2)
  | .grant assessment a => s.grantResit assessment a
  | .elsewhere t => .ok (none, { t with allowances := s.allowances })

/-- **What a call does**: it asks for nothing and leaves the allowances as they are, or it is a
request for what it asks. -/
theorem answer_ok (h : s.answer c = .ok (change, s')) :
    (c.demand? s = none ∧ change = none ∧ s'.allowances = s.allowances) ∨
      ∃ assessmentId learnerId n, c.demand? s = some ⟨assessmentId, learnerId, n.toNat⟩ ∧
        change = some (s.raiseAllowance assessmentId learnerId n).1 ∧
        s' = (s.raiseAllowance assessmentId learnerId n).2 := by
  cases c with
  | request assessmentId learnerId atLeast =>
    cases h
    exact .inr ⟨assessmentId, learnerId, atLeast, rfl, rfl, rfl⟩
  | elsewhere t =>
    cases h
    exact .inl ⟨rfl, rfl, rfl⟩
  | grant assessment a =>
    simp only [answer, grantResit] at h
    by_cases hearns : s.earnsResit assessment a = true
    · rw [if_pos hearns] at h
      cases hn : a.number.next? with
      | none =>
        rw [hn] at h
        cases h
      | some n =>
        rw [hn] at h
        cases h
        refine .inr ⟨assessment.id, a.learnerId, n, ?_, rfl, rfl⟩
        rw [Call.demand?, if_pos hearns, Ordinal.next?_eq_some_iff.1 hn]
    · rw [if_neg hearns] at h
      cases h
      exact .inl ⟨if_neg hearns, rfl, rfl⟩

theorem answer_total (h : ∀ d, c.demand? s = some d → d.sittings < UInt32.size) :
    ∃ change s', s.answer c = .ok (change, s') := by
  cases c with
  | request assessmentId learnerId atLeast => exact ⟨_, _, rfl⟩
  | elsewhere t => exact ⟨_, _, rfl⟩
  | grant assessment a =>
    simp only [answer, grantResit]
    by_cases hearns : s.earnsResit assessment a = true
    · have hlt := h ⟨assessment.id, a.learnerId, a.number.toNat + 1⟩ (if_pos hearns)
      have hn : a.number.next? = some (UInt32.ofNat (a.number.toNat + 1)) :=
        Ordinal.next?_eq_some_iff.2 (UInt32.toNat_ofNat_of_lt hlt)
      rw [if_pos hearns, hn]
      exact ⟨_, _, rfl⟩
    · rw [if_neg hearns]
      exact ⟨_, _, rfl⟩

theorem answer_truthful (h : s.answer c = .ok (change, s')) :
    Turn.Truthful ⟨c, s, change, s'⟩ := by
  rcases answer_ok h with ⟨hd, hchange, hs⟩ | ⟨assessmentId, learnerId, n, hd, rfl, rfl⟩
  · have hdemand : Turn.demand? ⟨c, s, change, s'⟩ = none := hd
    rw [Turn.Truthful, hdemand]
    exact ⟨hchange, hs⟩
  · have hdemand : Turn.demand? ⟨c, s, some (s.raiseAllowance assessmentId learnerId n).1,
        (s.raiseAllowance assessmentId learnerId n).2⟩ = some _ := hd
    rw [Turn.Truthful, hdemand]
    exact ⟨⟨_, rfl, raiseAllowance_tells s assessmentId learnerId n⟩,
      fun a l hne => allowance?_raiseAllowance_of_ne hne⟩

theorem answer_completions (h : s.answer c = .ok (change, s')) :
    s'.completions = (c.sources s).completions := by
  cases c with
  | elsewhere t =>
    cases h
    rfl
  | request assessmentId learnerId atLeast =>
    cases h
    rw [raiseAllowance_footprint]
    rfl
  | grant assessment a =>
    rw [grantResit_footprint h]
    rfl

theorem OnePerPair.answer (hs : s.OnePerPair) (h : s.answer c = .ok (change, s')) :
    s'.OnePerPair := by
  rcases answer_ok h with ⟨-, -, heq⟩ | ⟨assessmentId, learnerId, n, -, -, rfl⟩
  · rw [OnePerPair, heq]
    exact hs
  · exact hs.raiseAllowance assessmentId learnerId n

/-! ## Any number of calls -/

/-- Calls one after the other, until one fails. -/
def follow (s : Store) : List Call → Except Fault (List Turn × Store)
  | [] => .ok ([], s)
  | c :: rest =>
    match s.answer c with
    | .error f => .error f
    | .ok (change, s') => (follow s' rest).map fun r => (⟨c, s, change, s'⟩ :: r.1, r.2)

theorem follow_cons (h : s.follow (c :: calls) = .ok (turns, s')) :
    ∃ change s₁ late, s.answer c = .ok (change, s₁) ∧ s₁.follow calls = .ok (late, s') ∧
      turns = ⟨c, s, change, s₁⟩ :: late := by
  rw [follow] at h
  cases hc : s.answer c with
  | error f =>
    rw [hc] at h
    cases h
  | ok r =>
    obtain ⟨change, s₁⟩ := r
    rw [hc] at h
    dsimp only at h
    cases hrest : s₁.follow calls with
    | error f =>
      rw [hrest] at h
      cases h
    | ok r =>
      rw [hrest] at h
      cases h
      exact ⟨change, s₁, r.1, rfl, hrest, rfl⟩

theorem follow_truthful (h : s.follow calls = .ok (turns, s')) : ∀ t ∈ turns, t.Truthful := by
  induction calls generalizing s turns with
  | nil =>
    cases h
    exact fun _ ht => (nomatch ht)
  | cons c rest ih =>
    obtain ⟨change, s₁, late, hc, hlate, rfl⟩ := follow_cons h
    exact List.forall_mem_cons.2 ⟨answer_truthful hc, ih hlate⟩

theorem follow_calls (h : s.follow calls = .ok (turns, s')) : turns.map (·.call) = calls := by
  induction calls generalizing s turns with
  | nil =>
    cases h
    rfl
  | cons c rest ih =>
    obtain ⟨change, s₁, late, hc, hlate, rfl⟩ := follow_cons h
    rw [List.map_cons, ih hlate]

theorem OnePerPair.follow (hs : s.OnePerPair) (h : s.follow calls = .ok (turns, s')) :
    s'.OnePerPair := by
  induction calls generalizing s turns with
  | nil =>
    cases h
    exact hs
  | cons c rest ih =>
    obtain ⟨change, s₁, late, hc, hlate, rfl⟩ := follow_cons h
    exact ih (hs.answer hc) hlate

/-- What was permitted to a learner to begin with, and every number of sittings asked for since. -/
def asked (s : Store) (turns : List Turn) (assessmentId : AssessmentId) (learnerId : UserId) :
    List Nat :=
  ((s.permitted? assessmentId learnerId).map UInt32.toNat).toList ++
    (turns.filterMap Turn.demand?).filterMap (·.for? assessmentId learnerId)

theorem asked_cons (t : Turn) (turns : List Turn) (assessmentId : AssessmentId)
    (learnerId : UserId) :
    s.asked (t :: turns) assessmentId learnerId =
      ((s.permitted? assessmentId learnerId).map UInt32.toNat).toList ++
        (t.demand?.bind (·.for? assessmentId learnerId)).toList ++
          (turns.filterMap Turn.demand?).filterMap (·.for? assessmentId learnerId) := by
  rw [asked, List.append_assoc, List.filterMap_cons]
  cases ht : t.demand? with
  | none => rfl
  | some d =>
    dsimp only
    rw [List.filterMap_cons, Option.bind_some]
    cases d.for? assessmentId learnerId <;> rfl

/-- **What is permitted after a run** is the greatest of what was asked for. -/
theorem follow_permitted (h : s.follow calls = .ok (turns, s')) (assessmentId : AssessmentId)
    (learnerId : UserId) :
    (s'.permitted? assessmentId learnerId).map UInt32.toNat =
      (s.asked turns assessmentId learnerId).max? := by
  induction calls generalizing s turns with
  | nil =>
    cases h
    rw [asked]
    cases s'.permitted? assessmentId learnerId <;> rfl
  | cons c rest ih =>
    obtain ⟨change, s₁, late, hc, hlate, rfl⟩ := follow_cons h
    have hturn := (answer_truthful hc).permitted?_eq assessmentId learnerId
    dsimp only at hturn
    rw [asked_cons, ← max?_toList_append, ← hturn]
    exact ih hlate

/-! ## Requests in another order -/

theorem follow_demands (h : s.follow calls = .ok (turns, s'))
    (hst : s.completions = t.completions) :
    turns.filterMap Turn.demand? = demandsFrom t calls := by
  induction calls generalizing s t turns with
  | nil =>
    cases h
    rfl
  | cons c rest ih =>
    obtain ⟨change, s₁, late, hc, hlate, rfl⟩ := follow_cons h
    have hlater := ih hlate ((answer_completions hc).trans (c.sources_congr hst))
    have hdemand : Turn.demand? ⟨c, s, change, s₁⟩ = c.demand? t := c.demand?_congr hst
    rw [List.filterMap_cons, hdemand, hlater, demandsFrom]
    cases c.demand? t <;> rfl

theorem follow_total (h : ∀ d ∈ demandsFrom t calls, d.sittings < UInt32.size)
    (hst : s.completions = t.completions) : ∃ turns s', s.follow calls = .ok (turns, s') := by
  induction calls generalizing s t with
  | nil => exact ⟨[], s, rfl⟩
  | cons c rest ih =>
    obtain ⟨change, s₁, hc⟩ : ∃ change s₁, s.answer c = .ok (change, s₁) := by
      refine answer_total fun d hd => h d (List.mem_append_left _ ?_)
      rw [c.demand?_congr hst] at hd
      exact Option.mem_toList.2 hd
    obtain ⟨late, s', hlate⟩ := ih (fun d hd => h d (List.mem_append_right _ hd))
      ((answer_completions hc).trans (c.sources_congr hst))
    refine ⟨⟨c, s, change, s₁⟩ :: late, s', ?_⟩
    simp only [follow, hc, hlate, Except.map]

theorem follow_lt_size (h : s.follow calls = .ok (turns, s')) :
    ∀ d ∈ demandsFrom s calls, d.sittings < UInt32.size := by
  intro d hd
  rw [← follow_demands h rfl] at hd
  obtain ⟨t, ht, hdemand⟩ := List.mem_filterMap.1 hd
  exact (follow_truthful h t ht).lt_size hdemand

/-- **Outright requests in another order** leave the same allowances. -/
theorem follow_reordered (h : s.follow calls = .ok (turns, s')) {calls' : List Call}
    (hr : Reordered calls calls') : ∃ turns' s'', s.follow calls' = .ok (turns', s'') ∧
      ∀ assessmentId learnerId,
        s''.allowance? assessmentId learnerId = s'.allowance? assessmentId learnerId := by
  have hperm := hr.demandsFrom_perm s
  obtain ⟨turns', s'', h'⟩ : ∃ turns' s'', s.follow calls' = .ok (turns', s'') :=
    follow_total (fun d hd => follow_lt_size h d (hperm.mem_iff.1 hd)) rfl
  refine ⟨turns', s'', h', fun assessmentId learnerId => ?_⟩
  have hasked : (s.asked turns' assessmentId learnerId).Perm
      (s.asked turns assessmentId learnerId) := by
    rw [asked, asked, follow_demands h' rfl, follow_demands h rfl]
    exact (hperm.filterMap _).append_left _
  have hsame : s''.permitted? assessmentId learnerId = s'.permitted? assessmentId learnerId := by
    refine Option.map_injective (fun _ _ => UInt32.toNat_inj.1) ?_
    rw [follow_permitted h', follow_permitted h, max?_perm hasked]
  rw [allowance?_eq_map_permitted?, allowance?_eq_map_permitted?, hsame]

/-- What a run of calls comes to, as far as the allowances go. -/
structure RunningMaximum (s : Store) (calls : List Call) (turns : List Turn) (s' : Store) :
    Prop where
  /-- There is one turn for each call. -/
  one_each : turns.map (·.call) = calls
  /-- The most that was asked for is permitted. -/
  greatest (assessmentId : AssessmentId) (learnerId : UserId) :
    (s'.permitted? assessmentId learnerId).map UInt32.toNat =
      (s.asked turns assessmentId learnerId).max?
  /-- Where nothing was asked for there is no allowance, and only there. -/
  absent (assessmentId : AssessmentId) (learnerId : UserId) :
    s'.allowance? assessmentId learnerId = none ↔ s.asked turns assessmentId learnerId = []
  never_lowered (assessmentId : AssessmentId) (learnerId : UserId) (p : Ordinal) :
    s.permitted? assessmentId learnerId = some p →
      ∃ p', s'.permitted? assessmentId learnerId = some p' ∧ p ≤ p'
  truthful : ∀ t ∈ turns, t.Truthful
  /-- The order of outright requests, among themselves and among the other calls, leaves the table
  as it is. -/
  reordered (calls' : List Call) : Reordered calls calls' →
    ∃ turns' s'', s.follow calls' = .ok (turns', s'') ∧
      (∀ assessmentId learnerId,
        s''.allowance? assessmentId learnerId = s'.allowance? assessmentId learnerId) ∧
      (s.OnePerPair → s''.allowances.Perm s'.allowances)

/-- **Allowances are running maxima**: whatever is asked for, in whatever order, what is permitted
is the most that was asked for, and every answer says what was done. -/
theorem allowances_running_maximum (h : s.follow calls = .ok (turns, s')) :
    s.RunningMaximum calls turns s' where
  one_each := follow_calls h
  greatest := follow_permitted h
  absent assessmentId learnerId := by
    rw [← List.max?_eq_none_iff, ← follow_permitted h, Option.map_eq_none_iff, permitted?,
      Option.map_eq_none_iff]
  never_lowered assessmentId learnerId p hp := by
    have hgreatest := follow_permitted h assessmentId learnerId
    have hmem : p.toNat ∈ s.asked turns assessmentId learnerId := by
      rw [asked, hp]
      exact List.mem_cons_self
    cases hp' : s'.permitted? assessmentId learnerId with
    | none =>
      rw [hp', Option.map_none, eq_comm, List.max?_eq_none_iff] at hgreatest
      rw [hgreatest] at hmem
      cases hmem
    | some p' =>
      rw [hp', Option.map_some, eq_comm, List.max?_eq_some_iff] at hgreatest
      exact ⟨p', rfl, UInt32.le_iff_toNat_le.2 (hgreatest.2 _ hmem)⟩
  truthful := follow_truthful h
  reordered calls' hr := by
    obtain ⟨turns', s'', h', hsame⟩ := follow_reordered h hr
    exact ⟨turns', s'', h', hsame, fun hs => (hs.follow h).perm (hs.follow h') hsame⟩

/-- A third attempt is failed and, looked at late, a first; credit given in between keeps a fifth
from earning anything. Someone else asks too. -/
def lateGrant : List Call :=
  let quiz := Sample.assessment "Quiz" .deferredFeedback
  [.request 5 3 2, .grant quiz (Sample.attempt 43 3 (some 2)), .request 5 7 1,
    .grant quiz (Sample.attempt 41 1 (some 1)),
    .elsewhere { completions := [⟨1, 5, 3, Completion.full, 1700100000⟩] },
    .grant quiz (Sample.attempt 45 5 (some 2)), .request 5 3 3]

theorem allowances_running_maximum_lateGrant : ∃ turns s',
    Sample.people.follow lateGrant = .ok (turns, s') ∧
      Sample.people.RunningMaximum lateGrant turns s' ∧
      turns.map (·.change) = [some (.created 2), some (.raised 2 4), some (.created 1),
        some (.unchanged 4), none, none, some (.unchanged 4)] ∧
      s'.allowances = [⟨5, 3, 4⟩, ⟨5, 7, 1⟩] := by
  have hr : ((Sample.people.follow lateGrant).toOption.map fun r =>
      (r.1.map (·.change), r.2.allowances)) =
        some ([some (.created 2), some (.raised 2 4), some (.created 1), some (.unchanged 4), none,
          none, some (.unchanged 4)], [⟨5, 3, 4⟩, ⟨5, 7, 1⟩]) := by
    decide +kernel
  obtain ⟨⟨turns, s'⟩, hrun, houtcome⟩ := Option.map_eq_some_iff.1 hr
  have h := Except.ok_of_toOption hrun
  exact ⟨turns, s', h, allowances_running_maximum h, congrArg Prod.fst houtcome,
    congrArg Prod.snd houtcome⟩

end Store

end GradeRelay
