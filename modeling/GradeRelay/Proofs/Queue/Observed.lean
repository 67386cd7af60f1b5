import GradeRelay.Proofs.Attempts
import GradeRelay.Proofs.Latest
import GradeRelay.Proofs.Queue.Tracking
import GradeRelay.Proofs.Resit.Sittings
/-!
# What is observed of an attempt

Before the review of an attempt is brought up to date, the store is asked who acts, whether a grader
has decided about any of its questions, and which attempt comes just before it. The answers are said
here by the rows that stand in the tables.

* `firstDecided?_isSome_iff`: when a grader has decided;
* `priorAttempt?_latest`, `priorAttempt?_eq_some_iff`: which attempt is the prior one, of several
  rows that come just before;
* **`observes`**: there is always an observation, and what it says.
-/

namespace GradeRelay

/-! ## Decisions -/

theorem StepState.isDecision_ofTag_iff {t : String} : (ofTag t).isDecision = true ↔
    t = StepState.accepted.tag ∨ t = StepState.rejected.tag := by
  unfold ofTag
  split
  · next h => simp [h, isDecision, tag]
  · split
    · next h => simp [h, isDecision, tag]
    · split
      · next h => simp [h, isDecision, tag]
      · next h₂ h₃ => simp [h₂, h₃, isDecision, tag]

/-- The row is that of a finished attempt of the same learner at the same assessment, with the
number just below; the first sitting has none before it. -/
structure AttemptRow.ComesBefore (r : AttemptRow) (a : Attempt) : Prop where
  resit : 1 < a.number
  finished : r.state = .finished
  assessment : r.assessmentId = a.assessmentId
  learner : r.learnerId = a.learnerId
  number : r.number + 1 = a.number.toInt

theorem Ordinal.sub_one_add_one {n : Ordinal} (h : 1 < n) : (n - 1).toNat + 1 = n.toNat := by
  have hn : 1 < n.toNat := h
  rw [UInt32.toNat_sub_of_le _ _ (UInt32.le_of_lt h), UInt32.toNat_one]
  omega

theorem AttemptRow.number_below_iff {r : AttemptRow} {a : Attempt} (h : 1 < a.number) :
    r.number = (a.number - 1).toInt ↔ r.number + 1 = a.number.toInt := by
  have := Ordinal.sub_one_add_one h
  simp only [Ordinal.toInt]
  omega

namespace Store

variable {s : Store} {o : Occasion} {a : Attempt} {p : AttemptId} {prior : Option AttemptId}

/-- A grader has accepted or rejected an answer to one of the attempt's questions. -/
def Decided (s : Store) (a : Attempt) : Prop :=
  ∃ q ∈ s.questions, q.usageId = a.usageId ∧ ∃ st ∈ s.steps, st.questionAttemptId = q.id ∧
    (st.state.tag = StepState.accepted.tag ∨ st.state.tag = StepState.rejected.tag)

theorem firstDecided?_isSome_iff :
    (s.sitting a).firstDecided?.isSome = true ↔ s.Decided a := by
  have hdecided {q : Question} : (s.stepsOf q.id).any (fun ns => ns.step.state.isDecision) = true ↔
      ∃ st ∈ s.steps, st.questionAttemptId = q.id ∧
        (st.state.tag = StepState.accepted.tag ∨ st.state.tag = StepState.rejected.tag) := by
    simp only [List.any_eq_true, mem_stepsOf]
    constructor
    · rintro ⟨_, ⟨st, hst, hq, rfl⟩, hdecision⟩
      exact ⟨st, hst, hq, StepState.isDecision_ofTag_iff.1 hdecision⟩
    · rintro ⟨st, hst, hq, htag⟩
      exact ⟨_, ⟨st, hst, hq, rfl⟩, StepState.isDecision_ofTag_iff.2 htag⟩
  rw [Sitting.firstDecided?, List.find?_isSome]
  constructor
  · rintro ⟨h, hmem, hdecision⟩
    obtain ⟨hq, husage, hsteps⟩ := mem_questions_sitting.1 hmem
    rw [QuestionHistory.hasDecision, hsteps] at hdecision
    exact ⟨h.question, hq, husage, hdecided.1 hdecision⟩
  · rintro ⟨q, hq, husage, hdecision⟩
    exact ⟨⟨q, s.stepsOf q.id⟩, mem_questions_sitting.2 ⟨hq, husage, rfl⟩, hdecided.2 hdecision⟩

/-! ## The prior attempt -/

/-- Of the attempts that come just before, this is the one that was finished last, of several that
were then the one with the greatest number of row. -/
def IsLatestBefore (s : Store) (a : Attempt) (p : AttemptId) : Prop :=
  ∃ r ∈ s.attempts, r.ComesBefore a ∧ r.id = p ∧
    ∀ q ∈ s.attempts, q.ComesBefore a → q.finishRank ≤ r.finishRank

theorem readAttempt_map_id {found : Option AttemptRow}
    (h : (readAttempt found).map (fun b => b.map (·.id)) = .ok prior) :
    prior = found.map (·.id) := by
  cases found with
  | none =>
    cases h
    rfl
  | some r =>
    cases hread : r.read with
    | error f =>
      rw [readAttempt, hread] at h
      cases h
    | ok b =>
      rw [readAttempt, hread] at h
      cases h
      rw [Option.map_some, ← (AttemptRow.read_ok hread).1]
      rfl

theorem priorAttempt?_latest (h : s.priorAttempt? a = .ok prior) :
    ∃ rows, (∀ r, r ∈ rows ↔ r ∈ s.attempts ∧ r.ComesBefore a) ∧
      prior = (latest? AttemptRow.finishLe rows).map (·.id) := by
  unfold priorAttempt? at h
  split at h
  · next hrepeat =>
    have hresit : 1 < a.number := of_decide_eq_true hrepeat
    refine ⟨_, fun r => ?_, readAttempt_map_id h⟩
    rw [List.mem_filter]
    refine and_congr_right fun _ => ?_
    simp only [Bool.and_eq_true, decide_eq_true_eq, Bool.not_true, Bool.false_or,
      AttemptRow.number_below_iff hresit]
    constructor
    · rintro ⟨⟨⟨hassessment, hlearner⟩, hnumber⟩, hstate⟩
      exact ⟨hresit, hstate, hassessment, hlearner, hnumber⟩
    · intro hr
      exact ⟨⟨⟨hr.assessment, hr.learner⟩, hr.number⟩, hr.finished⟩
  · next hfirst =>
    cases h
    refine ⟨[], fun r => iff_of_false List.not_mem_nil fun hr => hfirst ?_, rfl⟩
    exact decide_eq_true hr.2.resit

theorem priorAttempt?_eq_some_iff (h : s.priorAttempt? a = .ok prior) :
    prior = some p ↔ s.IsLatestBefore a p := by
  obtain ⟨rows, hrows, rfl⟩ := priorAttempt?_latest h
  have hgreatest {q r : AttemptRow} (hr : latest? AttemptRow.finishLe rows = some r)
      (hq : q ∈ rows) : q.finishRank ≤ r.finishRank :=
    ((latest?_eq_some_iff_lastBy AttemptRow.finishLe_iff_rank).1 hr).rank_le hq
  rw [Option.map_eq_some_iff]
  constructor
  · rintro ⟨r, hlatest, rfl⟩
    obtain ⟨hr, hbefore⟩ := (hrows r).1 (mem_of_latest? hlatest)
    exact ⟨r, hr, hbefore, rfl, fun q hq hqbefore =>
      hgreatest hlatest ((hrows q).2 ⟨hq, hqbefore⟩)⟩
  · rintro ⟨r, hr, hbefore, rfl, hle⟩
    have hmem := (hrows r).2 ⟨hr, hbefore⟩
    cases hlatest : latest? AttemptRow.finishLe rows with
    | none =>
      rw [latest?_eq_none_iff.1 hlatest] at hmem
      cases hmem
    | some m =>
      -- neither of the two was finished later than the other, so they have one number
      obtain ⟨hm, hmbefore⟩ := (hrows m).1 (mem_of_latest? hlatest)
      have hrank := le_antisymm (hle m hm hmbefore) (hgreatest hlatest hmem)
      exact ⟨m, rfl, congrArg (fun rank => (ofLex rank).2) hrank⟩

theorem priorAttempt?_eq_none_iff (h : s.priorAttempt? a = .ok prior) :
    prior = none ↔ ∀ r ∈ s.attempts, ¬ r.ComesBefore a := by
  obtain ⟨rows, hrows, rfl⟩ := priorAttempt?_latest h
  rw [Option.map_eq_none_iff, latest?_eq_none_iff, List.eq_nil_iff_forall_not_mem]
  simp only [hrows, not_and]

/-! ## The observation -/

/-- What an observation says of an attempt. -/
structure Observes (s : Store) (o : Occasion) (a : Attempt) (obs : Observation) : Prop where
  actor : obs.actor = o.actor
  byGrader : obs.byGrader = true ↔ ⟨o.actor, o.graderRole⟩ ∈ s.roles
  hasDecision : obs.hasDecision = true ↔ s.Decided a
  scored : obs.scored = true ↔ a.score ≠ none
  prior : ∀ p, obs.prior = some p ↔ s.IsLatestBefore a p
  unprior : obs.prior = none ↔ ∀ r ∈ s.attempts, ¬ r.ComesBefore a

/-- **There is always an observation.** -/
theorem observes (s : Store) (o : Occasion) (a : Attempt) :
    ∃ obs, s.observation o a = .ok obs ∧ s.Observes o a obs := by
  obtain ⟨obs, hobs⟩ := observation_total s o a
  obtain ⟨prior, hprior, h⟩ := Except.bind_eq_ok_iff.1 hobs
  refine ⟨obs, hobs, ?_⟩
  cases h
  exact {
    actor := rfl
    byGrader := List.contains_iff_mem
    hasDecision := firstDecided?_isSome_iff
    scored := Option.isSome_iff_ne_none
    prior := fun p => priorAttempt?_eq_some_iff hprior
    unprior := priorAttempt?_eq_none_iff hprior }

end Store

end GradeRelay
