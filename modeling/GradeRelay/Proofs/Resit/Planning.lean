import GradeRelay.Proofs.Latest
import GradeRelay.Proofs.Resit.Chain
import GradeRelay.Proofs.Resit.Standing
import Mathlib.Data.List.Forall2
import Mathlib.Data.Prod.Lex
/-!
# What a plan holds

The plan walks through the questions of the sitting before and looks for the most recent acceptance
of each, for the same question on the resit and for the step there that waits. Which questions it
takes up is said here without these searches: by the places where steps and questions stand in
their lists.

* `Takeover.Qualifies`: a question of the sitting before takes up one of the resit;
* `Takeover.qualifies_iff`, `Takeover.plan_eq_none_iff`: these are the links of the plan, and there
  is no plan just when one of them has no sequence number left;
* **`Takeover.plan_carries`**: the plan is one step for each question that qualifies, in order.
-/

namespace GradeRelay

namespace NotedStep

/-- How high a step stands on its question. -/
def height (ns : NotedStep) : Nat := ns.step.sequence.toNat

/-- How recent a step is: the time when it was made, and of one time its height. -/
def recency (ns : NotedStep) : Int ×ₗ Nat := toLex (ns.step.timeCreated, ns.height)

theorem sequenceLe_iff_height (a b : NotedStep) : sequenceLe a b = true ↔ a.height ≤ b.height := by
  rw [sequenceLe_iff, UInt32.le_iff_toNat_le, height, height]

theorem createdLe_iff_recency (a b : NotedStep) :
    createdLe a b = true ↔ a.recency ≤ b.recency := by
  rw [createdLe_iff, recency, recency, Prod.Lex.toLex_le_toLex, UInt32.le_iff_toNat_le]
  rfl

end NotedStep

namespace QuestionHistory

theorem lastStep?_eq_some_iff {q : QuestionHistory} {ns : NotedStep} :
    q.lastStep? = some ns ↔ LastBy NotedStep.height q.steps ns :=
  latest?_eq_some_iff_lastBy NotedStep.sequenceLe_iff_height

/-- The most recent acceptance of an answer. -/
def LastAcceptance (q : QuestionHistory) (ns : NotedStep) : Prop :=
  LastBy NotedStep.recency (q.steps.filter fun v => v.step.state = .accepted) ns

theorem lastStepIn?_accepted_iff {q : QuestionHistory} {ns : NotedStep} :
    q.lastStepIn? .accepted = some ns ↔ q.LastAcceptance ns :=
  latest?_eq_some_iff_lastBy NotedStep.createdLe_iff_recency

theorem reached_iff {q : QuestionHistory} {state : StepState} :
    q.reached state = true ↔ ∃ v ∈ q.steps, v.step.state = state := by
  rw [reached, List.any_eq_true]
  exact exists_congr fun v => and_congr_right fun _ => decide_eq_true_iff

end QuestionHistory

/-- A question of a sitting is the first one asked under a number. -/
def Sitting.FirstAsked (t : Sitting) (questionId : Int) (q : QuestionHistory) : Prop :=
  q.question.questionId = questionId ∧ ∃ l₁ l₂, t.questions = l₁ ++ q :: l₂ ∧
    ∀ p ∈ l₁, p.question.questionId ≠ questionId

theorem Sitting.history?_eq_some_iff {t : Sitting} {questionId : Int} {q : QuestionHistory} :
    t.history? questionId = some q ↔ t.FirstAsked questionId q := by
  unfold history? FirstAsked
  simp only [List.find?_eq_some_iff_append, Bool.not_eq_true', decide_eq_true_eq,
    decide_eq_false_iff_not, ne_eq]

namespace Takeover

variable {predecessor successor : Sitting} {now : Timestamp} {prior current : QuestionHistory}
  {awaiting : NotedStep}

/-! ## Questions that qualify -/

/-- A grade is carried from a question of the sitting before to one of the resit, above the step
that waits there: the first is graded by hand and was accepted at some time; the other is the first
under its number, never accepted, and the last of its highest steps waits for grading. -/
structure Qualifies (successor : Sitting) (prior current : QuestionHistory) (awaiting : NotedStep) :
    Prop where
  manual : prior.question.behaviour = "manualgraded"
  accepted : ∃ v ∈ prior.steps, v.step.state = .accepted
  first : successor.FirstAsked prior.question.questionId current
  unaccepted : ∀ v ∈ current.steps, v.step.state ≠ .accepted
  last : LastBy NotedStep.height current.steps awaiting
  waits : awaiting.step.state = .needsGrading

theorem qualifies_iff : Qualifies successor prior current awaiting ↔
    ∃ accepted, link? successor prior = some ⟨accepted, current, awaiting⟩ := by
  constructor
  · rintro ⟨hmanual, haccepted, hfirst, hun, hlast, hwaits⟩
    obtain ⟨accepted, ha⟩ :=
      QuestionHistory.exists_lastStepIn?.2 (QuestionHistory.reached_iff.2 haccepted)
    refine ⟨accepted, link?_eq_some_iff.2 ⟨decide_eq_true hmanual, ha,
      Sitting.history?_eq_some_iff.2 hfirst, ?_, QuestionHistory.lastStep?_eq_some_iff.2 hlast,
      hwaits⟩⟩
    rw [← Bool.not_eq_true, QuestionHistory.reached_iff]
    rintro ⟨v, hv, hstate⟩
    exact hun v hv hstate
  · rintro ⟨accepted, hl⟩
    obtain ⟨hmanual, ha, hfirst, hun, hlast, hwaits⟩ := link?_eq_some_iff.1 hl
    refine ⟨of_decide_eq_true hmanual,
      QuestionHistory.reached_iff.1 (QuestionHistory.exists_lastStepIn?.1 ⟨accepted, ha⟩),
      Sitting.history?_eq_some_iff.1 hfirst, fun v hv hstate => ?_,
      QuestionHistory.lastStep?_eq_some_iff.1 hlast, hwaits⟩
    rw [← Bool.not_eq_true, QuestionHistory.reached_iff] at hun
    exact hun ⟨v, hv, hstate⟩

/-- The question of the sitting before takes up some question of the resit. -/
def Carryable (successor : Sitting) (prior : QuestionHistory) : Prop :=
  ∃ current awaiting, Qualifies successor prior current awaiting

theorem carryable_iff : (link? successor prior).isSome = true ↔ Carryable successor prior := by
  rw [Option.isSome_iff_exists]
  constructor
  · rintro ⟨⟨accepted, current, awaiting⟩, hl⟩
    exact ⟨current, awaiting, qualifies_iff.2 ⟨accepted, hl⟩⟩
  · rintro ⟨current, awaiting, hq⟩
    obtain ⟨accepted, hl⟩ := qualifies_iff.1 hq
    exact ⟨_, hl⟩

instance (successor : Sitting) (prior : QuestionHistory) : Decidable (Carryable successor prior) :=
  decidable_of_iff _ carryable_iff

/-- There is a number for each step that the plan asks for. -/
def NumbersLeft (predecessor successor : Sitting) : Prop :=
  ∀ prior ∈ predecessor.questions, ∀ current awaiting,
    Qualifies successor prior current awaiting → awaiting.step.sequence ≠ Ordinal.greatest

/-! ## The plan in order -/

/-- A planned step in relation to the question of the sitting before that it comes from. -/
structure CarriedFrom (successor : Sitting) (now : Timestamp) (prior current : QuestionHistory)
    (awaiting accepted : NotedStep) (c : CarriedStep) : Prop where
  qualifies : Qualifies successor prior current awaiting
  acceptance : prior.LastAcceptance accepted
  onto : c.questionAttemptId = current.question.id ∧ c.questionId = current.question.questionId
  next : c.sequence.toNat = awaiting.step.sequence.toNat + 1
  above : ∀ v ∈ current.steps, v.step.sequence < c.sequence
  accepts : c.state = .accepted ∧ c.fraction = 1.0
  made : c.timeCreated = now ∧ c.userId = successor.attempt.learnerId
  noted : c.notes = remarks accepted

/-- A planned step is what a question of the sitting before asks for. -/
def Carries (successor : Sitting) (now : Timestamp) (prior : QuestionHistory) (c : CarriedStep) :
    Prop :=
  ∃ current awaiting accepted, CarriedFrom successor now prior current awaiting accepted c

theorem carries_of_link? {l : Link} {c : CarriedStep} (hl : link? successor prior = some l)
    (hc : step? successor now l = some c) : Carries successor now prior c := by
  obtain ⟨accepted, current, awaiting⟩ := l
  have hq : Qualifies successor prior current awaiting := qualifies_iff.2 ⟨accepted, hl⟩
  obtain ⟨-, ha, -⟩ := link?_eq_some_iff.1 hl
  obtain ⟨sequence, hseq, rfl⟩ := Option.map_eq_some_iff.1 hc
  have hnext : sequence.toNat = awaiting.step.sequence.toNat + 1 :=
    Ordinal.next?_eq_some_iff.1 hseq
  refine ⟨current, awaiting, accepted, hq, QuestionHistory.lastStepIn?_accepted_iff.1 ha,
    ⟨rfl, rfl⟩, hnext, fun v hv => ?_, ⟨rfl, rfl⟩, ⟨rfl, rfl⟩, notes_eq_remarks accepted⟩
  have hle : v.step.sequence.toNat ≤ awaiting.step.sequence.toNat := hq.last.rank_le hv
  rw [UInt32.lt_iff_toNat_lt]
  dsimp only
  omega

theorem step?_eq_none_iff {l : Link} :
    step? successor now l = none ↔ l.awaiting.step.sequence = Ordinal.greatest := by
  rw [step?, Option.map_eq_none_iff, Ordinal.next?]
  by_cases h : l.awaiting.step.sequence = Ordinal.greatest <;> simp [h]

/-- **There is no plan** just when a question that qualifies has no sequence number left. -/
theorem plan_eq_none_iff : plan predecessor successor now = none ↔
    ∃ prior ∈ predecessor.questions, ∃ current awaiting,
      Qualifies successor prior current awaiting ∧ awaiting.step.sequence = Ordinal.greatest := by
  constructor
  · intro h
    by_contra hno
    have htotal : ∀ l ∈ predecessor.questions.filterMap (link? successor),
        ∃ c, step? successor now l = some c := by
      intro l hl
      obtain ⟨prior, hprior, hlink⟩ := List.mem_filterMap.1 hl
      refine Option.ne_none_iff_exists'.1 fun hnone => hno ?_
      exact ⟨prior, hprior, l.current, l.awaiting, qualifies_iff.2 ⟨l.accepted, hlink⟩,
        step?_eq_none_iff.1 hnone⟩
    obtain ⟨cs, hcs⟩ := mapM_total htotal
    rw [plan, hcs] at h
    cases h
  · rintro ⟨prior, hprior, current, awaiting, hq, hfull⟩
    obtain ⟨accepted, hl⟩ := qualifies_iff.1 hq
    cases hplan : plan predecessor successor now with
    | none => rfl
    | some cs =>
      obtain ⟨c, -, hc⟩ :=
        (mapM_eq_some_mem hplan).2 _ (List.mem_filterMap.2 ⟨prior, hprior, hl⟩)
      rw [step?_eq_none_iff.2 hfull] at hc
      cases hc

/-- **The plan in order.** While there are numbers left, the plan is one step for each question of
the sitting before that qualifies, in the order of these, and has nothing else: an acceptance with
full marks as the learner's own, made now, on the first question of the resit under the same number,
above every step there, with the remarks of the most recent acceptance. -/
theorem plan_carries (hnumbers : NumbersLeft predecessor successor) :
    ∃ cs, plan predecessor successor now = some cs ∧
      List.Forall₂ (Carries successor now)
        (predecessor.questions.filter fun prior => Carryable successor prior) cs := by
  cases hplan : plan predecessor successor now with
  | none =>
    obtain ⟨prior, hprior, current, awaiting, hq, hfull⟩ := plan_eq_none_iff.1 hplan
    exact absurd hfull (hnumbers prior hprior current awaiting hq)
  | some cs =>
    refine ⟨cs, rfl, ?_⟩
    have hsame : predecessor.questions.filter (fun prior => Carryable successor prior) =
        predecessor.questions.filter fun prior => (link? successor prior).isSome := by
      refine List.filter_congr fun prior _ => ?_
      rw [Bool.eq_iff_iff, decide_eq_true_eq, carryable_iff]
    rw [hsame]
    exact (forall₂_of_filterMap_mapM hplan).imp fun prior c ⟨_, hl, hc⟩ => carries_of_link? hl hc

/-- A sitting with an answer accepted twice at one time, the second time with a remark made twice,
and with one rejected. The first of the two questions is asked again, for no grader. -/
def acceptedTwice : Sitting where
  attempt := Sample.attempt 41 1 none
  questions :=
    [⟨{ Sample.question 410 410 7 1 with behaviour := "deferredfeedback" },
        [⟨Sample.step 2 410 1 .accepted 1700099200, []⟩]⟩,
      ⟨Sample.question 411 410 7 2,
        [⟨Sample.step 4 411 3 .accepted 1700099300,
            [⟨"-comment", "good"⟩, ⟨"-mark", "8"⟩, ⟨"-comment", "very good"⟩]⟩,
          ⟨Sample.step 3 411 2 .accepted 1700099300, [⟨"-comment", "fair"⟩]⟩]⟩,
      ⟨Sample.question 412 410 8 3, [⟨Sample.step 5 412 1 .rejected 1700099400, []⟩]⟩]

/-- The resit, with both questions waiting above a step of the same sequence number. -/
def bothWaiting : Sitting where
  attempt := Sample.attempt 42 2 none
  questions :=
    [⟨Sample.question 421 420 7 1,
        [⟨Sample.step 4201 421 1 (.unknown "complete") 1700099800, []⟩,
          ⟨Sample.step 4202 421 1 .needsGrading 1700099900, []⟩]⟩,
      ⟨Sample.question 422 420 8 2, [⟨Sample.step 4203 422 1 .needsGrading 1700099900, []⟩]⟩]

theorem plan_carries_acceptedTwice :
    NumbersLeft acceptedTwice bothWaiting ∧
      ∃ cs, plan acceptedTwice bothWaiting 1700100000 = some cs ∧
        List.Forall₂ (Carries bothWaiting 1700100000)
          (acceptedTwice.questions.filter fun prior => Carryable bothWaiting prior) cs ∧
        (acceptedTwice.questions.filter fun prior => Carryable bothWaiting prior).map
          (·.question.id) = [411] ∧
        cs.map (fun c => (c.questionAttemptId, c.sequence, c.notes)) =
          [(421, 2, [⟨"-comment", "very good"⟩, ⟨"-commentformat", "1"⟩, ⟨"-mark", "8"⟩,
            ⟨"-maxmark", "1"⟩])] := by
  have hnumbers : NumbersLeft acceptedTwice bothWaiting := by
    intro prior hprior current awaiting hq
    have hall : (acceptedTwice.questions.filterMap (link? bothWaiting)).all
        (fun l => l.awaiting.step.sequence ≠ Ordinal.greatest) = true := by decide +kernel
    obtain ⟨accepted, hl⟩ := qualifies_iff.1 hq
    exact of_decide_eq_true
      (List.all_eq_true.1 hall _ (List.mem_filterMap.2 ⟨prior, hprior, hl⟩))
  have hcarried : ∃ cs, plan acceptedTwice bothWaiting 1700100000 = some cs ∧
      List.Forall₂ (Carries bothWaiting 1700100000)
        (acceptedTwice.questions.filter fun prior => Carryable bothWaiting prior) cs :=
    plan_carries hnumbers
  obtain ⟨cs, hplan, hcarries⟩ := hcarried
  refine ⟨hnumbers, cs, hplan, hcarries, by decide +kernel, ?_⟩
  have hshown : (plan acceptedTwice bothWaiting 1700100000).map
      (List.map fun c => (c.questionAttemptId, c.sequence, c.notes)) =
        some [(421, 2, [⟨"-comment", "very good"⟩, ⟨"-commentformat", "1"⟩, ⟨"-mark", "8"⟩,
          ⟨"-maxmark", "1"⟩])] := by decide +kernel
  rw [hplan] at hshown
  exact Option.some.inj hshown

end Takeover

end GradeRelay
