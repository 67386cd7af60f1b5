import GradeRelay.Proofs.Resit.Carrying
import GradeRelay.Proofs.Sample
/-!
# Decisions that stand

A grader may accept an answer, and reject the same answer later. The plan looks for the most recent
acceptance among the acceptances alone, so a rejection has no say in it, early or late.

* `QuestionHistory.lastDecision?_eq`: an acceptance that no rejection follows is the last decision;
* `Takeover.plan_withoutRejections`: the plan is made as if nothing had been rejected;
* **`Takeover.acceptances_carried`**: what is carried is the most recent acceptance;
* `Takeover.not_onlyStanding_overturned`: so an acceptance is carried that stands no more.
-/

namespace GradeRelay

namespace NotedStep

theorem createdLe_iff {a b : NotedStep} : createdLe a b = true ↔
    a.step.timeCreated < b.step.timeCreated ∨
      a.step.timeCreated = b.step.timeCreated ∧ a.step.sequence ≤ b.step.sequence := by
  simp only [createdLe, sequenceLe, Bool.or_eq_true, Bool.and_eq_true, decide_eq_true_eq]

theorem createdLe_total (a b : NotedStep) : createdLe a b = true ∨ createdLe b a = true := by
  rw [createdLe_iff, createdLe_iff]
  rcases Int.lt_trichotomy a.step.timeCreated b.step.timeCreated with h | h | h
  · exact .inl (.inl h)
  · exact (UInt32.le_total a.step.sequence b.step.sequence).imp (fun hs => .inr ⟨h, hs⟩)
      fun hs => .inr ⟨h.symm, hs⟩
  · exact .inr (.inl h)

theorem createdLe_trans (a b c : NotedStep) (hab : createdLe a b = true)
    (hbc : createdLe b c = true) : createdLe a c = true := by
  rw [createdLe_iff] at hab hbc ⊢
  rcases hab with hab | ⟨hab, hsab⟩
  · exact .inl (hbc.elim (Int.lt_trans hab) fun h => h.1 ▸ hab)
  · exact hbc.imp (fun h => hab ▸ h) fun h => ⟨hab.trans h.1, UInt32.le_trans hsab h.2⟩

end NotedStep

namespace QuestionHistory

/-- The most recent decision of a grader. -/
def lastDecision? (q : QuestionHistory) : Option NotedStep :=
  latest? NotedStep.createdLe (q.steps.filter fun s => s.step.state.isDecision)

/-- The answer counts as accepted by what a grader decided last. -/
def Stands (q : QuestionHistory) : Prop :=
  ∃ w, q.lastDecision? = some w ∧ w.step.state = .accepted

/-- The question as if no answer to it had been rejected. -/
def withoutRejections (q : QuestionHistory) : QuestionHistory :=
  { q with steps := q.steps.filter fun s => s.step.state ≠ .rejected }

theorem filter_isDecision_accepted (q : QuestionHistory) :
    (q.steps.filter fun s => s.step.state.isDecision).filter (fun s => s.step.state = .accepted) =
      q.steps.filter fun s => s.step.state = .accepted := by
  rw [List.filter_filter]
  refine List.filter_congr fun s _ => ?_
  cases s.step.state <;> rfl

theorem lastDecision?_eq {q : QuestionHistory} {w : NotedStep}
    (h : q.lastStepIn? .accepted = some w)
    (hr : ∀ r ∈ q.steps, r.step.state = .rejected → NotedStep.createdLe w r = false) :
    q.lastDecision? = some w := by
  rw [lastStepIn?, ← filter_isDecision_accepted] at h
  refine latest?_of_filter NotedStep.createdLe_total NotedStep.createdLe_trans h fun r hm hna => ?_
  obtain ⟨hmem, hdecision⟩ := List.mem_filter.1 hm
  refine hr r hmem ?_
  cases hs : r.step.state with
  | rejected => rfl
  | accepted => simp [hs] at hna
  | needsGrading => simp [hs, StepState.isDecision] at hdecision
  | unknown t => simp [hs, StepState.isDecision] at hdecision

@[simp]
theorem lastStepIn?_withoutRejections (q : QuestionHistory) :
    q.withoutRejections.lastStepIn? .accepted = q.lastStepIn? .accepted := by
  unfold lastStepIn? withoutRejections
  dsimp only
  rw [List.filter_filter]
  congr 1
  refine List.filter_congr fun s _ => ?_
  cases s.step.state <;> rfl

end QuestionHistory

/-- The sitting as if no answer in it had been rejected. -/
def Sitting.withoutRejections (t : Sitting) : Sitting :=
  { t with questions := t.questions.map QuestionHistory.withoutRejections }

namespace Takeover

variable {predecessor successor : Sitting} {now : Timestamp} {cs : List CarriedStep}

/-- Each step of a plan stems from a question of the sitting before that stands accepted. -/
def OnlyStanding (predecessor successor : Sitting) (now : Timestamp) : Prop :=
  ∀ cs, plan predecessor successor now = some cs → ∀ c ∈ cs,
    ∃ prior ∈ predecessor.questions, prior.question.questionId = c.questionId ∧ prior.Stands

@[simp]
theorem link?_withoutRejections (successor : Sitting) (prior : QuestionHistory) :
    link? successor prior.withoutRejections = link? successor prior := by
  unfold link?
  rw [prior.lastStepIn?_withoutRejections]
  rfl

/-- **Rejections on the sitting before** play no part in the plan. -/
@[simp]
theorem plan_withoutRejections (predecessor successor : Sitting) (now : Timestamp) :
    plan predecessor.withoutRejections successor now = plan predecessor successor now := by
  unfold plan Sitting.withoutRejections
  dsimp only
  rw [List.filterMap_map]
  congr 2
  funext prior
  simp

/-- A carried step stems from a question of the sitting before that was graded by hand and accepted:
it is on the question's own attempt of the resit, and what is noted on it is what was noted on the
most recent acceptance. That is the last decision, unless a rejection stands at the same place or
later. -/
structure StemsFrom (prior current : QuestionHistory) (w : NotedStep) (c : CarriedStep) : Prop where
  question : current.question.questionId = prior.question.questionId
  onto : c.questionAttemptId = current.question.id ∧ c.questionId = current.question.questionId
  manual : prior.question.isManual = true
  accepted : prior.lastStepIn? .accepted = some w
  noted : c.notes = notes w
  last : prior.lastDecision? = some w ∨
    ∃ r ∈ prior.steps, r.step.state = .rejected ∧ NotedStep.createdLe w r = true

theorem stemsFrom_of_link? {prior : QuestionHistory} {l : Link} {c : CarriedStep}
    (hl : link? successor prior = some l) (hc : step? successor now l = some c) :
    StemsFrom prior l.current l.accepted c := by
  obtain ⟨hmanual, haccepted, hcurrent, -⟩ := link?_eq_some_iff.1 hl
  obtain ⟨sequence, -, rfl⟩ := Option.map_eq_some_iff.1 hc
  refine ⟨of_decide_eq_true (List.find?_some hcurrent :), ⟨rfl, rfl⟩, hmanual, haccepted, rfl, ?_⟩
  by_cases hr : ∃ r ∈ prior.steps, r.step.state = .rejected ∧
      NotedStep.createdLe l.accepted r = true
  · exact .inr hr
  · refine .inl (QuestionHistory.lastDecision?_eq haccepted fun r hm hs => ?_)
    exact Bool.eq_false_iff.2 fun hle => hr ⟨r, hm, hs, hle⟩

/-- **The most recent acceptance is carried.** Each step of a plan stems from an accepted answer,
and a rejection on the sitting before does not keep it from being carried: the plan is the same
without any. -/
theorem acceptances_carried (h : plan predecessor successor now = some cs) :
    (∀ c ∈ cs, ∃ prior ∈ predecessor.questions, ∃ current ∈ successor.questions, ∃ w,
        StemsFrom prior current w c) ∧
      plan predecessor.withoutRejections successor now = some cs := by
  refine ⟨fun c hc => ?_, by simpa using h⟩
  obtain ⟨l, hl, hstep⟩ := (mapM_eq_some_mem h).1 c hc
  obtain ⟨prior, hprior, hlink⟩ := List.mem_filterMap.1 hl
  obtain ⟨-, -, hcurrent, -⟩ := link?_eq_some_iff.1 hlink
  exact ⟨prior, hprior, l.current, List.mem_of_find?_eq_some hcurrent, l.accepted,
    stemsFrom_of_link? hlink hstep⟩

/-- An answer that the grader accepted at first and rejected later. -/
def overturned : Sitting where
  attempt := Sample.attempt 41 1 (some 4)
  questions := [⟨Sample.question 411 410 7 1, [⟨Sample.step 3 411 2 .accepted 1700099300, []⟩,
    ⟨Sample.step 4 411 3 .rejected 1700099400, []⟩]⟩]

/-- The same question waits on the resit. -/
def awaiting : Sitting where
  attempt := Sample.attempt 42 2 (some 6)
  questions :=
    [⟨Sample.question 421 420 7 1, [⟨Sample.step 4201 421 1 .needsGrading 1700099900, []⟩]⟩]

theorem acceptances_carried_overturned :
    ∃ c, plan overturned awaiting 1700100000 = some [c] ∧
      (∃ prior ∈ overturned.questions, ∃ current ∈ awaiting.questions, ∃ w,
        StemsFrom prior current w c) ∧
      plan overturned.withoutRejections awaiting 1700100000 = some [c] := by
  have hone : (plan overturned awaiting 1700100000).map List.length = some 1 := by decide +kernel
  obtain ⟨cs, h, hcs⟩ := Option.map_eq_some_iff.1 hone
  obtain ⟨c, rfl⟩ := List.length_eq_one_iff.1 hcs
  obtain ⟨hstems, hsame⟩ := acceptances_carried h
  exact ⟨c, h, hstems c List.mem_cons_self, hsame⟩

theorem not_onlyStanding_overturned : ¬ OnlyStanding overturned awaiting 1700100000 := by
  intro honly
  have hone : (plan overturned awaiting 1700100000).map List.length = some 1 := by decide +kernel
  obtain ⟨cs, h, hcs⟩ := Option.map_eq_some_iff.1 hone
  obtain ⟨c, rfl⟩ := List.length_eq_one_iff.1 hcs
  obtain ⟨prior, hprior, -, w, hw, hstate⟩ := honly _ h c List.mem_cons_self
  obtain rfl := List.mem_singleton.1 hprior
  -- the rejection is the last decision about the only question
  have hlast : (QuestionHistory.lastDecision? ⟨Sample.question 411 410 7 1,
      [⟨Sample.step 3 411 2 .accepted 1700099300, []⟩,
        ⟨Sample.step 4 411 3 .rejected 1700099400, []⟩]⟩).map (·.step.state) = some .rejected := by
    decide +kernel
  rw [hw, Option.map_some, hstate] at hlast
  cases hlast

end Takeover

end GradeRelay
