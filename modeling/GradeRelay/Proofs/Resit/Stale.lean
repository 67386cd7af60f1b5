import GradeRelay.Proofs.Resit.Takeover
import GradeRelay.Proofs.Sorting
/-!
# Plans made from an earlier reading

Between the reading that a plan is made from and the writing of its steps, graders may take steps
on the resit. The writing looks once more, but only for accepted steps: a question accepted in the
meantime is left out, one that was rejected is not.

* `addSteps_ok`: what graders add in the meantime;
* `lastStep?_addSteps`: steps below the latest one leave it the latest;
* **`carried_where_unaccepted`**: where the steps of such a plan land;
* `not_carriesOntoWaiting_handedIn`: one of them may land on a question that waits no more.
-/

namespace GradeRelay.Store

variable {s s₁ : Store} {a p : Attempt} {now : Timestamp} {cs : List CarriedStep}
  {inserted : List Step}

/-- Adds steps one after the other. -/
def addSteps (s : Store) (inserted : List Step) : Except StoreFault Store :=
  inserted.foldlM addStep s

theorem addSteps_ok (h : s.addSteps inserted = .ok s₁) :
    s₁ = { s with steps := s.steps ++ inserted.map Step.stored } := by
  induction inserted generalizing s with
  | nil =>
    cases h
    rw [List.map_nil, List.append_nil]
  | cons st rest ih =>
    rw [addSteps, List.foldlM_cons] at h
    obtain ⟨s₀, h₀, h⟩ := Except.bind_eq_ok_iff.1 h
    rw [ih h]
    unfold addStep at h₀
    split at h₀
    · cases h₀
    · cases h₀
      rw [List.map_cons, List.append_assoc, List.singleton_append]

theorem filter_stepsOf_addSteps (h : s.addSteps inserted = .ok s₁) {id : QuestionAttemptId}
    {n : Ordinal} (hlow : ∀ st ∈ inserted, st.questionAttemptId = id → st.sequence < n) :
    (s₁.stepsOf id).filter (fun ns => n ≤ ns.step.sequence) =
      (s.stepsOf id).filter fun ns => n ≤ ns.step.sequence := by
  have hnew : ((inserted.map Step.stored).filter fun st => st.questionAttemptId = id).filter
      (fun st => n ≤ st.stored.sequence) = [] := by
    rw [List.filter_eq_nil_iff]
    intro st hst hle
    obtain ⟨hst, hid⟩ := List.mem_filter.1 hst
    obtain ⟨st', hst', rfl⟩ := List.mem_map.1 hst
    have hlt : st'.sequence < n := hlow st' hst' (of_decide_eq_true hid)
    exact UInt32.not_lt.2 (of_decide_eq_true hle) hlt
  have hsort := fun l : List Step =>
    filter_mergeSort Step.sequenceLe_trans Step.sequenceLe_total
      (fun st => n ≤ st.stored.sequence) l
  obtain rfl := addSteps_ok h
  unfold stepsOf
  dsimp only
  rw [List.filter_map, List.filter_map]
  simp only [Function.comp_def]
  rw [hsort, hsort, List.filter_append, List.filter_append, hnew, List.append_nil]
  rfl

theorem lastStep?_addSteps (h : s.addSteps inserted = .ok s₁) {q : Question} {w : NotedStep}
    (hw : QuestionHistory.lastStep? ⟨q, s.stepsOf q.id⟩ = some w)
    (hlow : ∀ st ∈ inserted, st.questionAttemptId = q.id → st.sequence < w.step.sequence) :
    QuestionHistory.lastStep? ⟨q, s₁.stepsOf q.id⟩ = some w := by
  have hfrom : latest? NotedStep.sequenceLe
      ((s₁.stepsOf q.id).filter fun ns => w.step.sequence ≤ ns.step.sequence) = some w := by
    rw [filter_stepsOf_addSteps h hlow]
    exact latest?_filter NotedStep.sequenceLe_total NotedStep.sequenceLe_trans hw
      (decide_eq_true (UInt32.le_refl _))
  exact latest?_of_filter NotedStep.sequenceLe_total NotedStep.sequenceLe_trans hfrom
    fun ns _ hns => hns

/-- A step lands where an answer waits: the latest step on its question waits for grading, and it
comes after every step there. -/
structure LandsWaiting (s : Store) (a : Attempt) (st : Step) : Prop where
  waiting : ∃ q ∈ (s.sitting a).questions, q.question.id = st.questionAttemptId ∧
    ∃ w, q.lastStep? = some w ∧ w.step.state = .needsGrading
  above : ∀ other ∈ s.steps, other.questionAttemptId = st.questionAttemptId →
    other.sequence < st.sequence

/-- A plan made before steps were inserted is carried out only where an answer still waits. -/
def CarriesOntoWaiting (s : Store) (p a : Attempt) (now : Timestamp) (inserted : List Step) :
    Prop :=
  ∀ cs s₁ added, Takeover.plan (s.sitting p) (s.sitting a) now = some cs →
    s.addSteps inserted = .ok s₁ → (s₁.addCarriedSteps cs).2.steps = s₁.steps ++ added →
      ∀ st ∈ added, s₁.LandsWaiting a st

section Link

variable {l : Takeover.Link} {st : Step}

/-- **A step planned** lands where an answer waited when the plan was made. -/
theorem landsWaiting_of_link (hl : l ∈ s.links p a)
    (hid : st.questionAttemptId = l.current.question.id)
    (hseq : st.sequence.toNat = l.awaiting.step.sequence.toNat + 1) : s.LandsWaiting a st := by
  obtain ⟨prior, -, hlink⟩ := List.mem_filterMap.1 hl
  obtain ⟨-, -, hcurrent, -, hlast, hstate⟩ := Takeover.link?_eq_some_iff.1 hlink
  refine ⟨⟨l.current, (of_history? hcurrent).1, hid.symm, l.awaiting, hlast, hstate⟩, ?_⟩
  intro other hm hother
  exact sequence_lt_of_link hl hm (hother.trans hid) hseq

/-- **A step planned** lands where an answer still waits, if only lower steps were inserted on its
question since. -/
theorem landsWaiting_addSteps (hs : s.addSteps inserted = .ok s₁) (hl : l ∈ s.links p a)
    (hid : st.questionAttemptId = l.current.question.id)
    (hseq : st.sequence.toNat = l.awaiting.step.sequence.toNat + 1)
    (hlow : ∀ i ∈ inserted, i.questionAttemptId = l.current.question.id →
      i.sequence < l.awaiting.step.sequence) : s₁.LandsWaiting a st := by
  obtain ⟨prior, -, hlink⟩ := List.mem_filterMap.1 hl
  obtain ⟨-, -, hcurrent, -, hlast, hstate⟩ := Takeover.link?_eq_some_iff.1 hlink
  obtain ⟨hq, hu, hsteps⟩ := mem_questions_sitting.1 (of_history? hcurrent).1
  have hlast₁ : QuestionHistory.lastStep? ⟨l.current.question, s₁.stepsOf l.current.question.id⟩ =
      some l.awaiting := by
    refine lastStep?_addSteps hs ?_ hlow
    rw [← hsteps]
    exact hlast
  have hstore := addSteps_ok hs
  refine ⟨⟨⟨l.current.question, s₁.stepsOf l.current.question.id⟩, ?_, hid.symm, l.awaiting, hlast₁,
    hstate⟩, fun other hm hother => ?_⟩
  · rw [mem_questions_sitting, hstore]
    exact ⟨hq, hu, rfl⟩
  · rw [hstore] at hm
    rcases List.mem_append.1 hm with hold | hnew
    · exact sequence_lt_of_link hl hold (hother.trans hid) hseq
    · obtain ⟨i, hi, rfl⟩ := List.mem_map.1 hnew
      have hlt : i.sequence < l.awaiting.step.sequence := hlow i hi (hother.trans hid)
      show i.sequence < st.sequence
      rw [UInt32.lt_iff_toNat_lt] at hlt ⊢
      omega

end Link

/-- **Where the steps of an earlier plan land.** What is written is one accepted step on each of
some questions that no grader has accepted by then. It lands where an answer waited when the plan
was made; the answer waits there still, unless a grader has taken a step since that is placed where
the waiting step is or later. -/
theorem carried_where_unaccepted
    (hplan : Takeover.plan (s.sitting p) (s.sitting a) now = some cs)
    (hs : s.addSteps inserted = .ok s₁) :
    ∃ added, (s₁.addCarriedSteps cs).2.steps = s₁.steps ++ added ∧
      (s₁.addCarriedSteps cs).1 = added.length ∧ (added.map (·.questionAttemptId)).Nodup ∧
      ∀ st ∈ added, st.state = .accepted ∧
        s₁.hasStepIn st.questionAttemptId .accepted = false ∧ s.LandsWaiting a st ∧
        (s₁.LandsWaiting a st ∨ ∃ i ∈ inserted, i.questionAttemptId = st.questionAttemptId ∧
          i.state.tag ≠ StepState.accepted.tag ∧ st.sequence.toNat ≤ i.sequence.toNat + 1) := by
  have hback := (Takeover.plan_mem hplan).1
  obtain ⟨added, hn, hw⟩ :=
    addCarriedSteps_written s₁ fun c hc => (hback c hc).choose_spec.2.2.1
  refine ⟨added, hw.steps, hn, hw.once, fun st hst => ?_⟩
  obtain ⟨c, hc, hcid, hcseq⟩ := hw.planned st hst
  obtain ⟨l, hl, hid, -, hseq⟩ := hback c hc
  rw [hcid] at hid
  rw [hcseq] at hseq
  have hfresh := hw.fresh st hst
  refine ⟨hw.accepted st hst, hfresh, landsWaiting_of_link hl hid hseq, ?_⟩
  by_cases hhigh : ∃ i ∈ inserted, i.questionAttemptId = l.current.question.id ∧
      l.awaiting.step.sequence ≤ i.sequence
  · obtain ⟨i, hi, hiid, hle⟩ := hhigh
    have hon : i.questionAttemptId = st.questionAttemptId := hiid.trans hid.symm
    refine .inr ⟨i, hi, hon, fun htag => ?_, ?_⟩
    · -- an acceptance in the meantime would have been noticed
      have haccepted : s₁.hasStepIn st.questionAttemptId .accepted = true := by
        rw [hasStepIn_accepted_iff, addSteps_ok hs]
        refine ⟨i.stored, List.mem_append_right _ (List.mem_map_of_mem hi), hon, ?_⟩
        rw [Step.stored_state_eq_accepted_iff.2 htag]
      rw [hfresh] at haccepted
      cases haccepted
    · rw [UInt32.le_iff_toNat_le] at hle
      omega
  · refine .inl (landsWaiting_addSteps hs hl hid hseq fun i hi hiid => ?_)
    exact UInt32.not_le.1 fun hle => hhigh ⟨i, hi, hiid, hle⟩

/-- The grader rejects the answer that waits. -/
def rejectedSince : List Step := [Sample.step 4202 421 2 .rejected 1700099950]

theorem carried_where_unaccepted_handedIn :
    ∃ cs s₁ added, Takeover.plan (handedIn.sitting (Sample.attempt 41 1 (some 4)))
        (handedIn.sitting (Sample.attempt 42 2 (some 6))) 1700100000 = some cs ∧
      handedIn.addSteps rejectedSince = .ok s₁ ∧
      (s₁.addCarriedSteps cs).2.steps = s₁.steps ++ added ∧ added.length = 1 ∧
      ∀ st ∈ added, st.state = .accepted ∧
        s₁.hasStepIn st.questionAttemptId .accepted = false ∧
        handedIn.LandsWaiting (Sample.attempt 42 2 (some 6)) st ∧
        (s₁.LandsWaiting (Sample.attempt 42 2 (some 6)) st ∨
          ∃ i ∈ rejectedSince, i.questionAttemptId = st.questionAttemptId ∧
            i.state.tag ≠ StepState.accepted.tag ∧ st.sequence.toNat ≤ i.sequence.toNat + 1) := by
  have hone : ((Takeover.plan (handedIn.sitting (Sample.attempt 41 1 (some 4)))
      (handedIn.sitting (Sample.attempt 42 2 (some 6))) 1700100000).bind fun cs =>
        (handedIn.addSteps rejectedSince).toOption.map fun s₁ => (s₁.addCarriedSteps cs).1) =
      some 1 := by decide +kernel
  obtain ⟨cs, hplan, hone⟩ := Option.bind_eq_some_iff.1 hone
  obtain ⟨s₁, hs, hone⟩ := Option.map_eq_some_iff.1 hone
  obtain ⟨added, hsteps, hn, -, hlands⟩ :=
    carried_where_unaccepted hplan (Except.ok_of_toOption hs)
  exact ⟨cs, s₁, added, hplan, Except.ok_of_toOption hs, hsteps, hn.symm.trans hone, hlands⟩

theorem not_carriesOntoWaiting_handedIn :
    ¬ handedIn.CarriesOntoWaiting (Sample.attempt 41 1 (some 4)) (Sample.attempt 42 2 (some 6))
      1700100000 rejectedSince := by
  intro hevery
  -- the acceptance is carried onto the question, at the place of the rejection
  have hrows : ((Takeover.plan (handedIn.sitting (Sample.attempt 41 1 (some 4)))
      (handedIn.sitting (Sample.attempt 42 2 (some 6))) 1700100000).bind fun cs =>
        (handedIn.addSteps rejectedSince).toOption.map fun s₁ =>
          ((s₁.addCarriedSteps cs).2.steps.drop s₁.steps.length).map fun st =>
            (st.questionAttemptId, st.sequence)) = some [(421, 2)] := by decide +kernel
  obtain ⟨cs, hplan, hrows⟩ := Option.bind_eq_some_iff.1 hrows
  obtain ⟨s₁, hs, hrows⟩ := Option.map_eq_some_iff.1 hrows
  obtain ⟨st, hdrop, hst⟩ := List.map_eq_singleton_iff.1 hrows
  have hs := Except.ok_of_toOption hs
  have hsteps : (s₁.addCarriedSteps cs).2.steps = s₁.steps ++ [st] := by
    have hback := (Takeover.plan_mem hplan).1
    obtain ⟨added, -, hw⟩ :=
      addCarriedSteps_written s₁ fun c hc => (hback c hc).choose_spec.2.2.1
    rw [hw.steps, List.drop_left] at hdrop
    rw [hw.steps, hdrop]
  obtain ⟨hid, hseq⟩ := Prod.mk.inj hst
  have hlands := hevery cs s₁ [st] hplan hs hsteps st List.mem_cons_self
  have hrejection : (Sample.step 4202 421 2 .rejected 1700099950).stored ∈ s₁.steps := by
    rw [addSteps_ok hs]
    exact List.mem_append_right _ List.mem_cons_self
  have hlt : (2 : Ordinal) < st.sequence := hlands.above _ hrejection hid.symm
  rw [hseq] at hlt
  exact absurd hlt (by decide)

end GradeRelay.Store
