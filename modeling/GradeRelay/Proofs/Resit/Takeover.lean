import GradeRelay.Proofs.Questions
import GradeRelay.Proofs.Resit.Carrying
import GradeRelay.Proofs.Sample
/-!
# Taking over grades onto a resit

* `takeOver_written`: a takeover writes the steps that its plan asks for;
* `Written.links_eq_nil`: once that is done, no grade is due any more, even where the new steps
  stand on the sitting before as well;
* **`takeOver_exact`**: each grade due is taken over once, no other is, and a second takeover
  writes nothing.
-/

namespace GradeRelay.Store

variable {s s' : Store} {o : Occasion} {assessment : Assessment} {a p : Attempt} {n : Nat}
  {cs : List CarriedStep} {added : List Step} {id : QuestionAttemptId}

/-! ## Questions and steps -/

theorem map_question_history? (s : Store) (a : Attempt) (questionId : Int) :
    ((s.sitting a).history? questionId).map (·.question) =
      ((s.questions.filter fun q => q.usageId = a.usageId).mergeSort Question.slotLe).find?
        fun q => q.questionId = questionId := by
  rw [Sitting.history?, sitting]
  dsimp only
  rw [List.find?_map, Option.map_map]
  exact Option.map_id_fun ▸ rfl

theorem Written.stepsOf (hw : s.Written cs s' added)
    (hid : ∀ st ∈ added, st.questionAttemptId ≠ id) : s'.stepsOf id = s.stepsOf id := by
  have hnil : added.filter (fun st => st.questionAttemptId = id) = [] := by
    rw [List.filter_eq_nil_iff]
    intro st hst
    simpa using hid st hst
  rw [Store.stepsOf, Store.stepsOf, hw.steps, List.filter_append, hnil, List.append_nil]
  refine List.map_congr_left fun st hst => ?_
  rw [List.mem_mergeSort, List.mem_filter] at hst
  rw [hw.notes st hst.1]

theorem Written.exists_added (hw : s.Written cs s' added)
    (hnew : s'.hasStepIn id .accepted = true) (hold : ¬ s.hasStepIn id .accepted = true) :
    ∃ st ∈ added, st.questionAttemptId = id := by
  rw [hasStepIn_accepted_iff, hw.steps] at hnew
  obtain ⟨st, hst, hid, htag⟩ := hnew
  rcases List.mem_append.1 hst with hst | hst
  · exact absurd (hasStepIn_accepted_iff.2 ⟨st, hst, hid, htag⟩) hold
  · exact ⟨st, hst, hid⟩

theorem Due.not_hasStepIn (h : s.Due p a id) : ¬ s.hasStepIn id .accepted = true := by
  obtain ⟨prior, -, -, -, current, awaiting, hcurrent, hid, hopen, -⟩ := h
  rw [← hid, ← reached_accepted_iff (of_history? hcurrent).1, hopen]
  exact Bool.false_ne_true

/-! ## The takeover -/

/-- The attempt that grades are taken over from: none unless the attempt is a resit with deferred
feedback. -/
def predecessor? (s : Store) (assessment : Assessment) (a : Attempt) :
    Except StoreFault (Option Attempt) :=
  if a.isRepeat && assessment.isDeferred then
    s.attemptNumbered? a.assessmentId a.learnerId (a.number - 1) false
  else .ok none

theorem takeOver_eq (s : Store) (o : Occasion) (assessment : Assessment) (a : Attempt) :
    s.takeOver o assessment a =
      match s.predecessor? assessment a with
      | .error f => .error (.store f)
      | .ok none => .ok (0, s)
      | .ok (some p) =>
        match Takeover.plan (s.sitting p) (s.sitting a) o.now with
        | none => .error .overflow
        | some cs => .ok (s.addCarriedSteps cs) := by
  unfold takeOver predecessor?
  split <;> rfl

/-- **A takeover writes what its plan asks for**, a step for each link. -/
theorem takeOver_written (h : s.takeOver o assessment a = .ok (n, s')) :
    ∃ before cs added, s.predecessor? assessment a = .ok before ∧ n = added.length ∧
      s.Written cs s' added ∧
      (∀ c ∈ cs, ∃ p ∈ before, ∃ l ∈ s.links p a, c.questionAttemptId = l.current.question.id ∧
        c.sequence.toNat = l.awaiting.step.sequence.toNat + 1) ∧
      ∀ p ∈ before, ∀ l ∈ s.links p a, ∃ c ∈ cs, c.questionAttemptId = l.current.question.id := by
  rw [takeOver_eq] at h
  split at h
  · cases h
  · next hp =>
    cases h
    exact ⟨none, [], [], hp, rfl, written_nil (fun _ h => nomatch h), fun _ h => (nomatch h),
      fun _ h => (nomatch h)⟩
  · next p hp =>
    split at h
    · cases h
    · next cs hplan =>
      obtain ⟨hback, hforth⟩ := Takeover.plan_mem hplan
      have hcs : ∀ c ∈ cs, c.state = .accepted := fun c hc => (hback c hc).choose_spec.2.2.1
      obtain ⟨added, hn, hw⟩ := addCarriedSteps_written s hcs
      obtain ⟨rfl, rfl⟩ := Prod.mk.inj (Except.ok.inj h)
      refine ⟨some p, cs, added, hp, hn, hw, fun c hc => ?_, fun p' hp' l hl => ?_⟩
      · obtain ⟨l, hl, hid, -, hseq⟩ := hback c hc
        exact ⟨p, rfl, l, hl, hid, hseq⟩
      · obtain rfl := Option.some.inj hp'
        exact hforth l hl

/-- **No grade is due any more** once every link has its step. A new step may stand on the sitting
before too, where the two share questions; but the question that it is on is accepted by then. -/
theorem Written.links_eq_nil (hw : s.Written cs s' added) (hk : s.Keyed)
    (hq : s'.questions = s.questions)
    (hplanned : ∀ c ∈ cs, ∃ l ∈ s.links p a, c.questionAttemptId = l.current.question.id)
    (hcomplete : ∀ l ∈ s.links p a, ∃ c ∈ cs, c.questionAttemptId = l.current.question.id) :
    s'.links p a = [] := by
  rw [List.eq_nil_iff_forall_not_mem]
  intro l hl
  obtain ⟨prior, hprior, hmanual, hreached, current, awaiting, hcurrent, -, hopen, hlast, hstate⟩ :=
    due_iff.2 ⟨l, hl, rfl⟩
  have hmem := of_history? hcurrent
  have hclosed : ¬ s'.hasStepIn current.question.id .accepted = true := by
    rw [← reached_accepted_iff hmem.1, hopen]
    exact Bool.false_ne_true
  -- so no step was written on the question that still waits
  have hsteps : current.steps = s.stepsOf current.question.id := by
    rw [(mem_questions_sitting.1 hmem.1).2.2]
    refine hw.stepsOf fun st hst hid => hclosed ?_
    rw [hasStepIn_accepted_iff, hw.steps]
    exact ⟨st, List.mem_append_right _ hst, hid, congrArg _ (hw.accepted st hst)⟩
  have hbefore : (s.sitting a).history? prior.question.questionId = some current := by
    have hsame := map_question_history? s' a prior.question.questionId
    rw [hq, ← map_question_history?, hcurrent] at hsame
    obtain ⟨first, hfirst, hquestion⟩ := Option.map_eq_some_iff.1 hsame.symm
    have hsteps' := (mem_questions_sitting.1 (of_history? hfirst).1).2.2
    rw [hquestion, ← hsteps] at hsteps'
    rw [hfirst, QuestionHistory.ext hquestion hsteps']
  obtain ⟨hpq, hpu, hps⟩ := mem_questions_sitting.1 hprior
  rw [hq] at hpq
  by_cases hold : s.hasStepIn prior.question.id .accepted = true
  · -- the grade was due before, and its step is there by now
    have hprior' : ⟨prior.question, s.stepsOf prior.question.id⟩ ∈ (s.sitting p).questions :=
      mem_questions_sitting.2 ⟨hpq, hpu, rfl⟩
    have hdue : s.Due p a current.question.id :=
      ⟨_, hprior', hmanual, (reached_accepted_iff hprior').2 hold, current, awaiting, hbefore, rfl,
        hopen, hlast, hstate⟩
    obtain ⟨l₀, hl₀, hid⟩ := due_iff.1 hdue
    obtain ⟨c, hc, hcid⟩ := hcomplete l₀ hl₀
    have := hw.complete c hc
    rw [hcid, hid] at this
    exact hclosed this
  · -- the accepted step of the sitting before is a new one, and stands on the resit as well
    have hnew := (reached_accepted_iff hprior).1 hreached
    obtain ⟨st, hst, hid⟩ := hw.exists_added hnew hold
    obtain ⟨c, hc, hcid, -⟩ := hw.planned st hst
    obtain ⟨l₀, hl₀, hl₀id⟩ := hplanned c hc
    obtain ⟨prior₀, -, hlink⟩ := List.mem_filterMap.1 hl₀
    obtain ⟨-, -, hfirst, -⟩ := Takeover.link?_eq_some_iff.1 hlink
    have hshared : l₀.current.question = prior.question :=
      hk.eq (mem_questions_sitting.1 (of_history? hfirst).1).1 hpq (by rw [← hl₀id, hcid, hid])
    -- both ask for what was done first about one question
    have hsame : prior₀.question.questionId = prior.question.questionId := by
      rw [← (of_history? hfirst).2, hshared]
    rw [hsame, hbefore] at hfirst
    rw [Option.some.inj hfirst, hshared] at hclosed
    exact hclosed hnew

/-! ## Nothing left to take over -/

/-- There is no sitting to take grades over from, or none on it is due. -/
def Exhausted (s : Store) (assessment : Assessment) (a : Attempt) : Prop :=
  ∃ before, s.predecessor? assessment a = .ok before ∧ ∀ p ∈ before, s.links p a = []

theorem Exhausted.takeOver (h : s.Exhausted assessment a) (o : Occasion) :
    s.takeOver o assessment a = .ok (0, s) := by
  obtain ⟨before, hb, hnil⟩ := h
  rw [takeOver_eq, hb]
  cases before with
  | none => rfl
  | some p =>
    have hplan : Takeover.plan (s.sitting p) (s.sitting a) o.now = some [] := by
      rw [Takeover.plan, ← links, hnil p rfl]
      rfl
    simp only [hplan, addCarriedSteps]

/-- **One takeover leaves nothing to take over.** -/
theorem takeOver_exhausted (hk : s.Keyed) (h : s.takeOver o assessment a = .ok (n, s')) :
    s'.Exhausted assessment a := by
  have hs := takeOver_footprint h
  obtain ⟨before, cs, added, hb, -, hw, hplanned, hcomplete⟩ := takeOver_written h
  refine ⟨before, by rw [hs]; exact hb, fun p hp => ?_⟩
  refine hw.links_eq_nil hk (by rw [hs]) (fun c hc => ?_) (hcomplete p hp)
  obtain ⟨p', hp', l, hl, hid, -⟩ := hplanned c hc
  obtain rfl : p' = p := by
    cases hp
    cases hp'
    rfl
  exact ⟨l, hl, hid⟩

/-! ## What a takeover comes to -/

/-- What a takeover of `n` grades comes to: just the questions that a grade is due to gain a step,
one each; it is accepted and above every other step on its question, so that it is read back as the
latest one; and a second takeover, whenever it is, finds nothing left. -/
structure TakenOver (s : Store) (assessment : Assessment) (a : Attempt) (n : Nat) (s' : Store)
    (added : List Step) : Prop where
  steps : s'.steps = s.steps ++ added
  count : added.length = n
  once : (added.map (·.questionAttemptId)).Nodup
  complete (id : QuestionAttemptId) : id ∈ added.map (·.questionAttemptId) ↔
    ∃ p, s.attemptNumbered? a.assessmentId a.learnerId (a.number - 1) false = .ok (some p) ∧
      s.Due p a id
  accepted : ∀ st ∈ added, st.state = .accepted
  above : ∀ st ∈ added, ∀ other ∈ s.steps, other.questionAttemptId = st.questionAttemptId →
    other.sequence < st.sequence
  visible : ∀ st ∈ added,
    ∃ q ∈ (s'.sitting a).questions, q.question.id = st.questionAttemptId
  latest : ∀ st ∈ added, ∀ q ∈ (s'.sitting a).questions,
    q.question.id = st.questionAttemptId → q.lastStep? = some ⟨st, s'.notesOf st.id⟩
  settled (o : Occasion) : s'.takeOver o assessment a = .ok (0, s')

theorem sequence_lt_of_link {l : Takeover.Link} (hl : l ∈ s.links p a) {other : Step}
    (hm : other ∈ s.steps) (hid : other.questionAttemptId = l.current.question.id)
    {sequence : Ordinal} (hseq : sequence.toNat = l.awaiting.step.sequence.toNat + 1) :
    other.sequence < sequence := by
  obtain ⟨prior, -, hlink⟩ := List.mem_filterMap.1 hl
  obtain ⟨-, -, hcurrent, -, hlast, -⟩ := Takeover.link?_eq_some_iff.1 hlink
  have hsteps := (mem_questions_sitting.1 (of_history? hcurrent).1).2.2
  have hmem : ⟨other.stored, s.notesOf other.id⟩ ∈ l.current.steps := by
    rw [hsteps, mem_stepsOf]
    exact ⟨other, hm, hid, rfl⟩
  have hle : other.sequence ≤ l.awaiting.step.sequence :=
    QuestionHistory.sequence_le_lastStep? hlast hmem
  rw [UInt32.lt_iff_toNat_lt]
  rw [UInt32.le_iff_toNat_le] at hle
  omega

theorem question_of_link {l : Takeover.Link} (hl : l ∈ s.links p a) :
    l.current.question ∈ s.questions ∧ l.current.question.usageId = a.usageId := by
  obtain ⟨prior, -, hlink⟩ := List.mem_filterMap.1 hl
  obtain ⟨-, -, hcurrent, -⟩ := Takeover.link?_eq_some_iff.1 hlink
  obtain ⟨hq, hu, -⟩ := mem_questions_sitting.1 (of_history? hcurrent).1
  exact ⟨hq, hu⟩

theorem Written.lastStep? (hw : s.Written cs s' added) {st : Step} (hst : st ∈ added)
    (habove : ∀ other ∈ s.steps, other.questionAttemptId = st.questionAttemptId →
      other.sequence < st.sequence) {q : QuestionHistory} (hq : q ∈ (s'.sitting a).questions)
    (hid : q.question.id = st.questionAttemptId) :
    q.lastStep? = some ⟨st, s'.notesOf st.id⟩ := by
  have hsteps := (mem_questions_sitting.1 hq).2.2
  refine QuestionHistory.lastStep?_eq_some ?_ fun other hother hne => ?_
  · rw [hsteps, mem_stepsOf]
    exact ⟨st, by rw [hw.steps]; exact List.mem_append_right _ hst, hid.symm,
      by rw [hw.stored st hst]⟩
  · rw [hsteps, mem_stepsOf] at hother
    obtain ⟨st', hst', hid', rfl⟩ := hother
    rw [hw.steps] at hst'
    rcases List.mem_append.1 hst' with hold | hnew
    · exact habove st' hold (hid'.trans hid)
    · -- no second step was written on the question
      obtain rfl := List.inj_on_of_nodup_map hw.once hnew hst (hid'.trans hid)
      rw [hw.stored st' hnew] at hne
      exact absurd rfl hne

/-- **A takeover carries each grade due once**, completely and for good. -/
theorem takeOver_exact (hk : s.Keyed) (hr : a.isRepeat = true) (hd : assessment.isDeferred = true)
    (h : s.takeOver o assessment a = .ok (n, s')) :
    ∃ added, s.TakenOver assessment a n s' added := by
  obtain ⟨before, cs, added, hb, hn, hw, hplanned, hcomplete⟩ := takeOver_written h
  have hb' : s.attemptNumbered? a.assessmentId a.learnerId (a.number - 1) false = .ok before := by
    rw [← hb, predecessor?, hr, hd]
    rfl
  -- every step written answers a link
  have hlink : ∀ st ∈ added, ∃ p ∈ before, ∃ l ∈ s.links p a,
      l.current.question.id = st.questionAttemptId ∧
        st.sequence.toNat = l.awaiting.step.sequence.toNat + 1 := by
    intro st hst
    obtain ⟨c, hc, hid, hseq⟩ := hw.planned st hst
    obtain ⟨p, hp, l, hl, hid', hseq'⟩ := hplanned c hc
    exact ⟨p, hp, l, hl, by rw [← hid', hid], by rw [← hseq, hseq']⟩
  have habove : ∀ st ∈ added, ∀ other ∈ s.steps,
      other.questionAttemptId = st.questionAttemptId → other.sequence < st.sequence := by
    intro st hst other hm hid
    obtain ⟨p, -, l, hl, hid', hseq⟩ := hlink st hst
    exact sequence_lt_of_link hl hm (hid.trans hid'.symm) hseq
  refine ⟨added, hw.steps, hn.symm, hw.once, fun id => ⟨fun hid => ?_, ?_⟩, hw.accepted, habove,
    fun st hst => ?_, fun st hst q hq hid => hw.lastStep? hst (habove st hst) hq hid,
    fun o' => (takeOver_exhausted hk h).takeOver o'⟩
  · obtain ⟨st, hst, rfl⟩ := List.mem_map.1 hid
    obtain ⟨p, hp, l, hl, hid', -⟩ := hlink st hst
    exact ⟨p, by rw [hb', hp], due_iff.2 ⟨l, hl, hid'⟩⟩
  · rintro ⟨p, hp, hdue⟩
    obtain ⟨l, hl, hid⟩ := due_iff.1 hdue
    obtain ⟨c, hc, hcid⟩ := hcomplete p (Except.ok.inj (hb'.symm.trans hp)) l hl
    have hdone := hw.complete c hc
    rw [hcid, hid] at hdone
    exact List.mem_map.2 (hw.exists_added hdone hdue.not_hasStepIn)
  · obtain ⟨p, -, l, hl, hid, -⟩ := hlink st hst
    obtain ⟨hq, hu⟩ := question_of_link hl
    have hquestions : s'.questions = s.questions := by rw [takeOver_footprint h]
    refine ⟨⟨l.current.question, s'.stepsOf l.current.question.id⟩, ?_, hid⟩
    rw [mem_questions_sitting, hquestions]
    exact ⟨hq, hu, rfl⟩

/-- A resit whose only answer waits, after a sitting on which the same answer was accepted. -/
def handedIn : Store :=
  { Sample.people with
    assessments := [Sample.assessment "Written Assessment" .deferredFeedback]
    attempts := [.ofAttempt (Sample.attempt 41 1 (some 4)),
      .ofAttempt (Sample.attempt 42 2 (some 6))]
    questions := [Sample.question 411 410 7 1, Sample.question 421 420 7 1]
    steps := [Sample.step 3 411 2 .accepted 1700099300,
      Sample.step 4201 421 1 .needsGrading 1700099900] }

theorem takeOver_exact_handedIn :
    ∃ s' added, handedIn.takeOver ⟨7, 1700100000, Sample.graderRole⟩
        (Sample.assessment "Written Assessment" .deferredFeedback) (Sample.attempt 42 2 (some 6)) =
          .ok (1, s') ∧
      handedIn.TakenOver (Sample.assessment "Written Assessment" .deferredFeedback)
        (Sample.attempt 42 2 (some 6)) 1 s' added := by
  have hn : (handedIn.takeOver ⟨7, 1700100000, Sample.graderRole⟩
      (Sample.assessment "Written Assessment" .deferredFeedback)
      (Sample.attempt 42 2 (some 6))).toOption.map (·.1) = some 1 := by decide +kernel
  obtain ⟨⟨n, s'⟩, h, rfl⟩ := Option.map_eq_some_iff.1 hn
  have h' := Except.ok_of_toOption h
  obtain ⟨added, ht⟩ := takeOver_exact (by unfold Keyed; decide) (by decide) (by decide) h'
  exact ⟨s', added, h', ht⟩

end GradeRelay.Store
