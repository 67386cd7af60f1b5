import GradeRelay.Proofs.Footprint
import GradeRelay.Proofs.Lists
import GradeRelay.Proofs.Resit.Sittings
/-!
# Carrying grades onto a resit

A grade is due to a question of the resit where an accepted answer to it stands on the sitting
before and the resit's own answer still waits. The plan names the questions that a grade is due to,
some of them perhaps more than once; what is written is one accepted step on each.

* `Takeover.link?_eq_some_iff`, `Takeover.plan_mem`: what the plan is made of;
* `due_iff`: a grade is due where the plan has a link;
* `addCarriedSteps_written`: what of a list of carried steps is written.
-/

namespace GradeRelay

/-! ## The plan -/

theorem QuestionHistory.exists_lastStepIn? {q : QuestionHistory} {state : StepState} :
    (∃ ns, q.lastStepIn? state = some ns) ↔ q.reached state = true := by
  rw [← Option.isSome_iff_exists, ← Option.ne_none_iff_isSome, Ne, lastStepIn?,
    latest?_eq_none_iff, List.filter_eq_nil_iff, reached, List.any_eq_true]
  simp

namespace Takeover

theorem link?_eq_some_iff {t : Sitting} {prior : QuestionHistory} {l : Link} :
    link? t prior = some l ↔ prior.question.isManual = true ∧
      prior.lastStepIn? .accepted = some l.accepted ∧
      t.history? prior.question.questionId = some l.current ∧
      l.current.reached .accepted = false ∧
      l.current.lastStep? = some l.awaiting ∧ l.awaiting.step.state = .needsGrading := by
  unfold link?
  constructor
  · intro h
    split at h
    · next hmanual =>
      obtain ⟨accepted, ha, h⟩ := Option.bind_eq_some_iff.1 h
      obtain ⟨current, hc, h⟩ := Option.bind_eq_some_iff.1 h
      split at h
      · cases h
      · next hr =>
        obtain ⟨awaiting, hw, rfl⟩ := Option.map_eq_some_iff.1 h
        obtain ⟨hl, hs⟩ := Option.filter_eq_some_iff.1 hw
        exact ⟨hmanual, ha, hc, Bool.eq_false_iff.2 hr, hl, of_decide_eq_true hs⟩
    · cases h
  · rintro ⟨hmanual, ha, hc, hr, hl, hs⟩
    rw [if_pos hmanual, ha, Option.bind_some, hc, Option.bind_some, if_neg (by simp [hr]), hl]
    simp [Option.filter, hs]

/-- **The plan** has a step for each link, and no others. -/
theorem plan_mem {predecessor successor : Sitting} {now : Timestamp} {cs : List CarriedStep}
    (h : plan predecessor successor now = some cs) :
    (∀ c ∈ cs, ∃ l ∈ predecessor.questions.filterMap (link? successor),
      c.questionAttemptId = l.current.question.id ∧ c.state = .accepted ∧
        c.sequence.toNat = l.awaiting.step.sequence.toNat + 1) ∧
      ∀ l ∈ predecessor.questions.filterMap (link? successor),
        ∃ c ∈ cs, c.questionAttemptId = l.current.question.id := by
  obtain ⟨hback, hforth⟩ := mapM_eq_some_mem h
  refine ⟨fun c hc => ?_, fun l hl => ?_⟩
  · obtain ⟨l, hl, hstep⟩ := hback c hc
    obtain ⟨sequence, hseq, rfl⟩ := Option.map_eq_some_iff.1 hstep
    exact ⟨l, hl, rfl, rfl, Ordinal.next?_eq_some_iff.1 hseq⟩
  · obtain ⟨c, hc, hstep⟩ := hforth l hl
    obtain ⟨sequence, -, rfl⟩ := Option.map_eq_some_iff.1 hstep
    exact ⟨_, hc, rfl⟩

end Takeover

namespace Store

variable {s s' : Store} {a p : Attempt} {id : QuestionAttemptId}

/-- A grade is due to a question of a resit: what was done about it first is neither accepted nor
past waiting, and on the sitting before it is graded by hand and accepted. -/
def Due (s : Store) (predecessor resit : Attempt) (id : QuestionAttemptId) : Prop :=
  ∃ prior ∈ (s.sitting predecessor).questions,
    prior.question.isManual = true ∧ prior.reached .accepted = true ∧
      ∃ current awaiting, (s.sitting resit).history? prior.question.questionId = some current ∧
        current.question.id = id ∧ current.reached .accepted = false ∧
        current.lastStep? = some awaiting ∧ awaiting.step.state = .needsGrading

/-- The links from the sitting before onto a resit. -/
def links (s : Store) (predecessor resit : Attempt) : List Takeover.Link :=
  (s.sitting predecessor).questions.filterMap (Takeover.link? (s.sitting resit))

theorem due_iff : s.Due p a id ↔ ∃ l ∈ s.links p a, l.current.question.id = id := by
  constructor
  · rintro ⟨prior, hp, hmanual, hreached, current, awaiting, hc, hid, hr, hl, hs⟩
    obtain ⟨accepted, ha⟩ := QuestionHistory.exists_lastStepIn?.2 hreached
    refine ⟨⟨accepted, current, awaiting⟩, List.mem_filterMap.2 ⟨prior, hp, ?_⟩, hid⟩
    exact Takeover.link?_eq_some_iff.2 ⟨hmanual, ha, hc, hr, hl, hs⟩
  · rintro ⟨l, hm, hid⟩
    obtain ⟨prior, hp, hlink⟩ := List.mem_filterMap.1 hm
    obtain ⟨hmanual, ha, hc, hr, hl, hs⟩ := Takeover.link?_eq_some_iff.1 hlink
    exact ⟨prior, hp, hmanual, QuestionHistory.exists_lastStepIn?.1 ⟨_, ha⟩, l.current, l.awaiting,
      hc, hid, hr, hl, hs⟩

/-! ## Writing carried steps -/

/-- What of carried steps is written: rows that read back as they are, each accepted, on a question
that had no accepted step, one on a question at most; every question named has one then; and what
was noted on the steps before stays. -/
structure Written (s : Store) (cs : List CarriedStep) (s' : Store) (added : List Step) : Prop where
  steps : s'.steps = s.steps ++ added
  once : (added.map (·.questionAttemptId)).Nodup
  stored : ∀ st ∈ added, st.stored = st
  accepted : ∀ st ∈ added, st.state = .accepted
  fresh : ∀ st ∈ added, s.hasStepIn st.questionAttemptId .accepted = false
  planned : ∀ st ∈ added, ∃ c ∈ cs,
    c.questionAttemptId = st.questionAttemptId ∧ c.sequence = st.sequence
  complete : ∀ c ∈ cs, s'.hasStepIn c.questionAttemptId .accepted = true
  notes : ∀ st ∈ s.steps, s'.notesOf st.id = s.notesOf st.id

theorem hasStepIn_mono {added : List Step} (hs : s'.steps = s.steps ++ added)
    (h : s.hasStepIn id .accepted = true) : s'.hasStepIn id .accepted = true := by
  rw [hasStepIn_accepted_iff] at h ⊢
  obtain ⟨st, hm, hst⟩ := h
  exact ⟨st, by rw [hs]; exact List.mem_append_left _ hm, hst⟩

theorem notesOf_addCarriedStep (c : CarriedStep) {st : Step} (hm : st ∈ s.steps) :
    (s.addCarriedStep c).notesOf st.id = s.notesOf st.id := by
  have hne : freshId (s.steps.map (·.id)) ≠ st.id := by
    have := lt_freshId (List.mem_map_of_mem (f := (·.id)) hm)
    omega
  have hnil : (c.notes.map fun note => NoteRow.mk (freshId (s.steps.map (·.id))) note).filter
      (fun r => r.stepId = st.id) = [] := by
    rw [List.filter_eq_nil_iff]
    intro r hr
    obtain ⟨note, -, rfl⟩ := List.mem_map.1 hr
    simpa using hne
  rw [notesOf, notesOf]
  unfold addCarriedStep
  dsimp only
  rw [List.filter_append, hnil, List.append_nil]

theorem addCarriedStep_written {c : CarriedStep} (hc : c.state = .accepted)
    (hf : s.hasStepIn c.questionAttemptId .accepted = false) :
    ∃ st, s.Written [c] (s.addCarriedStep c) [st] := by
  let row : Step :=
    { id := freshId (s.steps.map (·.id)), questionAttemptId := c.questionAttemptId,
      sequence := c.sequence, state := c.state, fraction := some c.fraction,
      timeCreated := c.timeCreated, userId := c.userId }
  have hrow : row.stored.state = .accepted := by
    rw [Step.stored_state_eq_accepted_iff]
    exact congrArg StepState.tag hc
  refine ⟨row.stored, rfl, by simp, ?_, ?_, ?_, ?_, ?_, fun st hm => ?_⟩
  · simp
  · simpa using hrow
  · intro st hst
    obtain rfl := List.mem_singleton.1 hst
    exact hf
  · intro st hst
    obtain rfl := List.mem_singleton.1 hst
    exact ⟨c, List.mem_singleton_self c, rfl, rfl⟩
  · intro c' hc'
    obtain rfl := List.mem_singleton.1 hc'
    rw [hasStepIn_accepted_iff]
    refine ⟨row.stored, List.mem_append_right _ (List.mem_singleton_self _), rfl, ?_⟩
    rw [hrow]
  · exact notesOf_addCarriedStep c hm

theorem written_nil {cs : List CarriedStep}
    (h : ∀ c ∈ cs, s.hasStepIn c.questionAttemptId .accepted = true) : s.Written cs s [] where
  steps := by rw [List.append_nil]
  once := .nil
  stored _ hst := nomatch hst
  accepted _ hst := nomatch hst
  fresh _ hst := nomatch hst
  planned _ hst := nomatch hst
  complete := h
  notes _ _ := rfl

theorem Written.append {s₁ : Store} {cs cs' : List CarriedStep} {l l' : List Step}
    (h : s.Written cs s₁ l) (h' : s₁.Written cs' s' l') : s.Written (cs ++ cs') s' (l ++ l') where
  steps := by rw [h'.steps, h.steps, List.append_assoc]
  once := by
    refine nodup_map_append_iff.2 ⟨h.once, h'.once, fun st hst st' hst' hsame => ?_⟩
    -- what is written later lies on questions that had no accepted step by then
    have hno := h'.fresh st' hst'
    have hyes : s₁.hasStepIn st.questionAttemptId .accepted = true := by
      rw [hasStepIn_accepted_iff, h.steps]
      exact ⟨st, List.mem_append_right _ hst, rfl, congrArg _ (h.accepted st hst)⟩
    rw [← hsame, hyes] at hno
    cases hno
  stored st hst := (List.mem_append.1 hst).elim (h.stored st) (h'.stored st)
  accepted st hst := (List.mem_append.1 hst).elim (h.accepted st) (h'.accepted st)
  fresh st hst := by
    rcases List.mem_append.1 hst with hst | hst
    · exact h.fresh st hst
    · have hno := h'.fresh st hst
      rw [Bool.eq_false_iff] at hno ⊢
      exact fun hyes => hno (hasStepIn_mono h.steps hyes)
  planned st hst := by
    rcases List.mem_append.1 hst with hst | hst
    · obtain ⟨c, hc, hcst⟩ := h.planned st hst
      exact ⟨c, List.mem_append_left _ hc, hcst⟩
    · obtain ⟨c, hc, hcst⟩ := h'.planned st hst
      exact ⟨c, List.mem_append_right _ hc, hcst⟩
  complete c hc := by
    rcases List.mem_append.1 hc with hc | hc
    · exact hasStepIn_mono h'.steps (h.complete c hc)
    · exact h'.complete c hc
  notes st hst := by
    rw [h'.notes st (by rw [h.steps]; exact List.mem_append_left _ hst), h.notes st hst]

/-- **Of carried steps** one is written on each question named that has no accepted step yet. -/
theorem addCarriedSteps_written (s : Store) {cs : List CarriedStep}
    (hcs : ∀ c ∈ cs, c.state = .accepted) :
    ∃ added, (s.addCarriedSteps cs).1 = added.length ∧
      s.Written cs (s.addCarriedSteps cs).2 added := by
  induction cs generalizing s with
  | nil =>
    exact ⟨[], rfl, written_nil fun _ h => nomatch h⟩
  | cons c rest ih =>
    obtain ⟨hc, hrest⟩ := List.forall_mem_cons.1 hcs
    rw [addCarriedSteps, hc]
    by_cases hf : s.hasStepIn c.questionAttemptId .accepted = true
    · rw [if_pos hf]
      obtain ⟨added, hn, hw⟩ := ih s hrest
      have hleft : s.Written [c] s [] :=
        written_nil fun c' hc' => List.mem_singleton.1 hc' ▸ hf
      exact ⟨added, hn, hleft.append hw⟩
    · rw [if_neg hf]
      obtain ⟨st, hw₁⟩ := addCarriedStep_written hc (Bool.eq_false_iff.2 hf)
      obtain ⟨added, hn, hw⟩ := ih (s.addCarriedStep c) hrest
      refine ⟨st :: added, ?_, hw₁.append hw⟩
      dsimp only
      rw [hn, List.length_cons]

end Store

end GradeRelay
