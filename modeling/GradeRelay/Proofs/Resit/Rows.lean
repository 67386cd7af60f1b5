import GradeRelay.Proofs.Resit.Takeover
import GradeRelay.Proofs.Sorting
/-!
# Rows of carried steps

What a takeover writes is known before it writes: of the steps planned the first on each question
that is not accepted yet. Each becomes a row under a new number, behind the rows that are there and
with its own notes, and nothing else changes. So it can be said what is read back.

* `CarriedStep.firsts`, `addCarriedSteps_eq`: which of the steps planned are written;
* `takeOver_eq_enter`: a takeover writes these, one after the other;
* `carried?_fits`: what it writes fits the store that it is written to;
* **`noted_enter`**: what the table of steps holds then, with the notes;
* **`stepsOf_enter`**: what is read back on each question.
-/

namespace GradeRelay

namespace CarriedStep

/-- The row of a carried step under a number. -/
def row (id : StepId) (c : CarriedStep) : Step :=
  Step.stored
    { id, questionAttemptId := c.questionAttemptId, sequence := c.sequence, state := c.state,
      fraction := some c.fraction, timeCreated := c.timeCreated, userId := c.userId }

/-- A carried step as it is read back. -/
def noted (id : StepId) (c : CarriedStep) : NotedStep := ⟨c.row id, c.notes⟩

/-- The steps to be written, where some questions are accepted already: the first on each other
question. -/
def firsts (accepted : QuestionAttemptId → Bool) : List CarriedStep → List CarriedStep
  | [] => []
  | c :: rest =>
    if accepted c.questionAttemptId then firsts accepted rest
    else c :: firsts (fun id => accepted id || c.questionAttemptId = id) rest

variable {accepted : QuestionAttemptId → Bool} {cs : List CarriedStep} {c : CarriedStep}

theorem firsts_sublist (accepted : QuestionAttemptId → Bool) (cs : List CarriedStep) :
    (firsts accepted cs).Sublist cs := by
  induction cs generalizing accepted with
  | nil => exact .slnil
  | cons c rest ih =>
    rw [firsts]
    split
    · exact (ih accepted).cons c
    · exact (ih _).cons_cons c

theorem firsts_congr {accepted' : QuestionAttemptId → Bool}
    (h : ∀ c ∈ cs, accepted' c.questionAttemptId = accepted c.questionAttemptId) :
    firsts accepted' cs = firsts accepted cs := by
  induction cs generalizing accepted accepted' with
  | nil => rfl
  | cons c rest ih =>
    obtain ⟨hc, hrest⟩ := List.forall_mem_cons.1 h
    have hthen : firsts (fun id => accepted' id || c.questionAttemptId = id) rest =
        firsts (fun id => accepted id || c.questionAttemptId = id) rest :=
      ih fun d hd => by rw [hrest d hd]
    rw [firsts, firsts, hc, ih hrest, hthen]

theorem firsts_fresh (h : c ∈ firsts accepted cs) : accepted c.questionAttemptId = false := by
  induction cs generalizing accepted with
  | nil => cases h
  | cons d rest ih =>
    rw [firsts] at h
    split at h
    · exact ih h
    · next hd =>
      rcases List.mem_cons.1 h with rfl | h
      · exact Bool.eq_false_iff.2 hd
      · exact (Bool.or_eq_false_iff.1 (ih h)).1

theorem firsts_once (accepted : QuestionAttemptId → Bool) (cs : List CarriedStep) :
    ((firsts accepted cs).map (·.questionAttemptId)).Nodup := by
  induction cs generalizing accepted with
  | nil => exact .nil
  | cons c rest ih =>
    rw [firsts]
    split
    · exact ih accepted
    · rw [List.map_cons, List.nodup_cons]
      refine ⟨fun hm => ?_, ih _⟩
      obtain ⟨d, hd, hid⟩ := List.mem_map.1 hm
      -- a later step on the question would find it accepted by then
      have hfresh := (Bool.or_eq_false_iff.1 (firsts_fresh hd)).2
      rw [hid, decide_eq_false_iff_not] at hfresh
      exact hfresh rfl

theorem firsts_complete (h : c ∈ cs) (hc : accepted c.questionAttemptId = false) :
    ∃ d ∈ firsts accepted cs, d.questionAttemptId = c.questionAttemptId := by
  induction cs generalizing accepted with
  | nil => cases h
  | cons d rest ih =>
    rw [firsts]
    split
    · next hd =>
      rcases List.mem_cons.1 h with rfl | h
      · rw [hc] at hd
        cases hd
      · exact ih h hc
    · by_cases hid : d.questionAttemptId = c.questionAttemptId
      · exact ⟨d, List.mem_cons_self, hid⟩
      · have hm : c ∈ rest := (List.mem_cons.1 h).resolve_left fun he => hid (he ▸ rfl)
        obtain ⟨d', hd', hid'⟩ := @ih (fun id => accepted id || d.questionAttemptId = id) hm
          (by rw [hc, Bool.false_or, decide_eq_false_iff_not]; exact hid)
        exact ⟨d', List.mem_cons_of_mem _ hd', hid'⟩

end CarriedStep

namespace NotedStep

/-- A step without its number. -/
def unnumbered (ns : NotedStep) : NotedStep := { ns with step := { ns.step with id := 0 } }

/-- The first step is no later in sequence, then in number of row. -/
def placeLe (a b : NotedStep) : Bool := Step.sequenceLe a.step b.step

theorem placeLe_trans (a b c : NotedStep) : placeLe a b = true → placeLe b c = true →
    placeLe a c = true :=
  Step.sequenceLe_trans a.step b.step c.step

theorem placeLe_total (a b : NotedStep) : (placeLe a b || placeLe b a) = true :=
  Step.sequenceLe_total a.step b.step

end NotedStep

theorem CarriedStep.unnumbered_noted (id : StepId) (c : CarriedStep) :
    (c.noted id).unnumbered = c.noted 0 := rfl

namespace Store

variable {s s' : Store} {o : Occasion} {assessment : Assessment} {a : Attempt}
  {cs : List CarriedStep} {id : QuestionAttemptId}

/-! ## Notes and the steps that they are on -/

/-- Every note is on a step of the store. -/
def NotesPlaced (s : Store) : Prop := ∀ r ∈ s.notes, ∃ st ∈ s.steps, st.id = r.stepId

/-- The steps of the store with their notes. -/
def noted (s : Store) : List NotedStep := s.steps.map fun st => ⟨st.stored, s.notesOf st.id⟩

theorem stepsOf_eq (s : Store) (id : QuestionAttemptId) : s.stepsOf id =
    (s.noted.filter fun ns => ns.step.questionAttemptId = id).mergeSort NotedStep.placeLe := by
  unfold stepsOf noted
  rw [List.filter_map]
  exact List.map_mergeSort fun _ _ _ _ => rfl

theorem notesOf_freshId (hp : s.NotesPlaced) : s.notesOf (freshId (s.steps.map (·.id))) = [] := by
  rw [notesOf, List.map_eq_nil_iff, List.filter_eq_nil_iff]
  intro r hr hid
  obtain ⟨st, hst, hrow⟩ := hp r hr
  have hlt : st.id < freshId (s.steps.map (·.id)) := lt_freshId (List.mem_map_of_mem hst)
  rw [hrow, of_decide_eq_true hid] at hlt
  exact Int.lt_irrefl _ hlt

/-! ## One step -/

theorem addCarriedStep_eq (s : Store) (c : CarriedStep) : s.addCarriedStep c =
    { s with
      steps := s.steps ++ [c.row (freshId (s.steps.map (·.id)))]
      notes := s.notes ++ c.notes.map fun note => ⟨freshId (s.steps.map (·.id)), note⟩ } := rfl

theorem NotesPlaced.addCarriedStep (hp : s.NotesPlaced) (c : CarriedStep) :
    (s.addCarriedStep c).NotesPlaced := by
  intro r hr
  rcases List.mem_append.1 hr with hold | hnew
  · obtain ⟨st, hst, hid⟩ := hp r hold
    exact ⟨st, List.mem_append_left _ hst, hid⟩
  · obtain ⟨note, -, rfl⟩ := List.mem_map.1 hnew
    exact ⟨_, List.mem_append_right _ List.mem_cons_self, rfl⟩

/-- **One carried step** is one row more, with its own notes. -/
theorem noted_addCarriedStep (hp : s.NotesPlaced) (c : CarriedStep) :
    (s.addCarriedStep c).noted = s.noted ++ [c.noted (freshId (s.steps.map (·.id)))] := by
  have hnew : (s.addCarriedStep c).notesOf (freshId (s.steps.map (·.id))) = c.notes := by
    have hfresh := notesOf_freshId hp
    rw [notesOf, List.map_eq_nil_iff] at hfresh
    rw [notesOf, addCarriedStep_eq]
    dsimp only
    rw [List.filter_append, hfresh, List.nil_append, List.filter_map]
    simp [Function.comp_def]
  have hold : s.steps.map (fun st =>
      (⟨st.stored, (s.addCarriedStep c).notesOf st.id⟩ : NotedStep)) = s.noted :=
    List.map_congr_left fun st hst => by rw [notesOf_addCarriedStep c hst]
  have hsteps :
      (s.addCarriedStep c).steps = s.steps ++ [c.row (freshId (s.steps.map (·.id)))] := rfl
  rw [noted, hsteps, List.map_append, hold, List.map_singleton]
  congr 2
  rw [CarriedStep.noted, ← hnew]
  exact congrArg (NotedStep.mk · _) (Step.stored_stored _)

theorem hasStepIn_addCarriedStep {c : CarriedStep} (hc : c.state = .accepted) :
    (s.addCarriedStep c).hasStepIn id .accepted =
      (s.hasStepIn id .accepted || c.questionAttemptId = id) := by
  have htag : (c.row (freshId (s.steps.map (·.id)))).state.tag = StepState.accepted.tag := by
    have hstate : (c.row (freshId (s.steps.map (·.id)))).state = .accepted :=
      Step.stored_state_eq_accepted_iff.2 (congrArg StepState.tag hc)
    rw [hstate]
  rw [addCarriedStep_eq, hasStepIn, hasStepIn, List.any_append, List.any_cons, List.any_nil,
    Bool.or_false, htag, decide_eq_true rfl, Bool.and_true]
  rfl

/-! ## All steps of a takeover -/

/-- Writes carried steps one after the other. -/
def enter (s : Store) (cs : List CarriedStep) : Store := cs.foldl addCarriedStep s

/-- **Of the steps planned** the first on each question is written that is not accepted yet. -/
theorem addCarriedSteps_eq (s : Store) (hcs : ∀ c ∈ cs, c.state = .accepted) :
    s.addCarriedSteps cs =
      ((CarriedStep.firsts (s.hasStepIn · .accepted) cs).length,
        s.enter (CarriedStep.firsts (s.hasStepIn · .accepted) cs)) := by
  induction cs generalizing s with
  | nil => rfl
  | cons c rest ih =>
    obtain ⟨hc, hrest⟩ := List.forall_mem_cons.1 hcs
    rw [addCarriedSteps, CarriedStep.firsts, hc]
    split
    · exact ih s hrest
    · have hthen : ((s.addCarriedStep c).hasStepIn · .accepted) = fun id =>
          s.hasStepIn id .accepted || c.questionAttemptId = id :=
        funext fun id => hasStepIn_addCarriedStep hc
      rw [ih (s.addCarriedStep c) hrest, hthen]
      rfl

/-- The steps that a takeover writes. -/
def carried? (s : Store) (o : Occasion) (assessment : Assessment) (a : Attempt) :
    Except Fault (List CarriedStep) :=
  match s.predecessor? assessment a with
  | .error f => .error (.store f)
  | .ok none => .ok []
  | .ok (some p) =>
    match Takeover.plan (s.sitting p) (s.sitting a) o.now with
    | none => .error .overflow
    | some cs => .ok (CarriedStep.firsts (s.hasStepIn · .accepted) cs)

theorem plan_accepted {predecessor successor : Sitting} {now : Timestamp}
    (h : Takeover.plan predecessor successor now = some cs) : ∀ c ∈ cs, c.state = .accepted :=
  fun c hc => ((Takeover.plan_mem h).1 c hc).choose_spec.2.2.1

theorem takeOver_eq_enter (s : Store) (o : Occasion) (assessment : Assessment) (a : Attempt) :
    s.takeOver o assessment a =
      (s.carried? o assessment a).map fun cs => (cs.length, s.enter cs) := by
  rw [takeOver_eq, carried?]
  rcases s.predecessor? assessment a with _ | _ | p
  · rfl
  · rfl
  · cases hplan : Takeover.plan (s.sitting p) (s.sitting a) o.now with
    | none => simp only [hplan]; rfl
    | some cs => simp only [hplan, addCarriedSteps_eq s (plan_accepted hplan)]; rfl

theorem takeOver_enter {n : Nat} (h : s.takeOver o assessment a = .ok (n, s')) :
    ∃ cs, s.carried? o assessment a = .ok cs ∧ n = cs.length ∧ s' = s.enter cs := by
  rw [takeOver_eq_enter] at h
  cases hcs : s.carried? o assessment a with
  | error f =>
    rw [hcs] at h
    cases h
  | ok cs =>
    rw [hcs] at h
    cases h
    exact ⟨cs, rfl, rfl, rfl⟩

/-- Carried steps that fit the store: accepted, one on a question at most, and above all steps that
are there. -/
structure Fits (s : Store) (cs : List CarriedStep) : Prop where
  accepted : ∀ c ∈ cs, c.state = .accepted
  once : (cs.map (·.questionAttemptId)).Nodup
  above : ∀ c ∈ cs, ∀ st ∈ s.steps, st.questionAttemptId = c.questionAttemptId →
    st.sequence < c.sequence

theorem fits_nil (s : Store) : s.Fits [] :=
  ⟨fun _ h => (nomatch h), .nil, fun _ h => (nomatch h)⟩

theorem carried?_fits (h : s.carried? o assessment a = .ok cs) :
    s.Fits cs ∧
      ∀ c ∈ cs, ∃ q ∈ s.questions, q.usageId = a.usageId ∧ q.id = c.questionAttemptId := by
  rw [carried?] at h
  split at h
  · cases h
  · cases h
    exact ⟨fits_nil s, fun _ h => (nomatch h)⟩
  · next p hp =>
    split at h
    · cases h
    · next planned hplan =>
      cases h
      have hback := (Takeover.plan_mem hplan).1
      have hmem : ∀ c ∈ CarriedStep.firsts (s.hasStepIn · .accepted) planned, c ∈ planned :=
        fun c hc => (CarriedStep.firsts_sublist _ _).mem hc
      refine ⟨⟨fun c hc => plan_accepted hplan c (hmem c hc), CarriedStep.firsts_once _ _,
        fun c hc st hst hid => ?_⟩, fun c hc => ?_⟩
      · obtain ⟨l, hl, hcid, -, hseq⟩ := hback c (hmem c hc)
        exact sequence_lt_of_link hl hst (hid.trans hcid) hseq
      · obtain ⟨l, hl, hid, -⟩ := hback c (hmem c hc)
        obtain ⟨hq, hu⟩ := question_of_link hl
        exact ⟨l.current.question, hq, hu, hid.symm⟩

theorem enter_cons (s : Store) (c : CarriedStep) (cs : List CarriedStep) :
    s.enter (c :: cs) = (s.addCarriedStep c).enter cs := rfl

theorem enter_footprint (s : Store) (cs : List CarriedStep) :
    s.enter cs = { s with steps := (s.enter cs).steps, notes := (s.enter cs).notes } := by
  induction cs generalizing s with
  | nil => rfl
  | cons c rest ih => exact ih (s.addCarriedStep c)

theorem enter_with_queue (s : Store) (queue : List ReviewRow) (cs : List CarriedStep) :
    ({ s with queue := queue } : Store).enter cs = { s.enter cs with queue := queue } := by
  induction cs generalizing s with
  | nil => rfl
  | cons c rest ih => exact ih (s.addCarriedStep c)

theorem mem_steps_enter {st : Step} (h : st ∈ (s.enter cs).steps) :
    st ∈ s.steps ∨ ∃ c ∈ cs, c.questionAttemptId = st.questionAttemptId := by
  induction cs generalizing s with
  | nil => exact .inl h
  | cons c rest ih =>
    rcases ih h with h | ⟨d, hd, hid⟩
    · rcases List.mem_append.1 h with h | h
      · exact .inl h
      · obtain rfl := List.mem_singleton.1 h
        exact .inr ⟨c, List.mem_cons_self, rfl⟩
    · exact .inr ⟨d, List.mem_cons_of_mem _ hd, hid⟩

theorem NotesPlaced.enter (hp : s.NotesPlaced) (cs : List CarriedStep) :
    (s.enter cs).NotesPlaced := by
  induction cs generalizing s with
  | nil => exact hp
  | cons c rest ih => exact ih (hp.addCarriedStep c)

/-- **The table of steps** grows by a row for each step carried, in the order in which they were. -/
theorem noted_enter (hp : s.NotesPlaced) (cs : List CarriedStep) :
    ∃ added, (s.enter cs).noted = s.noted ++ added ∧
      added.map NotedStep.unnumbered = cs.map (CarriedStep.noted 0) := by
  induction cs generalizing s with
  | nil => exact ⟨[], (List.append_nil _).symm, rfl⟩
  | cons c rest ih =>
    obtain ⟨added, hadded, hrows⟩ := ih (hp.addCarriedStep c)
    refine ⟨c.noted (freshId (s.steps.map (·.id))) :: added, ?_, ?_⟩
    · rw [enter_cons, hadded, noted_addCarriedStep hp, List.append_assoc, List.singleton_append]
    · rw [List.map_cons, hrows, CarriedStep.unnumbered_noted, List.map_cons]

/-- **What is read back on a question** is what was there, and behind it the step carried there. -/
theorem stepsOf_enter (hp : s.NotesPlaced) (hcs : s.Fits cs) (id : QuestionAttemptId) :
    ∃ new, (s.enter cs).stepsOf id = s.stepsOf id ++ new ∧
      new.map NotedStep.unnumbered =
        (cs.filter fun c => c.questionAttemptId = id).map (CarriedStep.noted 0) := by
  obtain ⟨added, hadded, hrows⟩ := noted_enter hp cs
  have hnew : (added.filter fun ns => ns.step.questionAttemptId = id).map NotedStep.unnumbered =
      (cs.filter fun c => c.questionAttemptId = id).map (CarriedStep.noted 0) := by
    have h := congrArg (List.filter fun ns : NotedStep => ns.step.questionAttemptId = id) hrows
    rw [List.filter_map, List.filter_map] at h
    exact h
  refine ⟨added.filter fun ns => ns.step.questionAttemptId = id, ?_, hnew⟩
  have habove : ∀ old ∈ s.noted.filter fun ns => ns.step.questionAttemptId = id,
      ∀ ns ∈ added.filter fun ns => ns.step.questionAttemptId = id,
        NotedStep.placeLe old ns = true := by
    intro old hold ns hns
    obtain ⟨hold, hoid⟩ := List.mem_filter.1 hold
    obtain ⟨st, hst, rfl⟩ := List.mem_map.1 hold
    obtain ⟨c, hc, hcns⟩ := List.mem_map.1 (hnew ▸ List.mem_map_of_mem hns)
    obtain ⟨hc, hcid⟩ := List.mem_filter.1 hc
    have hseq : c.sequence = ns.step.sequence := congrArg (·.step.sequence) hcns
    have hlt : st.sequence < c.sequence :=
      hcs.above c hc st hst ((of_decide_eq_true hoid).trans (of_decide_eq_true hcid).symm)
    rw [hseq] at hlt
    exact Step.sequenceLe_iff.2 (.inl hlt)
  -- at most one step is carried to the question
  have hsorted : (added.filter fun ns => ns.step.questionAttemptId = id).Pairwise
      fun ns ns' => NotedStep.placeLe ns ns' = true := by
    have hids : added.map (·.step.questionAttemptId) = cs.map (·.questionAttemptId) := by
      have h := congrArg (List.map fun ns : NotedStep => ns.step.questionAttemptId) hrows
      rw [List.map_map, List.map_map] at h
      exact h
    have honce : added.Pairwise fun ns ns' =>
        ns.step.questionAttemptId ≠ ns'.step.questionAttemptId :=
      List.pairwise_map.1 (hids ▸ hcs.once)
    refine (honce.filter _).imp_of_mem fun hns hns' hne => absurd ?_ hne
    exact (of_decide_eq_true (List.mem_filter.1 hns).2).trans
      (of_decide_eq_true (List.mem_filter.1 hns').2).symm
  rw [stepsOf_eq, stepsOf_eq, hadded, List.filter_append,
    mergeSort_append NotedStep.placeLe_trans NotedStep.placeLe_total habove,
    List.mergeSort_of_pairwise hsorted]

theorem stepsOf_enter_of_ne (hp : s.NotesPlaced) (hcs : s.Fits cs)
    (hne : ∀ c ∈ cs, c.questionAttemptId ≠ id) : (s.enter cs).stepsOf id = s.stepsOf id := by
  obtain ⟨new, hsteps, hnew⟩ := stepsOf_enter hp hcs id
  have hnone : cs.filter (fun c => c.questionAttemptId = id) = [] :=
    List.filter_eq_nil_iff.2 fun c hc hid => hne c hc (of_decide_eq_true hid)
  rw [hnone, List.map_nil, List.map_eq_nil_iff] at hnew
  rw [hsteps, hnew, List.append_nil]

end Store

end GradeRelay
