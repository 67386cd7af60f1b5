import GradeRelay.Proofs.Lists
import GradeRelay.Proofs.Resit.Sittings
import GradeRelay.Proofs.Sample
import GradeRelay.Proofs.Sorting
import Mathlib.Data.List.Forall2
import Mathlib.Data.List.Nodup
/-!
# Sittings read back

Questions, steps and notes are written in any order, also those of other sittings in between, and a
step may be there before its question and a note before its step.

* `insertAll_ok`: rows under numbers that are not in use are all written;
* `Rows.Shows`: what a sitting shows of the rows written, said without the look-ups that make it;
* `Rows.Shows.unique`, `Rows.Shows.perm`: no two sittings show the same rows, and the order of
  writing matters for the notes on one step only;
* `sitting_shows`, `Sitting.Orderly.shows`: a sitting that is read back shows the rows written, and
  a sitting in order shows its own;
* **`snapshots_faithful`**: so nothing is lost, doubled or out of order in what is read back, and
  what is read back can be written and read again.
-/

namespace GradeRelay

/-! ## Rows to be written -/

/-- A row to be written to one of the tables that sittings are made of. -/
inductive Insertion where
  | question (q : Question)
  | step (st : Step)
  | note (stepId : StepId) (n : Note)

/-- Rows in the order in which they are written. -/
abbrev Rows := List Insertion

namespace Insertion

/-- The question that a write adds. -/
@[simp] def question? : Insertion → Option Question
  | .question q => some q
  | _ => none

/-- The step that a write adds. -/
@[simp] def step? : Insertion → Option Step
  | .step st => some st
  | _ => none

/-- The note that a write adds, with its step. -/
@[simp] def note? : Insertion → Option NoteRow
  | .note stepId n => some ⟨stepId, n⟩
  | _ => none

end Insertion

namespace Rows

/-- The questions written, in order. -/
def questions (rows : Rows) : List Question := rows.filterMap Insertion.question?

/-- The steps written, in order. -/
def steps (rows : Rows) : List Step := rows.filterMap Insertion.step?

/-- The notes written, in order. -/
def notes (rows : Rows) : List NoteRow := rows.filterMap Insertion.note?

/-- The notes written on a step, in the order of writing. -/
def notesOn (rows : Rows) (id : StepId) : List Note :=
  (rows.notes.filter fun r => r.stepId = id).map (·.note)

/-- No two questions and no two steps have one number. -/
structure Distinct (rows : Rows) : Prop where
  questions : (rows.questions.map (·.id)).Nodup
  steps : (rows.steps.map (·.id)).Nodup

theorem Distinct.perm {rows rows' : Rows} (hd : rows.Distinct) (hp : rows.Perm rows') :
    rows'.Distinct where
  questions := ((hp.filterMap _).map _).nodup_iff.1 hd.questions
  steps := ((hp.filterMap _).map _).nodup_iff.1 hd.steps

end Rows

namespace Store

/-- The store without any row of a sitting. -/
def emptied (s : Store) : Store := { s with questions := [], steps := [], notes := [] }

/-- Writes one row. -/
def insert (s : Store) : Insertion → Except StoreFault Store
  | .question q => s.addQuestion q
  | .step st => s.addStep st
  | .note stepId n => .ok (s.addNote stepId n)

/-- Writes rows one after the other. -/
def insertAll (s : Store) (rows : Rows) : Except StoreFault Store := rows.foldlM insert s

/-- The store with rows put at the end of its tables. -/
def written (s : Store) (rows : Rows) : Store :=
  { s with
    questions := s.questions ++ rows.questions
    steps := s.steps ++ rows.steps.map Step.stored
    notes := s.notes ++ rows.notes }

/-- No two questions and no two steps have one number, those in the store and those to be written
taken together. -/
structure Takes (s : Store) (rows : Rows) : Prop where
  questions : ((s.questions ++ rows.questions).map (·.id)).Nodup
  steps : ((s.steps ++ rows.steps).map (·.id)).Nodup

variable {s : Store} {row : Insertion} {rows rows' : Rows}

theorem written_append (s : Store) (rows rows' : Rows) :
    s.written (rows ++ rows') = (s.written rows).written rows' := by
  simp only [written, Rows.questions, Rows.steps, Rows.notes, List.filterMap_append,
    List.map_append, List.append_assoc]

theorem Takes.of_append (h : s.Takes (rows ++ rows')) : (s.written rows).Takes rows' where
  questions := by
    simpa only [written, Rows.questions, List.filterMap_append, List.append_assoc]
      using h.questions
  steps := by
    simpa only [written, Rows.steps, List.filterMap_append, List.map_append, List.map_map,
      Function.comp_def, Step.stored, List.append_assoc] using h.steps

theorem insert_ok (h : s.Takes (row :: rows)) : s.insert row = .ok (s.written [row]) := by
  cases row with
  | question q =>
    rw [insert, addQuestion, any_key_eq_false h.questions]
    simp [written, Rows.questions, Rows.steps, Rows.notes]
  | step st =>
    rw [insert, addStep, any_key_eq_false h.steps]
    simp [written, Rows.questions, Rows.steps, Rows.notes]
  | note stepId n =>
    rw [insert, addNote]
    simp [written, Rows.questions, Rows.steps, Rows.notes]

/-- **Rows under numbers that are not in use** are all written, each at the end of its table. -/
theorem insertAll_ok (h : s.Takes rows) : s.insertAll rows = .ok (s.written rows) := by
  induction rows generalizing s with
  | nil => simp [insertAll, written, Rows.questions, Rows.steps, Rows.notes, pure, Except.pure]
  | cons row rest ih =>
    have hrest : (s.written [row]).Takes rest := Takes.of_append h
    calc s.insertAll (row :: rest) = s.insert row >>= fun s₁ => s₁.insertAll rest := by
          rw [insertAll, List.foldlM_cons]; rfl
      _ = .ok ((s.written [row]).written rest) := by rw [insert_ok h]; exact ih hrest
      _ = .ok (s.written (row :: rest)) := by rw [← written_append, List.singleton_append]

theorem Takes.of_distinct (hd : rows.Distinct) : s.emptied.Takes rows where
  questions := hd.questions
  steps := hd.steps

end Store

/-! ## What reading a step changes -/

namespace StepState

/-- The states that are known. -/
def known : List StepState := [.needsGrading, .accepted, .rejected]

/-- A state is read back as it was written, but for one written as unknown under the tag of a known
state, which is read back as that state. -/
def ReadsBack (x y : StepState) : Prop :=
  (∃ k ∈ known, x = .unknown k.tag ∧ y = k) ∨ (∀ k ∈ known, x ≠ .unknown k.tag) ∧ y = x

@[simp]
theorem ofTag_tag {k : StepState} (hk : k ∈ known) : ofTag k.tag = k := by
  simp only [known, List.mem_cons, List.not_mem_nil, or_false] at hk
  rcases hk with rfl | rfl | rfl <;> rfl

theorem ofTag_tag_of_ne {x : StepState} (hx : ∀ k ∈ known, x ≠ .unknown k.tag) :
    ofTag x.tag = x := by
  cases x with
  | needsGrading => rfl
  | accepted => rfl
  | rejected => rfl
  | unknown t =>
    simp only [known, List.forall_mem_cons, ne_eq, unknown.injEq] at hx
    obtain ⟨h₁ : t ≠ "needsgrading", h₂ : t ≠ "mangrright", h₃ : t ≠ "mangrwrong", -⟩ := hx
    rw [tag, ofTag, if_neg h₁, if_neg h₂, if_neg h₃]

theorem readsBack_iff {x y : StepState} : x.ReadsBack y ↔ ofTag x.tag = y := by
  constructor
  · rintro (⟨k, hk, rfl, rfl⟩ | ⟨hx, rfl⟩)
    · exact ofTag_tag hk
    · exact ofTag_tag_of_ne hx
  · rintro rfl
    by_cases hx : ∃ k ∈ known, x = .unknown k.tag
    · obtain ⟨k, hk, rfl⟩ := hx
      exact .inl ⟨k, hk, rfl, ofTag_tag hk⟩
    · have hne : ∀ k ∈ known, x ≠ .unknown k.tag := fun k hk h => hx ⟨k, hk, h⟩
      exact .inr ⟨hne, ofTag_tag_of_ne hne⟩

end StepState

namespace Step

/-- A step is read back as it was written, but for its state and for a fraction that is not a
number or a negative zero. -/
structure ReadsBack (st st' : Step) : Prop where
  id : st'.id = st.id
  questionAttemptId : st'.questionAttemptId = st.questionAttemptId
  sequence : st'.sequence = st.sequence
  state : st.state.ReadsBack st'.state
  fraction : st'.fraction = st.fraction.bind Score.stored
  timeCreated : st'.timeCreated = st.timeCreated
  userId : st'.userId = st.userId

/-- Nothing about a step is changed by writing and reading it. -/
structure Normal (st : Step) : Prop where
  state : ∀ k ∈ StepState.known, st.state ≠ .unknown k.tag
  fraction : ∀ x, st.fraction = some x → Score.stored x = some x

theorem readsBack_iff {st st' : Step} : st.ReadsBack st' ↔ st.stored = st' := by
  constructor
  · rintro ⟨hid, hq, hseq, hstate, hf, ht, hu⟩
    cases st'
    rw [StepState.readsBack_iff] at hstate
    subst hid hq hseq hf ht hu
    rw [stored, hstate]
  · rintro rfl
    exact ⟨rfl, rfl, rfl, StepState.readsBack_iff.2 rfl, rfl, rfl, rfl⟩

theorem normal_iff {st : Step} : st.Normal ↔ st.stored = st := by
  constructor
  · rintro ⟨hstate, hf⟩
    have hkept : st.fraction.bind Score.stored = st.fraction := by
      cases hx : st.fraction with
      | none => rfl
      | some x => exact hf x hx
    rw [stored, StepState.ofTag_tag_of_ne hstate, hkept]
  · intro h
    have hstate : StepState.ofTag st.state.tag = st.state := congrArg state h
    have hf : st.fraction.bind Score.stored = st.fraction := congrArg fraction h
    constructor
    · intro k hk hu
      rw [hu, StepState.tag, StepState.ofTag_tag hk] at hstate
      rw [hstate] at hk
      simp [StepState.known] at hk
    · intro x hx
      rw [hx] at hf
      exact hf

end Step

/-! ## What a sitting shows -/

namespace Rows

/-- What is shown on a question of the rows written: the steps that name it, by sequence and number
of row, each as it is read back and with the notes written on it. -/
def ShowsSteps (rows : Rows) (id : QuestionAttemptId) (shown : List NotedStep) : Prop :=
  ∃ written : List Step, written.Perm (rows.steps.filter fun st => st.questionAttemptId = id) ∧
    written.Pairwise (RankLt Step.sequence Step.id) ∧
    List.Forall₂ (fun st ns => st.ReadsBack ns.step ∧ ns.notes = rows.notesOn st.id) written shown

/-- What is shown of the rows written: the questions of the attempt's usage, by slot and number of
row, with what is shown on each. -/
structure Shows (rows : Rows) (a : Attempt) (t : Sitting) : Prop where
  attempt : t.attempt = a
  questions : (t.questions.map (·.question)).Perm
    (rows.questions.filter fun q => q.usageId = a.usageId)
  bySlot : (t.questions.map (·.question)).Pairwise (RankLt Question.slot Question.id)
  steps : ∀ p ∈ t.questions, rows.ShowsSteps p.question.id p.steps

variable {rows rows' : Rows} {a : Attempt} {t t' : Sitting} {id : QuestionAttemptId}

theorem showsSteps_iff {shown : List NotedStep} : rows.ShowsSteps id shown ↔
    ∃ written : List Step, written.Perm (rows.steps.filter fun st => st.questionAttemptId = id) ∧
      written.Pairwise (RankLt Step.sequence Step.id) ∧
      written.map (fun st => ⟨st.stored, rows.notesOn st.id⟩) = shown := by
  have hpoint : ∀ (st : Step) (ns : NotedStep),
      st.ReadsBack ns.step ∧ ns.notes = rows.notesOn st.id ↔
      (⟨st.stored, rows.notesOn st.id⟩ : NotedStep) = ns := by
    rintro st ⟨st', notes⟩
    rw [Step.readsBack_iff, NotedStep.mk.injEq, eq_comm (a := notes)]
  simp only [ShowsSteps, hpoint, ← List.forall₂_map_left_iff, List.forall₂_eq_eq_eq]

theorem ShowsSteps.unique {shown shown' : List NotedStep} (h : rows.ShowsSteps id shown)
    (h' : rows.ShowsSteps id shown') : shown = shown' := by
  obtain ⟨w, hp, hs, rfl⟩ := showsSteps_iff.1 h
  obtain ⟨w', hp', hs', rfl⟩ := showsSteps_iff.1 h'
  rw [eq_of_perm_of_pairwise_rankLt (hp.trans hp'.symm) hs hs']

/-- **No two sittings** show the same rows of one attempt. -/
theorem Shows.unique (h : rows.Shows a t) (h' : rows.Shows a t') : t = t' := by
  have hq : t.questions.map (·.question) = t'.questions.map (·.question) :=
    eq_of_perm_of_pairwise_rankLt (h.questions.trans h'.questions.symm) h.bySlot h'.bySlot
  have hsame : t.questions = t'.questions := by
    rw [← List.map_id t.questions, ← List.map_id t'.questions]
    refine map_eq_map_of_imp (fun p hp p' hp' hpp' => ?_) hq
    have hsteps := h.steps p hp
    rw [hpp'] at hsteps
    exact QuestionHistory.ext hpp' (hsteps.unique (h'.steps p' hp'))
  obtain ⟨attempt, questions⟩ := t
  obtain ⟨attempt', questions'⟩ := t'
  obtain rfl : attempt = a := h.attempt
  obtain rfl : attempt' = attempt := h'.attempt
  exact congrArg _ hsame

/-- **The order of writing** does not matter, but for the notes on one step. -/
theorem Shows.perm (h : rows.Shows a t) (hp : rows.Perm rows')
    (hn : ∀ id, rows'.notesOn id = rows.notesOn id) : rows'.Shows a t where
  attempt := h.attempt
  questions := h.questions.trans ((hp.filterMap _).filter _)
  bySlot := h.bySlot
  steps := by
    intro p hm
    obtain ⟨w, hw, hs, hr⟩ := h.steps p hm
    simp only [← hn] at hr
    exact ⟨w, hw.trans ((hp.filterMap _).filter _), hs, hr⟩

end Rows

namespace Store

variable {rows : Rows}

theorem stepsOf_shows (hd : rows.Distinct) (s : Store) (id : QuestionAttemptId) :
    rows.ShowsSteps id ((s.emptied.written rows).stepsOf id) := by
  refine Rows.showsSteps_iff.2
    ⟨(rows.steps.filter fun st => st.questionAttemptId = id).mergeSort Step.sequenceLe,
      List.mergeSort_perm _ _, pairwise_mergeSort_rankLt ?_, ?_⟩
  · exact hd.steps.sublist (List.filter_sublist.map _)
  · -- storing a step changes neither the question that it names nor its place in the order
    have hfilter : (rows.steps.map Step.stored).filter (fun st => st.questionAttemptId = id) =
        (rows.steps.filter fun st => st.questionAttemptId = id).map Step.stored := List.filter_map
    have hsort : ∀ l : List Step, (l.map Step.stored).mergeSort Step.sequenceLe =
        (l.mergeSort Step.sequenceLe).map Step.stored := by
      intro l
      rw [List.map_mergeSort]
      exact fun _ _ _ _ => rfl
    simp only [stepsOf, written, emptied, List.nil_append, hfilter, hsort, List.map_map]
    refine List.map_congr_left fun st _ => ?_
    rw [Function.comp_apply, Step.stored_stored]
    rfl

/-- **A sitting that is read back** shows the rows written. -/
theorem sitting_shows (hd : rows.Distinct) (s : Store) (a : Attempt) :
    rows.Shows a ((s.emptied.written rows).sitting a) := by
  have hq : ((s.emptied.written rows).sitting a).questions.map (·.question) =
      (rows.questions.filter fun q => q.usageId = a.usageId).mergeSort Question.slotLe := by
    simp [sitting, written, emptied, Function.comp_def]
  constructor
  · rfl
  · rw [hq]
    exact List.mergeSort_perm _ _
  · rw [hq]
    exact pairwise_mergeSort_rankLt (hd.questions.sublist (List.filter_sublist.map _))
  · intro p hp
    rw [(mem_questions_sitting.1 hp).2.2]
    exact stepsOf_shows hd s _

end Store

/-! ## Sittings in order -/

/-- The questions of a sitting belong to its attempt and its steps to their questions, no two have
one number, all are in order, and none is changed by writing and reading it. -/
structure Sitting.Orderly (t : Sitting) : Prop where
  usage : ∀ p ∈ t.questions, p.question.usageId = t.attempt.usageId
  bySlot : (t.questions.map (·.question)).Pairwise (RankLt Question.slot Question.id)
  questionIds : (t.questions.map (·.question.id)).Nodup
  placed : ∀ p ∈ t.questions, ∀ ns ∈ p.steps, ns.step.questionAttemptId = p.question.id
  bySequence : ∀ p ∈ t.questions, (p.steps.map (·.step)).Pairwise (RankLt Step.sequence Step.id)
  stepIds : ((t.questions.flatMap (·.steps)).map (·.step.id)).Nodup
  normal : ∀ p ∈ t.questions, ∀ ns ∈ p.steps, ns.step.Normal

namespace Rows

variable {rows : Rows} {a : Attempt} {t : Sitting} {p : QuestionHistory} {ns : NotedStep}

theorem Shows.exists_step (h : rows.Shows a t) (hp : p ∈ t.questions) (hns : ns ∈ p.steps) :
    ∃ st ∈ rows.steps, st.questionAttemptId = p.question.id ∧ ns.step = st.stored := by
  obtain ⟨w, hw, -, hsteps⟩ := showsSteps_iff.1 (h.steps p hp)
  rw [← hsteps] at hns
  obtain ⟨st, hst, rfl⟩ := List.mem_map.1 hns
  obtain ⟨hm, hid⟩ := List.mem_filter.1 (hw.mem_iff.1 hst)
  exact ⟨st, hm, of_decide_eq_true hid, rfl⟩

theorem Shows.questionIds (hd : rows.Distinct) (h : rows.Shows a t) :
    (t.questions.map (·.question.id)).Nodup := by
  have hperm := h.questions.map Question.id
  rw [List.map_map] at hperm
  exact hperm.nodup_iff.2 (hd.questions.sublist (List.filter_sublist.map _))

theorem Shows.stepIds (hd : rows.Distinct) (h : rows.Shows a t) :
    ((t.questions.flatMap (·.steps)).map (·.step.id)).Nodup := by
  rw [List.map_flatMap, List.nodup_flatMap]
  constructor
  · intro p hp
    obtain ⟨w, hw, -, hsteps⟩ := showsSteps_iff.1 (h.steps p hp)
    rw [← hsteps, List.map_map]
    exact (hw.map Step.id).nodup_iff.2 (hd.steps.sublist (List.filter_sublist.map _))
  · refine (List.pairwise_map.1 (h.questionIds hd)).imp_of_mem fun {p p'} hp hp' hne => ?_
    intro id hid hid'
    obtain ⟨ns, hns, rfl⟩ := List.mem_map.1 hid
    obtain ⟨ns', hns', hid'⟩ := List.mem_map.1 hid'
    obtain ⟨st, hst, hq, hstored⟩ := h.exists_step hp hns
    obtain ⟨st', hst', hq', hstored'⟩ := h.exists_step hp' hns'
    -- the two are one row, which cannot be on two questions
    rw [hstored, hstored'] at hid'
    obtain rfl : st' = st := List.inj_on_of_nodup_map hd.steps hst' hst hid'
    exact hne (hq.symm.trans hq')

theorem Shows.orderly (hd : rows.Distinct) (h : rows.Shows a t) : t.Orderly where
  usage := by
    intro p hp
    have hm := h.questions.mem_iff.1 (List.mem_map_of_mem hp)
    rw [h.attempt]
    exact of_decide_eq_true (List.mem_filter.1 hm).2
  bySlot := h.bySlot
  questionIds := h.questionIds hd
  placed := by
    intro p hp ns hns
    obtain ⟨st, -, hid, hns⟩ := h.exists_step hp hns
    rw [hns]
    exact hid
  bySequence := by
    intro p hp
    obtain ⟨w, -, hs, hsteps⟩ := showsSteps_iff.1 (h.steps p hp)
    rw [← hsteps, List.map_map]
    exact List.pairwise_map.2 hs
  stepIds := h.stepIds hd
  normal := by
    intro p hp ns hns
    obtain ⟨st, -, -, hns⟩ := h.exists_step hp hns
    simp [hns, Step.normal_iff]

end Rows

/-! ## Writing what was read -/

/-- The rows of a step and its notes. -/
def NotedStep.rows (ns : NotedStep) : Rows :=
  .step ns.step :: ns.notes.map fun n => .note ns.step.id n

/-- The rows of a question and its steps. -/
def QuestionHistory.rows (p : QuestionHistory) : Rows :=
  .question p.question :: p.steps.flatMap NotedStep.rows

/-- The rows of a sitting. -/
def Sitting.rows (t : Sitting) : Rows := t.questions.flatMap QuestionHistory.rows

namespace Sitting

variable {t : Sitting}

@[simp]
theorem questions_rows (t : Sitting) : t.rows.questions = t.questions.map (·.question) := by
  have hnone : ∀ steps : List NotedStep, steps.flatMap (fun _ => ([] : List Question)) = [] :=
    fun _ => List.flatMap_eq_nil_iff.2 fun _ _ => rfl
  simp [Rows.questions, rows, QuestionHistory.rows, NotedStep.rows, List.filterMap_flatMap,
    List.filterMap_cons, List.filterMap_map, Function.comp_def, hnone, ← List.map_eq_flatMap]

@[simp]
theorem steps_rows (t : Sitting) :
    t.rows.steps = t.questions.flatMap fun p => p.steps.map (·.step) := by
  simp [Rows.steps, rows, QuestionHistory.rows, NotedStep.rows, List.filterMap_flatMap,
    List.filterMap_cons, List.filterMap_map, Function.comp_def, ← List.map_eq_flatMap]

@[simp]
theorem notes_rows (t : Sitting) : t.rows.notes =
    (t.questions.flatMap (·.steps)).flatMap fun ns => ns.notes.map fun n => ⟨ns.step.id, n⟩ := by
  simp [Rows.notes, rows, QuestionHistory.rows, NotedStep.rows, List.filterMap_flatMap,
    List.filterMap_cons, List.filterMap_map, Function.comp_def, List.flatMap_assoc]

namespace Orderly

theorem distinct (h : t.Orderly) : t.rows.Distinct where
  questions := by
    simpa [Function.comp_def] using h.questionIds
  steps := by
    have hids := h.stepIds
    rw [List.map_flatMap] at hids
    rw [steps_rows, List.map_flatMap]
    simpa only [List.map_map, Function.comp_def] using hids

theorem notesOn_rows (h : t.Orderly) {p : QuestionHistory} (hp : p ∈ t.questions) {ns : NotedStep}
    (hns : ns ∈ p.steps) : t.rows.notesOn ns.step.id = ns.notes := by
  have hfilter : t.rows.notes.filter (fun r => r.stepId = ns.step.id) =
      ns.notes.map fun n => ⟨ns.step.id, n⟩ := by
    rw [notes_rows]
    refine filter_flatMap_of_key h.stepIds (fun m _ r hr => ?_)
      (List.mem_flatMap.2 ⟨p, hp, hns⟩)
    obtain ⟨n, -, rfl⟩ := List.mem_map.1 hr
    rfl
  rw [Rows.notesOn, hfilter, List.map_map]
  exact List.map_id _

theorem steps_on_rows (h : t.Orderly) {p : QuestionHistory} (hp : p ∈ t.questions) :
    (t.rows.steps.filter fun st => st.questionAttemptId = p.question.id) =
      p.steps.map (·.step) := by
  rw [steps_rows]
  refine filter_flatMap_of_key h.questionIds (fun q hq st hst => ?_) hp
  obtain ⟨ns, hns, rfl⟩ := List.mem_map.1 hst
  exact h.placed q hq ns hns

/-- **A sitting in order** shows its own rows. -/
theorem shows (h : t.Orderly) : t.rows.Shows t.attempt t where
  attempt := rfl
  questions := by
    have hall : ∀ q ∈ t.questions.map (·.question), q.usageId = t.attempt.usageId := by
      intro q hq
      obtain ⟨p, hp, rfl⟩ := List.mem_map.1 hq
      exact h.usage p hp
    rw [questions_rows, List.filter_eq_self.2 fun q hq => decide_eq_true (hall q hq)]
  bySlot := h.bySlot
  steps := by
    intro p hp
    refine ⟨p.steps.map (·.step), by rw [h.steps_on_rows hp], h.bySequence p hp, ?_⟩
    rw [List.forall₂_map_left_iff, List.forall₂_same]
    intro ns hns
    exact ⟨Step.readsBack_iff.2 (Step.normal_iff.1 (h.normal p hp ns hns)),
      (h.notesOn_rows hp hns).symm⟩

end Orderly

end Sitting

namespace Store

/-- **Sittings read back lose, double and reorder nothing.** Rows under different numbers are all
written, and each sitting shows just those of its attempt, in order and as they were written but for
what reading changes. The order of writing matters for the notes on one step only, and a sitting in
order is read back from its own rows. -/
theorem snapshots_faithful (s : Store) :
    (∀ rows : Rows, rows.Distinct → ∃ s', s.emptied.insertAll rows = .ok s' ∧
      (∀ a, rows.Shows a (s'.sitting a) ∧ (s'.sitting a).Orderly) ∧
      ∀ rows' : Rows, rows.Perm rows' → (∀ id, rows'.notesOn id = rows.notesOn id) →
        ∃ s'', s.emptied.insertAll rows' = .ok s'' ∧ ∀ a, s''.sitting a = s'.sitting a) ∧
    ∀ t : Sitting, t.Orderly →
      ∃ s', s.emptied.insertAll t.rows = .ok s' ∧ s'.sitting t.attempt = t := by
  refine ⟨fun rows hd => ?_, fun t ht => ?_⟩
  · have hshows := fun a => sitting_shows hd s a
    refine ⟨_, insertAll_ok (.of_distinct hd),
      fun a => ⟨hshows a, (hshows a).orderly hd⟩, fun rows' hp hn => ?_⟩
    have hd' := hd.perm hp
    exact ⟨_, insertAll_ok (.of_distinct hd'),
      fun a => (sitting_shows hd' s a).unique ((hshows a).perm hp hn)⟩
  · exact ⟨_, insertAll_ok (.of_distinct ht.distinct),
      (sitting_shows ht.distinct s t.attempt).unique ht.shows⟩

/-- Questions of two attempts with the steps on them, in no order: two of the questions share a slot
and two steps a place in the sequence, and the state of one is not known but for its tag. -/
def mixedRows : Rows :=
  [.step (Sample.step 102 12 1 .needsGrading 1700000900),
    .question (Sample.question 12 420 7 1), .question (Sample.question 21 430 7 0),
    .step { Sample.step 101 12 1 (.unknown "mangrright") 1700000800 with fraction := some (-0.0) },
    .question (Sample.question 11 420 8 1), .step (Sample.step 201 21 0 .rejected 1700000950)]

/-- Notes on two of the steps. -/
def mixedNotes : Rows :=
  [.note 101 ⟨"-comment", "see me"⟩, .note 201 ⟨"-comment", "no"⟩,
    .note 101 ⟨"-comment", "well done"⟩]

/-- The sitting of one of the attempts. -/
def readBack : Sitting where
  attempt := Sample.attempt 42 1 none
  questions :=
    [⟨Sample.question 11 420 8 1, []⟩,
      ⟨Sample.question 12 420 7 1,
        [⟨{ Sample.step 101 12 1 .accepted 1700000800 with fraction := some 0.0 },
          [⟨"-comment", "see me"⟩, ⟨"-comment", "well done"⟩]⟩,
        ⟨Sample.step 102 12 1 .needsGrading 1700000900, []⟩]⟩]

theorem shows_readBack :
    Rows.Shows (mixedRows ++ mixedNotes) (Sample.attempt 42 1 none) readBack where
  attempt := rfl
  questions := .swap _ _ _
  bySlot := by unfold RankLt; decide
  steps := by
    have hzero : some 0.0 = Score.stored (-0.0) := by decide +kernel
    have haccepted : (StepState.unknown "mangrright").ReadsBack .accepted :=
      StepState.readsBack_iff.2 rfl
    rw [readBack, List.forall_mem_cons, List.forall_mem_cons]
    refine ⟨⟨[], .nil, .nil, .nil⟩, ⟨_, .swap _ _ _, ?_, ?_⟩, fun _ h => nomatch h⟩
    · unfold RankLt
      decide
    · exact .cons ⟨⟨rfl, rfl, rfl, haccepted, hzero, rfl, rfl⟩, rfl⟩
        (.cons ⟨Step.readsBack_iff.2 rfl, rfl⟩ .nil)

theorem snapshots_faithful_mixed :
    ∃ s' s'', Sample.people.emptied.insertAll (mixedRows ++ mixedNotes) = .ok s' ∧
      Sample.people.emptied.insertAll (mixedNotes ++ mixedRows) = .ok s'' ∧
      s'.sitting (Sample.attempt 42 1 none) = readBack ∧
      s''.sitting (Sample.attempt 42 1 none) = readBack ∧
      ∃ s₁, Sample.people.emptied.insertAll readBack.rows = .ok s₁ ∧
        s₁.sitting (Sample.attempt 42 1 none) = readBack := by
  have hd : Rows.Distinct (mixedRows ++ mixedNotes) := ⟨by decide, by decide⟩
  have hnotes : ∀ id, Rows.notesOn (mixedNotes ++ mixedRows) id =
      Rows.notesOn (mixedRows ++ mixedNotes) id := fun _ => rfl
  obtain ⟨s', hs', hshown, hperm⟩ := (snapshots_faithful Sample.people).1 _ hd
  obtain ⟨s'', hs'', hsame⟩ := hperm (mixedNotes ++ mixedRows) List.perm_append_comm hnotes
  have hread : s'.sitting (Sample.attempt 42 1 none) = readBack :=
    (hshown _).1.unique shows_readBack
  obtain ⟨s₁, hs₁, hback⟩ :=
    (snapshots_faithful Sample.people).2 readBack (shows_readBack.orderly hd)
  exact ⟨s', s'', hs', hs'', hread, (hsame _).trans hread, s₁, hs₁, hback⟩

end Store

end GradeRelay
