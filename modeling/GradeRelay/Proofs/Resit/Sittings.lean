import GradeRelay.Proofs.Latest
import GradeRelay.Store.Sitting
/-!
# What a stored sitting holds

* `Step.stored_stored`: what the store gives back is given back again as it is;
* `Store.mem_stepsOf`, `Store.mem_questions_sitting`: a sitting holds just the rows of its attempt;
* `Store.reached_accepted_iff`: a question is accepted in a sitting exactly when the store has an
  accepted step on it.
-/

namespace GradeRelay

theorem NotedStep.sequenceLe_iff {a b : NotedStep} :
    sequenceLe a b = true ↔ a.step.sequence ≤ b.step.sequence := by
  rw [sequenceLe, decide_eq_true_eq]

theorem NotedStep.sequenceLe_total (a b : NotedStep) :
    sequenceLe a b = true ∨ sequenceLe b a = true := by
  rw [sequenceLe_iff, sequenceLe_iff]
  exact UInt32.le_total _ _

theorem NotedStep.sequenceLe_trans (a b c : NotedStep) (hab : sequenceLe a b = true)
    (hbc : sequenceLe b c = true) : sequenceLe a c = true := by
  rw [sequenceLe_iff] at hab hbc ⊢
  exact UInt32.le_trans hab hbc

theorem QuestionHistory.sequence_le_lastStep? {q : QuestionHistory} {m ns : NotedStep}
    (h : q.lastStep? = some m) (hm : ns ∈ q.steps) : ns.step.sequence ≤ m.step.sequence :=
  NotedStep.sequenceLe_iff.1 (le_latest? NotedStep.sequenceLe_total NotedStep.sequenceLe_trans h hm)

theorem QuestionHistory.lastStep?_eq_some {q : QuestionHistory} {ns : NotedStep}
    (hm : ns ∈ q.steps)
    (h : ∀ other ∈ q.steps, other ≠ ns → other.step.sequence < ns.step.sequence) :
    q.lastStep? = some ns := by
  cases hl : q.lastStep? with
  | none =>
    rw [lastStep?, latest?_eq_none_iff] at hl
    rw [hl] at hm
    cases hm
  | some m =>
    have hle := sequence_le_lastStep? hl hm
    by_cases hmn : m = ns
    · rw [hmn]
    · have hlt := h m (mem_of_latest? hl) hmn
      rw [UInt32.lt_iff_toNat_lt] at hlt
      rw [UInt32.le_iff_toNat_le] at hle
      omega

/-! ## Steps as the store gives them back -/

theorem StepState.ofTag_eq_accepted_iff {t : String} :
    ofTag t = .accepted ↔ t = StepState.accepted.tag := by
  constructor
  · intro h
    rw [← tag_ofTag t, h]
  · rintro rfl
    rfl

theorem Score.stored_stored {x y : Float} (h : stored x = some y) : stored y = some y := by
  have hzero : stored 0.0 = some 0.0 := by decide +kernel
  unfold stored at h
  split at h
  · cases h
  · next hn =>
    by_cases hx : (x == 0.0) = true
    · rw [if_pos hx] at h
      obtain rfl := Option.some.inj h
      exact hzero
    · rw [if_neg hx] at h
      obtain rfl := Option.some.inj h
      rw [stored, if_neg hn, if_neg hx]

/-- **A step given back** by the store is given back again as it is. -/
@[simp]
theorem Step.stored_stored (st : Step) : st.stored.stored = st.stored := by
  have hf : (st.fraction.bind Score.stored).bind Score.stored = st.fraction.bind Score.stored := by
    cases hst : st.fraction.bind Score.stored with
    | none => rfl
    | some y =>
      obtain ⟨x, -, hx⟩ := Option.bind_eq_some_iff.1 hst
      exact Score.stored_stored hx
  unfold stored
  dsimp only
  rw [StepState.tag_ofTag, hf]

theorem Step.stored_state_eq_accepted_iff {st : Step} :
    st.stored.state = .accepted ↔ st.state.tag = StepState.accepted.tag :=
  StepState.ofTag_eq_accepted_iff

namespace Store

variable {s : Store} {a : Attempt} {id : QuestionAttemptId}

@[simp]
theorem mem_stepsOf {ns : NotedStep} : ns ∈ s.stepsOf id ↔
    ∃ st ∈ s.steps, st.questionAttemptId = id ∧ ns = ⟨st.stored, s.notesOf st.id⟩ := by
  simp only [stepsOf, List.mem_map, List.mem_mergeSort, List.mem_filter, decide_eq_true_eq]
  constructor
  · rintro ⟨st, ⟨hm, hid⟩, rfl⟩
    exact ⟨st, hm, hid, rfl⟩
  · rintro ⟨st, hm, hid, rfl⟩
    exact ⟨st, ⟨hm, hid⟩, rfl⟩

@[simp]
theorem mem_questions_sitting {p : QuestionHistory} : p ∈ (s.sitting a).questions ↔
    p.question ∈ s.questions ∧ p.question.usageId = a.usageId ∧
      p.steps = s.stepsOf p.question.id := by
  simp only [sitting, List.mem_map, List.mem_mergeSort, List.mem_filter, decide_eq_true_eq]
  constructor
  · rintro ⟨q, ⟨hm, hu⟩, rfl⟩
    exact ⟨hm, hu, rfl⟩
  · rintro ⟨hm, hu, hs⟩
    refine ⟨p.question, ⟨hm, hu⟩, ?_⟩
    rw [← hs]

theorem hasStepIn_accepted_iff : s.hasStepIn id .accepted = true ↔
    ∃ st ∈ s.steps, st.questionAttemptId = id ∧ st.state.tag = StepState.accepted.tag := by
  simp [hasStepIn]

theorem hasStepIn_accepted_iff_stepsOf : s.hasStepIn id .accepted = true ↔
    ∃ ns ∈ s.stepsOf id, ns.step.state = .accepted := by
  rw [hasStepIn_accepted_iff]
  constructor
  · rintro ⟨st, hst, hid, htag⟩
    exact ⟨_, mem_stepsOf.2 ⟨st, hst, hid, rfl⟩, Step.stored_state_eq_accepted_iff.2 htag⟩
  · rintro ⟨ns, hns, hstate⟩
    obtain ⟨st, hst, hid, rfl⟩ := mem_stepsOf.1 hns
    exact ⟨st, hst, hid, Step.stored_state_eq_accepted_iff.1 hstate⟩

theorem reached_accepted_iff {p : QuestionHistory} (hp : p ∈ (s.sitting a).questions) :
    p.reached .accepted = true ↔ s.hasStepIn p.question.id .accepted = true := by
  obtain ⟨-, -, hs⟩ := mem_questions_sitting.1 hp
  rw [hasStepIn_accepted_iff_stepsOf, QuestionHistory.reached, List.any_eq_true, hs]
  exact exists_congr fun ns => and_congr_right fun _ => decide_eq_true_iff

theorem of_history? {questionId : Int} {p : QuestionHistory}
    (h : (s.sitting a).history? questionId = some p) :
    p ∈ (s.sitting a).questions ∧ p.question.questionId = questionId := by
  have hq := List.find?_some h
  exact ⟨List.mem_of_find?_eq_some h, of_decide_eq_true hq⟩

end Store

end GradeRelay
