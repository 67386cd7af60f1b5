import GradeRelay.Proofs.Attempts
import GradeRelay.Proofs.Except
import GradeRelay.Proofs.Sample
import Mathlib.Data.List.Induction
import Mathlib.Data.List.Nodup
import Mathlib.Data.List.TakeWhile
/-!
# Searches for an attempt

Attempts are written in any order, and scores are given in between. Two searches look for an attempt
of a learner at an assessment: one by its number, one for the last that was handed in. Both are
decided by the attempts of that learner at that assessment, so neither the order of writing matters
nor what others sat.

* `writeAttempts_ok`, `distinct_iff_writeAttempts`: just under different numbers of row are all
  attempts written, and all scores given;
* `AttemptWrites.Finds`: what a search finds, said by the attempts written;
* `exists_finds`, `AttemptWrites.Finds.congr`: each search finds that, and no more goes into it;
* **`attempts_found`**: so both searches find the greatest attempt that fits, as it was written but
  for its score;
* `not_foundAsWritten_negativeZero`: the score found need not be one that was written.
-/

namespace GradeRelay

/-! ## Writing attempts and scores -/

/-- A write to the attempts: one more, or a score for one of them. -/
inductive AttemptWrite where
  | add (a : Attempt)
  | rescore (id : AttemptId) (score : Option Float)

namespace AttemptWrite

/-- The attempt that a write adds. -/
def attempt? : AttemptWrite → Option Attempt
  | .add a => some a
  | .rescore _ _ => none

/-- The score that the write gives to an attempt. -/
def scoreFor? (id : AttemptId) : AttemptWrite → Option (Option Float)
  | .add _ => none
  | .rescore id' score => if id' = id then some score else none

/-- The write adds the attempt with a number. -/
def adds (id : AttemptId) : AttemptWrite → Bool
  | .add a => a.id = id
  | .rescore _ _ => false

end AttemptWrite

/-- Writes in the order in which they are made. -/
abbrev AttemptWrites := List AttemptWrite

namespace AttemptWrites

/-- The attempts added, in order, each with the score that it came with. -/
def attempts (ws : AttemptWrites) : List Attempt := ws.filterMap AttemptWrite.attempt?

/-- The scores given to an attempt once it is there. -/
def scores (ws : AttemptWrites) (id : AttemptId) : List (Option Float) :=
  (ws.dropWhile fun w => !w.adds id).filterMap (AttemptWrite.scoreFor? id)

/-- The score of an attempt in the end: the last one given to it, or else its own. -/
def endScore (ws : AttemptWrites) (a : Attempt) : Option Float :=
  (ws.scores a.id).getLast?.getD a.score

/-- No two attempts have one number. -/
def Distinct (ws : AttemptWrites) : Prop := (ws.attempts.map (·.id)).Nodup

/-- The attempt with its score in the end. -/
def scored (ws : AttemptWrites) (a : Attempt) : Attempt := { a with score := ws.endScore a }

/-- The attempts with their scores in the end. -/
def outcome (ws : AttemptWrites) : List Attempt := ws.attempts.map ws.scored

/-- The attempt as it is read back: with its score in the end, as the store keeps it. -/
def readBack (ws : AttemptWrites) (a : Attempt) : Attempt :=
  { a with score := (ws.endScore a).bind Score.stored }

variable {ws ws' : AttemptWrites} {a b : Attempt} {id : AttemptId} {score : Option Float}

@[simp]
theorem mem_attempts : a ∈ ws.attempts ↔ .add a ∈ ws := by
  rw [attempts, List.mem_filterMap]
  constructor
  · rintro ⟨w, hw, hwa⟩
    cases w with
    | add b =>
      cases hwa
      exact hw
    | rescore id score => cases hwa
  · exact fun h => ⟨_, h, rfl⟩

@[simp]
theorem attempts_append (ws ws' : AttemptWrites) :
    (ws ++ ws').attempts = ws.attempts ++ ws'.attempts := List.filterMap_append

theorem Distinct.of_append (h : (ws ++ ws').Distinct) : ws.Distinct := by
  unfold Distinct at h ⊢
  rw [attempts_append] at h
  exact (nodup_map_append_iff.1 h).1

theorem Distinct.id_notMem (h : (ws ++ [AttemptWrite.add a]).Distinct) :
    a.id ∉ ws.attempts.map (·.id) := by
  unfold Distinct at h
  rw [attempts_append] at h
  intro hmem
  obtain ⟨b, hb, hid⟩ := List.mem_map.1 hmem
  exact (nodup_map_concat_iff.1 h).2 b hb hid

theorem Distinct.eq_of_id (h : ws.Distinct) (ha : a ∈ ws.attempts) (hb : b ∈ ws.attempts)
    (hid : a.id = b.id) : a = b :=
  List.inj_on_of_nodup_map h ha hb hid

theorem scores_append (ha : a ∈ ws.attempts) (ws' : AttemptWrites) : (ws ++ ws').scores a.id =
    ws.scores a.id ++ ws'.filterMap (AttemptWrite.scoreFor? a.id) := by
  have hthere : (ws.dropWhile fun w => !w.adds a.id).isEmpty = false := by
    rw [← Bool.not_eq_true, List.isEmpty_iff, List.dropWhile_eq_nil_iff]
    intro h
    have hnot := h _ (mem_attempts.1 ha)
    simp [AttemptWrite.adds] at hnot
  rw [scores, List.dropWhile_append, hthere, if_neg Bool.false_ne_true, List.filterMap_append]
  rfl

theorem scores_append_add (ha : a.id ∉ ws.attempts.map (·.id)) :
    (ws ++ [AttemptWrite.add a]).scores a.id = [] := by
  have hnew : ∀ w ∈ ws, (!w.adds a.id) = true := by
    intro w hw
    cases w with
    | add b =>
      have hne : b.id ≠ a.id := fun hid => ha (hid ▸ List.mem_map_of_mem (mem_attempts.2 hw))
      simpa [AttemptWrite.adds] using hne
    | rescore id score => rfl
  rw [scores, List.dropWhile_append_of_pos hnew]
  simp [AttemptWrite.adds, AttemptWrite.scoreFor?]

theorem outcome_append_add (h : (ws ++ [AttemptWrite.add a]).Distinct) :
    (ws ++ [AttemptWrite.add a]).outcome = ws.outcome ++ [a] := by
  have hold : ∀ b ∈ ws.attempts, (ws ++ [AttemptWrite.add a]).scored b = ws.scored b := by
    intro b hb
    simp [scored, endScore, scores_append hb, AttemptWrite.scoreFor?]
  have hnew : (ws ++ [AttemptWrite.add a]).scored a = a := by
    rw [scored, endScore, scores_append_add h.id_notMem]
    rfl
  rw [outcome, attempts_append, List.map_append, List.map_congr_left hold]
  exact congrArg (ws.outcome ++ [·]) hnew

theorem outcome_append_rescore : (ws ++ [AttemptWrite.rescore id score]).outcome =
    ws.outcome.map fun b => if b.id = id then { b with score } else b := by
  rw [outcome, attempts_append, outcome, List.map_map]
  refine (congrArg (List.map _) (List.append_nil _)).trans (List.map_congr_left fun b hb => ?_)
  unfold scored endScore
  rw [scores_append hb]
  by_cases hid : b.id = id
  · simp [AttemptWrite.scoreFor?, hid]
  · simp [AttemptWrite.scoreFor?, hid, Ne.symm hid]

end AttemptWrites

namespace Store

variable {s : Store} {ws : AttemptWrites}

/-- The store without any attempt. -/
def withoutAttempts (s : Store) : Store := { s with attempts := [] }

/-- Makes one write. -/
def writeAttempt (s : Store) : AttemptWrite → Except StoreFault Store
  | .add a => s.addAttempt a
  | .rescore id score => .ok (s.setScore id score)

/-- Makes writes one after the other. -/
def writeAttempts (s : Store) (ws : AttemptWrites) : Except StoreFault Store :=
  ws.foldlM writeAttempt s

theorem writeAttempts_append_singleton {s' : Store} {w : AttemptWrite}
    (h : s.writeAttempts ws = .ok s') : s.writeAttempts (ws ++ [w]) = s'.writeAttempt w := by
  have hone : s'.writeAttempts [w] = s'.writeAttempt w := bind_pure (s'.writeAttempt w)
  rw [writeAttempts, List.foldlM_append, ← writeAttempts, h, ← hone]
  rfl

/-- **Attempts under different numbers** are all written, each with its score in the end. -/
theorem writeAttempts_ok (s : Store) (hd : ws.Distinct) :
    ∃ s', s.withoutAttempts.writeAttempts ws = .ok s' ∧
      s'.attempts = ws.outcome.map AttemptRow.ofAttempt := by
  induction ws using List.reverseRecOn with
  | nil => exact ⟨_, rfl, rfl⟩
  | append_singleton ws w ih =>
    obtain ⟨s', hs', hrows⟩ := ih (AttemptWrites.Distinct.of_append hd)
    rw [writeAttempts_append_singleton hs']
    cases w with
    | add a =>
      have hfree : s'.attempts.any (fun r => r.id = a.id) = false := by
        rw [hrows, AttemptWrites.outcome, List.map_map, List.any_map, List.any_eq_false]
        exact fun b hb hid => AttemptWrites.Distinct.id_notMem hd
          (List.mem_map.2 ⟨b, hb, of_decide_eq_true hid⟩)
      refine ⟨_, by rw [writeAttempt, addAttempt, hfree]; rfl, ?_⟩
      rw [AttemptWrites.outcome_append_add hd, List.map_append, ← hrows]
      rfl
    | rescore id score =>
      refine ⟨_, rfl, ?_⟩
      rw [AttemptWrites.outcome_append_rescore, setScore, hrows, List.map_map, List.map_map]
      refine List.map_congr_left fun b _ => ?_
      rw [Function.comp_apply, Function.comp_apply, apply_ite AttemptRow.ofAttempt]
      rfl

theorem writeAttempt_ids {t : Store} {w : AttemptWrite} (h : s.writeAttempt w = .ok t) :
    t.attempts.map (·.id) =
      s.attempts.map (·.id) ++ (AttemptWrites.attempts [w]).map (·.id) := by
  cases w with
  | add a =>
    rw [writeAttempt, addAttempt] at h
    split at h
    · cases h
    · cases h
      exact List.map_append
  | rescore id score =>
    cases h
    simp [AttemptWrites.attempts, AttemptWrite.attempt?]

theorem writeAttempt_nodup {t : Store} {w : AttemptWrite} (h : s.writeAttempt w = .ok t)
    (hk : (s.attempts.map (·.id)).Nodup) : (t.attempts.map (·.id)).Nodup := by
  cases w with
  | add a => exact addAttempt_nodup hk h
  | rescore id score =>
    cases h
    simpa using hk

theorem writeAttempts_ids {t : Store} (h : s.writeAttempts ws = .ok t) :
    t.attempts.map (·.id) = s.attempts.map (·.id) ++ ws.attempts.map (·.id) ∧
      ((s.attempts.map (·.id)).Nodup → (t.attempts.map (·.id)).Nodup) := by
  induction ws generalizing s with
  | nil =>
    cases h
    exact ⟨(List.append_nil _).symm, id⟩
  | cons w ws ih =>
    rw [writeAttempts, List.foldlM_cons] at h
    obtain ⟨s', hw, hrest⟩ := Except.bind_eq_ok_iff.1 h
    obtain ⟨hids, hnodup⟩ := ih hrest
    refine ⟨?_, fun hk => hnodup (writeAttempt_nodup hw hk)⟩
    rw [hids, writeAttempt_ids hw, List.append_assoc, ← List.map_append,
      ← AttemptWrites.attempts_append]
    rfl

/-- **All is written just if the numbers are different.** -/
theorem distinct_iff_writeAttempts (s : Store) :
    ws.Distinct ↔ ∃ s', s.withoutAttempts.writeAttempts ws = .ok s' := by
  refine ⟨fun hd => (writeAttempts_ok s hd).imp fun _ h => h.1, fun ⟨s', h⟩ => ?_⟩
  obtain ⟨hids, hnodup⟩ := writeAttempts_ids h
  have hn := hnodup List.nodup_nil
  rwa [hids] at hn

theorem attempts_of_writeAttempts {s' : Store} (h : s.withoutAttempts.writeAttempts ws = .ok s') :
    ws.Distinct ∧ s'.attempts = ws.outcome.map AttemptRow.ofAttempt := by
  have hd := (distinct_iff_writeAttempts s).2 ⟨s', h⟩
  obtain ⟨s'', h'', hrows⟩ := writeAttempts_ok s hd
  obtain rfl : s' = s'' := Except.ok.inj (h.symm.trans h'')
  exact ⟨hd, hrows⟩

end Store

/-! ## What a search finds -/

theorem Ordinal.toInt_inj {n m : Ordinal} : n.toInt = m.toInt ↔ n = m := by
  refine ⟨fun h => ?_, congrArg _⟩
  rw [← Option.some.injEq, ← ofInt?_toInt, h, ofInt?_toInt]

namespace Attempt

/-- How late an attempt was finished: the time of finish, and of one time the number of row. -/
def finishRank (a : Attempt) : Int ×ₗ Int := toLex (a.timeFinish, a.id)

/-- How late in the order of sittings an attempt is: its number, and of one number how late it was
finished. -/
def sittingRank (a : Attempt) : Int ×ₗ Int ×ₗ Int := toLex (a.number.toInt, a.finishRank)

/-- The attempt is that of the learner at the assessment. -/
structure IsOf (a : Attempt) (assessmentId : AssessmentId) (learnerId : UserId) : Prop where
  assessment : a.assessmentId = assessmentId
  learner : a.learnerId = learnerId

/-- It bears the number, and is finished if it has to be. -/
structure IsNumbered (a : Attempt) (assessmentId : AssessmentId) (learnerId : UserId)
    (number : Ordinal) (finishedOnly : Bool) : Prop extends a.IsOf assessmentId learnerId where
  number : a.number = number
  finished : finishedOnly = true → a.state = .finished

/-- It is finished, and no preview. -/
structure IsHandedIn (a : Attempt) (assessmentId : AssessmentId) (learnerId : UserId) : Prop
    extends a.IsOf assessmentId learnerId where
  finished : a.state = .finished
  real : a.preview = false

variable {a b : Attempt}

theorem id_of_finishRank (h : a.finishRank = b.finishRank) : a.id = b.id :=
  congrArg (fun rank => (ofLex rank).2) h

theorem id_of_sittingRank (h : a.sittingRank = b.sittingRank) : a.id = b.id :=
  id_of_finishRank (congrArg (fun rank => (ofLex rank).2) h)

end Attempt

theorem AttemptRow.numberLe_iff_rank (a b : Attempt) :
    (AttemptRow.ofAttempt a).numberLe (.ofAttempt b) = true ↔ a.sittingRank ≤ b.sittingRank := by
  rw [Attempt.sittingRank, Attempt.sittingRank, Prod.Lex.toLex_le_toLex]
  simp only [numberLe, Bool.or_eq_true, Bool.and_eq_true, decide_eq_true_eq]
  exact or_congr_right (and_congr_right fun _ => finishLe_iff_rank _ _)

/-- What a search by rank for the attempts with a property finds, as it is read back. -/
structure AttemptWrites.Finds {β : Type} [LinearOrder β] (ws : AttemptWrites) (P : Attempt → Prop)
    (rank : Attempt → β) (found : Option Attempt) : Prop where
  none_iff : found = none ↔ ∀ a ∈ ws.attempts, ¬ P a
  some_iff : ∀ b, found = some b ↔ ∃ a, Greatest rank P ws.attempts a ∧ b = ws.readBack a

/-- **What a search finds is decided** by the attempts that fit and their scores in the end. -/
theorem AttemptWrites.Finds.congr {β : Type} [LinearOrder β] {P : Attempt → Prop}
    {rank : Attempt → β} {ws ws' : AttemptWrites} {found found' : Option Attempt}
    (h : ws.Finds P rank found) (h' : ws'.Finds P rank found')
    (hmem : ∀ a, P a → (a ∈ ws'.attempts ↔ a ∈ ws.attempts))
    (hscore : ∀ a ∈ ws.attempts, P a → ws'.endScore a = ws.endScore a) : found' = found := by
  have hread : ∀ a, Greatest rank P ws.attempts a → ws'.readBack a = ws.readBack a := by
    intro a ha
    rw [readBack, readBack, hscore a ha.mem ha.holds]
  refine Option.ext fun b => ?_
  rw [h.some_iff, h'.some_iff]
  constructor
  · rintro ⟨a, ha, rfl⟩
    have ha := ha.congr fun b hb => (hmem b hb).symm
    exact ⟨a, ha, hread a ha⟩
  · rintro ⟨a, ha, rfl⟩
    exact ⟨a, ha.congr hmem, (hread a ha).symm⟩

namespace Store

variable {s : Store} {ws ws' : AttemptWrites}

section Search

variable {β : Type} [LinearOrder β] {P : Attempt → Prop} {rank : Attempt → β}
  {le : AttemptRow → AttemptRow → Bool} {p : AttemptRow → Bool} {found found' : Option Attempt}

/-- **A search finds the greatest** of the attempts written that fit. -/
theorem exists_finds (hd : ws.Distinct) (hrows : s.attempts = ws.outcome.map AttemptRow.ofAttempt)
    (hp : ∀ a, p (.ofAttempt (ws.scored a)) = true ↔ P a)
    (hle : ∀ a b, le (.ofAttempt (ws.scored a)) (.ofAttempt (ws.scored b)) = true ↔
      rank a ≤ rank b)
    (hid : ∀ a b, rank a = rank b → a.id = b.id) :
    ∃ found, readAttempt (latest? le (s.attempts.filter p)) = .ok found ∧
      ws.Finds P rank found := by
  have hread : ∀ o : Option Attempt, readAttempt (o.map fun a => .ofAttempt (ws.scored a)) =
      .ok (o.map ws.readBack) := by
    intro o
    cases o with
    | none => rfl
    | some a =>
      rw [Option.map_some, readAttempt, AttemptRow.read_ofAttempt]
      rfl
  have hfits : (fun a => (p ∘ fun a => .ofAttempt (ws.scored a)) a = true) = P :=
    funext fun a => propext (hp a)
  have hbest : ∀ a, latest? (fun a b => le (.ofAttempt (ws.scored a)) (.ofAttempt (ws.scored b)))
      (ws.attempts.filter (p ∘ fun a => .ofAttempt (ws.scored a))) = some a ↔
        Greatest rank P ws.attempts a := by
    intro a
    rw [← hfits]
    exact latest?_filter_eq_some_iff hle fun a ha b hb h => hd.eq_of_id ha hb (hid a b h)
  rw [hrows, AttemptWrites.outcome, List.map_map, List.filter_map, latest?_map]
  refine ⟨_, hread _, ?_, fun b => ?_⟩
  · rw [Option.map_eq_none_iff, latest?_eq_none_iff, List.filter_eq_nil_iff]
    exact forall₂_congr fun a _ => not_congr (hp a)
  · rw [Option.map_eq_some_iff]
    exact exists_congr fun a => and_congr (hbest a) eq_comm

end Search

theorem attemptNumbered?_finds (hd : ws.Distinct)
    (hrows : s.attempts = ws.outcome.map AttemptRow.ofAttempt) (assessmentId : AssessmentId)
    (learnerId : UserId) (number : Ordinal) (finishedOnly : Bool) :
    ∃ found, s.attemptNumbered? assessmentId learnerId number finishedOnly = .ok found ∧
      ws.Finds (·.IsNumbered assessmentId learnerId number finishedOnly) Attempt.finishRank
        found := by
  refine exists_finds hd hrows (fun a => ?_)
    (fun a b => AttemptRow.finishLe_iff_rank (.ofAttempt (ws.scored a)) (.ofAttempt (ws.scored b)))
    fun _ _ => Attempt.id_of_finishRank
  simp only [Bool.and_eq_true, Bool.or_eq_true, Bool.not_eq_true', decide_eq_true_eq]
  constructor
  · rintro ⟨⟨⟨hassessment, hlearner⟩, hnumber⟩, hstate⟩
    refine ⟨⟨hassessment, hlearner⟩, Ordinal.toInt_inj.1 hnumber, fun h => ?_⟩
    exact hstate.resolve_left (Bool.not_eq_false _ ▸ h)
  · rintro ⟨⟨hassessment, hlearner⟩, hnumber, hstate⟩
    refine ⟨⟨⟨hassessment, hlearner⟩, Ordinal.toInt_inj.2 hnumber⟩, ?_⟩
    exact (Bool.eq_false_or_eq_true finishedOnly).symm.imp_right hstate

theorem latestFinished?_finds (hd : ws.Distinct)
    (hrows : s.attempts = ws.outcome.map AttemptRow.ofAttempt) (assessmentId : AssessmentId)
    (learnerId : UserId) :
    ∃ found, s.latestFinished? assessmentId learnerId = .ok found ∧
      ws.Finds (·.IsHandedIn assessmentId learnerId) Attempt.sittingRank found := by
  refine exists_finds hd hrows (fun a => ?_)
    (fun a b => AttemptRow.numberLe_iff_rank (ws.scored a) (ws.scored b))
    fun _ _ => Attempt.id_of_sittingRank
  simp only [Bool.and_eq_true, Bool.not_eq_true', decide_eq_true_eq]
  constructor
  · rintro ⟨⟨⟨hassessment, hlearner⟩, hstate⟩, hpreview⟩
    exact ⟨⟨hassessment, hlearner⟩, hstate, hpreview⟩
  · rintro ⟨⟨hassessment, hlearner⟩, hstate, hpreview⟩
    exact ⟨⟨⟨hassessment, hlearner⟩, hstate⟩, hpreview⟩

/-! ## What does not go into a search -/

/-- The searches for the attempts of a learner at an assessment find the same in both stores. -/
structure SameSearches (s s' : Store) (assessmentId : AssessmentId) (learnerId : UserId) :
    Prop where
  numbered : ∀ number finishedOnly,
    s'.attemptNumbered? assessmentId learnerId number finishedOnly =
      s.attemptNumbered? assessmentId learnerId number finishedOnly
  latest : s'.latestFinished? assessmentId learnerId = s.latestFinished? assessmentId learnerId

theorem sameSearches {s' : Store} {assessmentId : AssessmentId} {learnerId : UserId}
    (hd : ws.Distinct) (hrows : s.attempts = ws.outcome.map AttemptRow.ofAttempt)
    (hd' : ws'.Distinct) (hrows' : s'.attempts = ws'.outcome.map AttemptRow.ofAttempt)
    (hmem : ∀ a, a.IsOf assessmentId learnerId → (a ∈ ws'.attempts ↔ a ∈ ws.attempts))
    (hscore : ∀ a ∈ ws.attempts, a.IsOf assessmentId learnerId →
      ws'.endScore a = ws.endScore a) :
    s.SameSearches s' assessmentId learnerId := by
  constructor
  · intro number finishedOnly
    obtain ⟨found, hs, h⟩ :=
      attemptNumbered?_finds hd hrows assessmentId learnerId number finishedOnly
    obtain ⟨found', hs', h'⟩ :=
      attemptNumbered?_finds hd' hrows' assessmentId learnerId number finishedOnly
    rw [hs, hs', h.congr h' (fun a ha => hmem a ha.toIsOf) fun a ha hP => hscore a ha hP.toIsOf]
  · obtain ⟨found, hs, h⟩ := latestFinished?_finds hd hrows assessmentId learnerId
    obtain ⟨found', hs', h'⟩ := latestFinished?_finds hd' hrows' assessmentId learnerId
    rw [hs, hs', h.congr h' (fun a ha => hmem a ha.toIsOf) fun a ha hP => hscore a ha hP.toIsOf]

/-- **Searches for an attempt.** Attempts and scores are written in any order, and all is written
just if the attempts have different numbers of row. Each search then finds nothing just if no
attempt written fits, and else the one that fits with the greatest rank, as it was written but for
its score: that is the last one given to it once it was there, or its own, as the store keeps it.
Another order of writing makes no difference as long as each attempt has the same score in the end,
nor does what is written about other learners and assessments. -/
theorem attempts_found (s : Store) (ws : AttemptWrites) :
    (ws.Distinct ↔ ∃ s', s.withoutAttempts.writeAttempts ws = .ok s') ∧
      ∀ s', s.withoutAttempts.writeAttempts ws = .ok s' →
        (∀ assessmentId learnerId number finishedOnly, ∃ found,
          s'.attemptNumbered? assessmentId learnerId number finishedOnly = .ok found ∧
          ws.Finds (·.IsNumbered assessmentId learnerId number finishedOnly) Attempt.finishRank
            found) ∧
        (∀ assessmentId learnerId, ∃ found,
          s'.latestFinished? assessmentId learnerId = .ok found ∧
          ws.Finds (·.IsHandedIn assessmentId learnerId) Attempt.sittingRank found) ∧
        (∀ ws' : AttemptWrites, ws'.attempts.Perm ws.attempts →
          (∀ a ∈ ws.attempts, ws'.endScore a = ws.endScore a) →
          ∃ s'', s.withoutAttempts.writeAttempts ws' = .ok s'' ∧
            ∀ assessmentId learnerId, s'.SameSearches s'' assessmentId learnerId) ∧
        ∀ ws' s'', s.withoutAttempts.writeAttempts ws' = .ok s'' → ∀ assessmentId learnerId,
          (∀ a, a.IsOf assessmentId learnerId → (a ∈ ws'.attempts ↔ a ∈ ws.attempts)) →
          (∀ a ∈ ws.attempts, a.IsOf assessmentId learnerId → ws'.endScore a = ws.endScore a) →
          s'.SameSearches s'' assessmentId learnerId := by
  refine ⟨distinct_iff_writeAttempts s, fun s' hs' => ?_⟩
  obtain ⟨hd, hrows⟩ := attempts_of_writeAttempts hs'
  refine ⟨attemptNumbered?_finds hd hrows, latestFinished?_finds hd hrows,
    fun ws' hperm hscore => ?_, fun ws' s'' hs'' assessmentId learnerId hmem hscore => ?_⟩
  · have hd' : ws'.Distinct := (hperm.map _).nodup_iff.2 hd
    obtain ⟨s'', hs'', hrows'⟩ := writeAttempts_ok s hd'
    exact ⟨s'', hs'', fun assessmentId learnerId => sameSearches hd hrows hd' hrows'
      (fun a _ => hperm.mem_iff) fun a ha _ => hscore a ha⟩
  · obtain ⟨hd', hrows'⟩ := attempts_of_writeAttempts hs''
    exact sameSearches hd hrows hd' hrows' hmem hscore

/-- The second sitting of the learner, finished in the same second as another under that number. -/
def secondSitting : Attempt := { Sample.attempt 43 2 none with timeFinish := 1700000600 }

/-- The attempts of a course in no order: two under one number, one that is a preview, one not
handed in yet, one of another learner. A score comes too early and one in time. -/
def sittings : AttemptWrites :=
  [.rescore 43 (some 1), .add { Sample.attempt 45 4 none with preview := true }, .add secondSitting,
    .add { Sample.attempt 42 2 (some 4) with timeFinish := 1700000600 },
    .add { Sample.attempt 44 3 none with state := .inProgress }, .add (Sample.attempt 41 1 none),
    .add { Sample.attempt 46 9 none with learnerId := 4 }, .rescore 43 (some 7)]

/-- The same attempts the other way round, all of them there before a score is given. -/
def sittingsReversed : AttemptWrites :=
  sittings.attempts.reverse.map AttemptWrite.add ++ [.rescore 43 (some 7)]

theorem distinct_sittings : sittings.Distinct := by
  unfold AttemptWrites.Distinct
  decide

theorem greatest_secondSitting :
    Greatest Attempt.sittingRank (·.IsHandedIn 5 3) sittings.attempts secondSitting where
  mem := .tail _ (.head _)
  holds := ⟨⟨rfl, rfl⟩, rfl, rfl⟩
  above := by
    have hlower : ∀ b ∈ sittings.attempts, b.learnerId = 3 → b.state = .finished →
        b.preview = false → b.id ≠ 43 → b.sittingRank < secondSitting.sittingRank := by decide
    intro b hb hP hne
    refine hlower b hb hP.learner hP.finished hP.real fun hid => hne ?_
    exact distinct_sittings.eq_of_id hb (.tail _ (.head _)) hid

/-- The sitting that counts is the second with the greater number of row, with the score that came
in time; no third one is finished, and the order of writing makes no difference. -/
theorem attempts_found_sittings :
    ∃ s', Sample.people.withoutAttempts.writeAttempts sittings = .ok s' ∧
      s'.latestFinished? 5 3 = .ok (some { secondSitting with score := some 7 }) ∧
      s'.attemptNumbered? 5 3 3 true = .ok none ∧
      ∃ s'', Sample.people.withoutAttempts.writeAttempts sittingsReversed = .ok s'' ∧
        s'.SameSearches s'' 5 3 := by
  obtain ⟨hwritten, hfind⟩ := attempts_found Sample.people sittings
  obtain ⟨s', hs'⟩ := hwritten.1 distinct_sittings
  obtain ⟨hnumbered, hlatest, horder, -⟩ := hfind s' hs'
  refine ⟨s', hs', ?_, ?_, ?_⟩
  · obtain ⟨found, hfound, hfinds⟩ := hlatest 5 3
    have hscore : (sittings.endScore secondSitting).bind Score.stored = some 7 := by decide +kernel
    rw [hfound, (hfinds.some_iff _).2 ⟨_, greatest_secondSitting, rfl⟩, AttemptWrites.readBack,
      hscore]
  · obtain ⟨found, hfound, hfinds⟩ := hnumbered 5 3 3 true
    have hopen : ∀ a ∈ sittings.attempts, a.number = 3 → a.state ≠ .finished := by decide
    rw [hfound, hfinds.none_iff.2 fun a ha hP => hopen a ha hP.number (hP.finished rfl)]
  · have hscores : ∀ a ∈ sittings.attempts, sittingsReversed.endScore a = sittings.endScore a := by
      decide +kernel
    have hperm : sittingsReversed.attempts.Perm sittings.attempts :=
      List.reverse_perm sittings.attempts
    obtain ⟨s'', hs'', hsame⟩ := horder sittingsReversed hperm hscores
    exact ⟨s'', hs'', hsame 5 3⟩

/-- What a search finds is an attempt as it was written, but for a score given later. -/
def FoundAsWritten (ws : AttemptWrites) : Prop :=
  ∀ s', ({} : Store).writeAttempts ws = .ok s' → ∀ assessmentId learnerId number finishedOnly b,
    s'.attemptNumbered? assessmentId learnerId number finishedOnly = .ok (some b) →
      ∃ a ∈ ws.attempts, b = ws.scored a

/-- A score that is not a number is found as none, and a negative zero without its sign. -/
theorem not_foundAsWritten_negativeZero :
    ¬ FoundAsWritten [.add (Sample.attempt 42 1 (some (Float.ofBits 0x7ff8000000000000)))] ∧
      ¬ FoundAsWritten [.add (Sample.attempt 42 1 (some (-0.0)))] := by
  refine ⟨fun h => ?_, fun h => ?_⟩
  · obtain ⟨a, ha, hb⟩ := h _ rfl 5 3 1 false _ rfl
    obtain rfl := List.mem_singleton.1 ha
    exact absurd (congrArg Attempt.score hb) (by decide +kernel)
  · obtain ⟨a, ha, hb⟩ := h _ rfl 5 3 1 false _ rfl
    obtain rfl := List.mem_singleton.1 ha
    exact absurd (congrArg Attempt.score hb) (by decide +kernel)

end Store

end GradeRelay
