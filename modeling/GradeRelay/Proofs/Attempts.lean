import GradeRelay.Proofs.Latest
import GradeRelay.Proofs.Lists
import GradeRelay.Store.Source
import Mathlib.Data.Prod.Lex
/-!
# Rows of attempts

An attempt is read from a row, unless its number has no meaning, and is looked up by its own number
of row or by the number of the sitting.

* `AttemptRow.read_ok`, `Store.readAttempt_ok`: what an attempt that is read has from its row;
* `AttemptRow.finishLe_iff_rank`: the order of time of finish and number of row;
* `Store.attempt?_of_mem`, `Store.attemptNumbered?_total`: look-ups that succeed;
* `Store.addAttempt_nodup`, `Store.setScore_ids`: writes leave the attempts under different numbers.
-/

namespace GradeRelay

namespace AttemptRow

theorem read_ok {r : AttemptRow} {a : Attempt} (h : r.read = .ok a) :
    a.id = r.id ∧ a.learnerId = r.learnerId ∧ a.usageId = r.usageId := by
  unfold read at h
  split at h
  · cases h
  · cases h
    exact ⟨rfl, rfl, rfl⟩

/-- How late an attempt was finished: the time of finish, and of one time the number of row. -/
def finishRank (r : AttemptRow) : Int ×ₗ Int := toLex (r.timeFinish, r.id)

theorem finishLe_iff_rank (q r : AttemptRow) :
    q.finishLe r = true ↔ q.finishRank ≤ r.finishRank := by
  rw [finishRank, finishRank, Prod.Lex.toLex_le_toLex]
  simp only [finishLe, Bool.or_eq_true, Bool.and_eq_true, decide_eq_true_eq]

end AttemptRow

namespace Store

variable {s t : Store} {a b : Attempt}

/-! ## Look-ups -/

theorem readAttempt_ok {found : Option AttemptRow} (h : readAttempt found = .ok (some a)) :
    ∃ r, found = some r ∧ r.read = .ok a := by
  cases found with
  | none => cases h
  | some r =>
    cases hr : r.read with
    | error f =>
      rw [readAttempt, hr] at h
      cases h
    | ok b =>
      rw [readAttempt, hr] at h
      cases h
      exact ⟨r, rfl, hr⟩

theorem id_of_attempt? {id : AttemptId} (h : s.attempt? id = .ok (some a)) : a.id = id := by
  obtain ⟨r, hr, hread⟩ := readAttempt_ok h
  rw [(AttemptRow.read_ok hread).1]
  exact of_decide_eq_true (List.find?_some hr :)

theorem attempt?_of_mem {row : AttemptRow} (hk : (s.attempts.map (·.id)).Nodup)
    (hrow : row ∈ s.attempts) (hread : row.read = .ok a) : s.attempt? a.id = .ok (some a) := by
  have hfind := find?_key_eq_some hk hrow
  rw [attempt?, (AttemptRow.read_ok hread).1, hfind]
  simp only [readAttempt, hread, Except.map]

/-- **A look-up by number** finds rows with that number only, so each has a meaning. -/
theorem attemptNumbered?_total (s : Store) (assessmentId : AssessmentId) (learnerId : UserId)
    (n : Ordinal) (finishedOnly : Bool) :
    ∃ found, s.attemptNumbered? assessmentId learnerId n finishedOnly = .ok found := by
  unfold attemptNumbered?
  cases hrow : latest? AttemptRow.finishLe (s.attempts.filter fun r =>
      r.assessmentId = assessmentId && r.learnerId = learnerId && r.number = n.toInt
        && (!finishedOnly || r.state = .finished)) with
  | none => exact ⟨none, rfl⟩
  | some r =>
    have hnumber : r.number = n.toInt := by
      have hr := (List.mem_filter.1 (mem_of_latest? hrow)).2
      simp only [Bool.and_eq_true, decide_eq_true_eq] at hr
      exact hr.1.2
    simp only [readAttempt, AttemptRow.read, hnumber, Ordinal.ofInt?_toInt]
    exact ⟨_, rfl⟩

/-! ## Writes -/

theorem addAttempt_nodup (hk : (s.attempts.map (·.id)).Nodup) (h : s.addAttempt b = .ok t) :
    (t.attempts.map (·.id)).Nodup := by
  unfold addAttempt at h
  split at h
  · cases h
  · next hfree =>
    cases h
    rw [Bool.not_eq_true, List.any_eq_false] at hfree
    refine nodup_map_concat_iff.2 ⟨hk, fun row hrow hid => hfree row hrow ?_⟩
    exact decide_eq_true hid

@[simp]
theorem setScore_ids (s : Store) (id : AttemptId) (score : Option Float) :
    (s.setScore id score).attempts.map (·.id) = s.attempts.map (·.id) := by
  refine map_key_map (k := AttemptRow.id) (fun row => ?_) s.attempts
  split <;> rfl

end Store

end GradeRelay
