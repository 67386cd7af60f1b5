import GradeRelay.Proofs.Attempts
import GradeRelay.Proofs.Except
import GradeRelay.Proofs.Footprint
import GradeRelay.Proofs.Queue.Change
/-!
# Tracking an attempt

An attempt is tracked by one observation of the source rows and one write, and that write fits the
review that was read.

* `observation_ok`, `observation_total`: what goes into an observation, and that there is one;
* **`track_result`**: what tracking leaves of the review.
-/

namespace GradeRelay.Store

variable {s s' : Store} {o : Occasion} {a : Attempt}

theorem observation_ok {obs : Observation} (h : s.observation o a = .ok obs) :
    obs.hasDecision = (s.sitting a).firstDecided?.isSome ∧ obs.scored = a.score.isSome ∧
      s.priorAttempt? a = .ok obs.prior := by
  obtain ⟨prior, hp, h⟩ := Except.bind_eq_ok_iff.1 h
  cases h
  exact ⟨rfl, rfl, hp⟩

theorem observation_total (s : Store) (o : Occasion) (a : Attempt) :
    ∃ obs, s.observation o a = .ok obs := by
  have hprior : ∃ prior, s.priorAttempt? a = .ok prior := by
    unfold priorAttempt?
    split
    · obtain ⟨found, hfound⟩ :=
        attemptNumbered?_total s a.assessmentId a.learnerId (a.number - 1) true
      exact ⟨found.map (·.id), by rw [hfound]; rfl⟩
    · exact ⟨none, rfl⟩
  obtain ⟨prior, hprior⟩ := hprior
  exact ⟨_, by unfold observation; rw [hprior]; rfl⟩

/-- **Tracking an attempt** replaces its review by what is called for, or changes nothing. -/
theorem track_result {t : Transition} (h : s.track o a = .ok (t, s')) :
    ∃ review obs, s.review? a.id = .ok review ∧ s.observation o a = .ok obs ∧
      t = .next review obs ∧ s'.review? a.id = .ok (Change.result ⟨a, o.now, t⟩ review) ∧
      (t = .unchanged → s' = s) := by
  obtain ⟨review, obs, hr, ho, hw⟩ := track_ok h
  rcases Transition.next_fits review obs with hn | hf
  · rw [hn] at hw
    rcases hw with ⟨hw, -⟩ | ⟨hw, rfl⟩
    · cases hw
    · cases hw
      have hsame : Change.result ⟨a, o.now, .unchanged⟩ review = review := by cases review <;> rfl
      exact ⟨review, obs, hr, ho, hn.symm, by rw [hsame, hr], fun _ => rfl⟩
  · obtain ⟨hyes, hself, -⟩ := applyTransition_of_fits o.now hr hf
    rcases hw with ⟨hw, rfl⟩ | ⟨hw, -⟩
    · rw [hw] at hself
      refine ⟨review, obs, hr, ho, rfl, hself, fun hn => ?_⟩
      rw [hn] at hf
      cases review <;> cases hf
    · rw [hw] at hyes
      cases hyes

end GradeRelay.Store
