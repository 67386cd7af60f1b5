import GradeRelay.Proofs.Except
import GradeRelay.Sync.Admission
/-!
# What is gathered for an event

The look-ups behind an event are made one after the other, and the first that fails ends them. So
they succeed exactly when every row is found under the number that the one before names.

* `targetAttempt_eq_ok_iff`: which attempt an event reports;
* **`gather_eq_ok_iff`**: which rows a gathered dossier is made of;
* `gather_learner`: its learner is the event's subject.
-/

namespace GradeRelay

@[simp]
theorem Halt.require_eq_ok_iff {α : Type} {entity : Entity} {id : Int} {x : Option α} {a : α} :
    Halt.require entity id x = .ok a ↔ x = some a := by
  cases x <;> simp [Halt.require]

@[simp]
theorem Halt.ofStore_eq_ok_iff {α : Type} {x : Except StoreFault α} {a : α} :
    Halt.ofStore x = .ok a ↔ x = .ok a := by
  cases x <;> simp [Halt.ofStore]

@[simp]
theorem Event.checkOwner_eq_ok_iff {e : Event} {owner : UserId} {u : Unit} :
    e.checkOwner owner = .ok u ↔ e.subject = owner := by
  by_cases h : e.subject = owner <;> simp [checkOwner, h]

namespace Store

variable {s : Store} {e : Event} {a : Attempt} {d : Dossier}

theorem user?_id {id : UserId} {u : User} (h : s.user? id = some u) : u.id = id := by
  simpa using List.find?_some h

/-- The attempt that an event reports: the one that it names, or for a completion of the event's
subject the latest finished attempt that the completion is about. -/
def Reports (s : Store) (e : Event) (a : Attempt) : Prop :=
  match e.target with
  | .attempt id => s.attempt? id = .ok (some a)
  | .completion id => ∃ c, s.completion? id = some c ∧ c.learnerId = e.subject ∧
      s.latestFinished? c.assessmentId c.learnerId = .ok (some a)

theorem targetAttempt_eq_ok_iff : s.targetAttempt e = .ok a ↔ s.Reports e a := by
  unfold targetAttempt Reports
  cases e.target with
  | attempt id =>
    simp only [Except.bind_eq_ok_iff, Halt.ofStore_eq_ok_iff, Halt.require_eq_ok_iff]
    constructor
    · rintro ⟨_, h, rfl⟩
      exact h
    · exact fun h => ⟨_, h, rfl⟩
  | completion id =>
    simp only [Except.bind_eq_ok_iff, Halt.ofStore_eq_ok_iff, Halt.require_eq_ok_iff,
      Event.checkOwner_eq_ok_iff]
    constructor
    · rintro ⟨c, hc, _, ho, latest, hl, h⟩
      cases latest with
      | none => cases h
      | some b =>
        cases h
        exact ⟨c, hc, ho.symm, hl⟩
    · rintro ⟨c, hc, ho, hl⟩
      exact ⟨c, hc, (), ho.symm, some a, hl, rfl⟩

/-- **The rows of a dossier**, each found under the number that the one before names. -/
theorem gather_eq_ok_iff : s.gather e = .ok d ↔
    s.Reports e d.attempt ∧ d.attempt.learnerId = e.subject ∧
      s.assessment? d.attempt.assessmentId = some d.assessment ∧
      s.user? d.attempt.learnerId = some d.learner ∧
      s.course? (courseIdOf e d.assessment) = some d.course := by
  unfold gather
  simp only [Except.bind_eq_ok_iff, Halt.require_eq_ok_iff, Event.checkOwner_eq_ok_iff,
    targetAttempt_eq_ok_iff]
  constructor
  · rintro ⟨attempt, ha, _, ho, assessment, hs, learner, hl, course, hc, h⟩
    cases h
    exact ⟨ha, ho.symm, hs, hl, hc⟩
  · rintro ⟨ha, ho, hs, hl, hc⟩
    exact ⟨_, ha, (), ho.symm, _, hs, _, hl, _, hc, rfl⟩

theorem gather_learner (h : s.gather e = .ok d) : d.learner.id = e.subject := by
  obtain ⟨-, ho, -, hl, -⟩ := gather_eq_ok_iff.1 h
  rw [user?_id hl, ho]

end Store

end GradeRelay
