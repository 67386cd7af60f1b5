import GradeRelay.Dossier
import GradeRelay.Store.Retry
/-!
# Keys in the outbox

A key is taken while a pending row of the outbox stands under it.

* `hasPendingKey_iff`: the test made before a retry is added asks just that;
* **`keepRetry_taken`**, **`keepRetry_free`**: a retry under a taken key changes nothing, one under
  a free key is appended.
-/

namespace GradeRelay

/-- The row stands under the key. -/
def RetryRow.HasKey (row : RetryRow) (k : Retry.Key) : Prop :=
  row.learnerId = k.learnerId ∧ row.courseId = k.courseId ∧
    row.assessmentName = k.assessmentName ∧ row.attemptId = k.attemptId ∧
      row.resourceTag = k.resource.tag

/-- A pending row stands under the key. -/
def Taken (outbox : List RetryRow) (k : Retry.Key) : Prop :=
  ∃ row ∈ outbox, row.status = .pending ∧ row.HasKey k

/-- The key of what a failed delivery to a resource leaves. -/
def Dossier.retryKey (d : Dossier) (resource : Resource) : Retry.Key where
  learnerId := d.learner.id
  courseId := d.course.id
  assessmentName := Assessment.publicName d.assessment.name
  attemptId := d.attempt.id
  resource := resource

theorem RetryRow.hasKey_ofRetry (id : Int) (r : Retry) : (ofRetry id r).HasKey r.key :=
  ⟨rfl, rfl, rfl, rfl, rfl⟩

/-- A row under one key stands under no key of another resource. -/
theorem RetryRow.HasKey.resource_eq {row : RetryRow} {k k' : Retry.Key} (h : row.HasKey k)
    (h' : row.HasKey k') : k.resource = k'.resource :=
  Resource.tag_injective (h.2.2.2.2.symm.trans h'.2.2.2.2)

@[simp]
theorem taken_append {l l' : List RetryRow} {k : Retry.Key} :
    Taken (l ++ l') k ↔ Taken l k ∨ Taken l' k := by
  constructor
  · rintro ⟨row, hm, h⟩
    rcases List.mem_append.1 hm with hm | hm
    · exact .inl ⟨row, hm, h⟩
    · exact .inr ⟨row, hm, h⟩
  · rintro (⟨row, hm, h⟩ | ⟨row, hm, h⟩)
    · exact ⟨row, List.mem_append_left _ hm, h⟩
    · exact ⟨row, List.mem_append_right _ hm, h⟩

namespace Store

variable {s : Store} {r : Retry}

theorem hasPendingKey_iff : s.hasPendingKey r = true ↔ Taken s.outbox r.key := by
  unfold hasPendingKey Taken
  rw [List.any_eq_true]
  refine exists_congr fun row => and_congr_right fun _ => ?_
  simp only [RetryRow.isPending, RetryRow.sameKey, Bool.and_eq_true, decide_eq_true_eq, and_assoc]
  exact Iff.rfl

theorem keepRetry_taken (h : Taken s.outbox r.key) :
    s.keepRetry r = (.duplicateSuppressed, s) := by
  simp only [keepRetry, addRetry, hasPendingKey_iff.2 h, if_true]

theorem keepRetry_free (h : ¬ Taken s.outbox r.key) :
    s.keepRetry r = (.recorded, { s with
      outbox := s.outbox ++ [.ofRetry (freshId (s.outbox.map (·.id))) r] }) := by
  have hf : s.hasPendingKey r = false := by
    rw [← Bool.not_eq_true, hasPendingKey_iff]
    exact h
  simp only [keepRetry, addRetry, hf, Bool.false_eq_true, if_false]

end Store

end GradeRelay
