import GradeRelay.Proofs.Gate
/-!
# Skipped events

An event that is skipped goes no further than the check that stops it. All checks but the last come
before the first write; the last, that the learner is not suspended, comes after the books were
kept and before the first delivery.

* `handOverAll_ne_nil`: each notice handed over is reported;
* **`skips_atomic`**: what a skipped event leaves as it was.
-/

namespace GradeRelay.Store

variable {s : Store} {transport : Transport} {role : Int} {raw : Json} {actor : Option UserId}
  {now : Timestamp} {report : Report}

theorem handOverAll_ne_nil {d : Dossier} {ns : List Notice} (hn : ns ≠ []) (sent : List Notice) :
    (handOverAll transport now d s sent ns).1 ≠ [] := by
  cases ns with
  | nil => exact absurd rfl hn
  | cons n rest =>
    rw [handOverAll_cons]
    exact List.cons_ne_nil _ _

/-- **Skips are atomic.** A skipped event reaches no transport and adds no retry, and unless its
learner is suspended it changes nothing at all and reports no change. An event that is not skipped
has a delivery to report. -/
theorem skips_atomic (h : (s.handle transport role raw actor now).result = .ok report) :
    (∀ reason, report.skipped = some reason →
      (s.handle transport role raw actor now).sent = [] ∧ report.handovers = [] ∧
        (∀ other, s.handle other role raw actor now = s.handle transport role raw actor now) ∧
        (s.handle transport role raw actor now).store.outbox = s.outbox ∧
        (reason ≠ .suspendedLearner → (s.handle transport role raw actor now).store = s ∧
          report.queue = none ∧ report.allowance = none ∧ report.carried = 0)) ∧
      (report.skipped = none → report.handovers ≠ []) := by
  rcases handle_ends h with ⟨kind, attemptId, reason, rfl, hskip⟩ |
    ⟨e, d, b, s₁, -, -, -, hb, ⟨-, rfl, hskip⟩ | ⟨ns, -, hns, rfl, hend⟩⟩
  · refine ⟨fun _ _ => ?_, nofun⟩
    simp only [hskip, implies_true, and_self]
  · refine ⟨fun reason hreason => ?_, nofun⟩
    obtain rfl := Option.some.inj hreason
    -- the books were kept, and the outbox is none of them
    have ho : s₁.outbox = s.outbox := by rw [keepBooks_footprint hb]
    simp only [hskip, ho, implies_true, ne_eq, not_true, false_implies, and_self]
  · exact ⟨nofun, fun _ => handOverAll_ne_nil (notices_ne_nil hns) []⟩

/-- A grader has rejected the learner's answer, and the learner was suspended since. -/
def suspended : Store :=
  { Sample.decided (some 6) with
    users := [{ Sample.user 3 "learner" with suspended := true }, Sample.user 7 "grader"] }

/-- The review was started before the learner was found to be suspended. -/
def startedAndSuspended : Report where
  kind := some .attemptUpdated
  attemptId := some 42
  skipped := some .suspendedLearner
  queue := some (.start (some 7) none)

/-- The attempt announced is in no row. -/
def attemptMissing : Report where
  kind := some .attemptUpdated
  attemptId := some 43
  skipped := some (.entityNotFound .attempt 43)

theorem skips_atomic_suspended :
    ((suspended.handle (fun _ _ => some .timeout) Sample.graderRole (Sample.submission 42 7) none
        1700100000).result = .ok startedAndSuspended ∧
      (suspended.handle (fun _ _ => some .timeout) Sample.graderRole (Sample.submission 42 7) none
        1700100000).sent = []) ∧
    (suspended.handle (fun _ _ => some .timeout) Sample.graderRole (Sample.submission 43 7) none
        1700100000).result = .ok attemptMissing ∧
      (suspended.handle (fun _ _ => some .timeout) Sample.graderRole (Sample.submission 43 7) none
        1700100000).store = suspended := by
  have h₄₂ : (suspended.handle (fun _ _ => some .timeout) Sample.graderRole
      (Sample.submission 42 7) none 1700100000).result = .ok startedAndSuspended :=
    Except.ok_of_toOption (by decide +kernel)
  have h₄₃ : (suspended.handle (fun _ _ => some .timeout) Sample.graderRole
      (Sample.submission 43 7) none 1700100000).result = .ok attemptMissing :=
    Except.ok_of_toOption (by decide +kernel)
  obtain ⟨hsent, -⟩ := (skips_atomic h₄₂).1 _ rfl
  obtain ⟨-, -, -, -, hsame⟩ := (skips_atomic h₄₃).1 _ rfl
  exact ⟨⟨h₄₂, hsent⟩, h₄₃, (hsame nofun).1⟩

end GradeRelay.Store
