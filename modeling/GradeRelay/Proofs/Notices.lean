import GradeRelay.Proofs.Events.Validation
import GradeRelay.Proofs.Gate
/-!
# What is sent

The notices of an event are written from the rows that stood before it. Only the assessor is looked
up afterwards: the event may itself have started the review, or finished it in the name of another
grader. Which notices there are, in which order, and what each of them says is put down here body
by body.

* `Dossier.tellsAttempt_notice`, `Dossier.tellsActivity_notice`: what the bodies say;
* `isAssessor_of_assessorOf`: who is named as the assessor;
* `notices_sends`: the notices of each kind of event;
* **`handle_sends`**: what is handed over for an event that is neither skipped nor ends in a fault.
-/

namespace GradeRelay

/-! ## Bodies -/

namespace Dossier

variable (d : Dossier)

/-- The attempt has a score, and it counts as the maximum. -/
def FullScore : Prop :=
  ∃ score, d.attempt.score = some score ∧ Score.close score d.assessment.maxScore = true

/-- How the attempt stands, as the records service is told. -/
def attemptBody : Json :=
  .object [("id", .int d.attempt.id),
    ("user", .object [("idnumber", .string d.learner.externalId),
      ("username", .string d.learner.username), ("firstname", .string d.learner.firstName),
      ("lastname", .string d.learner.lastName), ("email", .string d.learner.email)]),
    ("course", .object [("id", .int d.course.id), ("idnumber", .string d.course.externalId),
      ("shortname", .string d.course.shortName), ("fullname", .string d.course.fullName)]),
    ("quiz", .object [("id", .int d.assessment.id),
      ("name", .string (Assessment.publicName d.assessment.name)),
      ("sumgrades", .number (.float d.assessment.maxScore)),
      ("course", .int d.assessment.courseId)]),
    ("attempt", .int d.attempt.number.toInt), ("state", .string d.attempt.state.tag),
    ("timestart", .int d.attempt.timeStart), ("timefinish", .int d.attempt.timeFinish),
    ("timemodified", .int d.attempt.timeModified),
    ("sumgrades", d.attempt.score.elim .null fun score => .number (.float score))]

/-- That the activity was passed or failed, as the records service is told. -/
def activityBody (passed : Bool) (modified : Timestamp) (assessor : Option String) : Json :=
  .object ([("status", .string "Active"), ("person.id", .string d.learner.externalId),
    ("person.username", .string d.learner.username), ("person.email", .string d.learner.email),
    ("course.id", .string d.course.externalId), ("course.code", .string d.course.shortName),
    ("activity.name", .string (Assessment.publicName d.assessment.name)),
    ("activity.type", .string "prefix_quiz"), ("modified", .int modified),
    ("lmscomplete", .string (if passed then "True" else "False")),
    ("lmscompletedate", if passed then .int modified else .null),
    ("supervisorstatus", .int (if passed then 876750004 else 876750007))] ++
    assessor.toList.map fun name => ("assessor", .string name))

/-- The notice tells how the attempt stands. -/
structure TellsAttempt (n : Notice) : Prop where
  resource : n.resource = .attempts
  body : n.toJson = d.attemptBody

/-- The notice tells that the activity was passed, just if the score is full, or failed. -/
structure TellsActivity (passed : Bool) (modified : Timestamp) (assessor : Option String)
    (n : Notice) : Prop where
  resource : n.resource = .activities
  body : n.toJson = d.activityBody passed modified assessor
  verdict : passed = true ↔ d.FullScore

theorem isPassed_iff : d.isPassed = true ↔ d.FullScore := by
  unfold isPassed FullScore
  cases d.attempt.score <;> simp [Assessment.isFull]

theorem tellsAttempt_notice (now : Timestamp) (assessor : Option String) :
    d.TellsAttempt (d.notice now assessor .attempts) := by
  refine ⟨rfl, ?_⟩
  simp only [notice, Notice.toJson, AttemptNotice.toJson, attemptNotice, attemptBody]
  cases d.attempt.score <;> rfl

theorem tellsActivity_notice (modified : Timestamp) (assessor : Option String) :
    d.TellsActivity d.isPassed modified assessor (d.notice modified assessor .activities) := by
  refine ⟨rfl, ?_, d.isPassed_iff⟩
  simp only [notice, Notice.toJson, ActivityNotice.toJson, activityNotice, activityBody]
  cases d.isPassed <;> cases assessor <;> rfl

end Dossier

namespace Store

variable {s : Store} {transport : Transport} {role : Int} {raw : Json} {actor : Option UserId}
  {now : Timestamp} {report : Report} {e : Event} {d : Dossier} {id : AttemptId}
  {assessor : Option String} {ns : List Notice}

/-! ## The assessor -/

/-- The external id of the user that the review of an attempt is assigned to; none where there is
no review, no assignee or no such user. -/
inductive IsAssessor (s : Store) (id : AttemptId) : Option String → Prop where
  | unreviewed : s.review? id = .ok none → IsAssessor s id none
  | unassigned {review : Review} : s.review? id = .ok (some review) → review.assignee = none →
    IsAssessor s id none
  | unknown {review : Review} {who : UserId} : s.review? id = .ok (some review) →
    review.assignee = some who → s.user? who = none → IsAssessor s id none
  | known {review : Review} {who : UserId} {user : User} : s.review? id = .ok (some review) →
    review.assignee = some who → s.user? who = some user → IsAssessor s id (some user.externalId)

theorem isAssessor_of_assessorOf (h : s.assessorOf id = .ok assessor) :
    s.IsAssessor id assessor := by
  obtain ⟨review, hreview, h⟩ := Except.bind_eq_ok_iff.1 h
  cases h
  cases review with
  | none => exact .unreviewed hreview
  | some review =>
    cases hassignee : review.assignee with
    | none => simpa [hassignee] using IsAssessor.unassigned hreview hassignee
    | some who =>
      cases huser : s.user? who with
      | none => simpa [hassignee, huser] using IsAssessor.unknown hreview hassignee huser
      | some user => simpa [hassignee, huser] using IsAssessor.known hreview hassignee huser

/-! ## The notices of an event -/

/-- What is sent for an event of a kind, by the rows that it is about and the queue as the event
leaves it. -/
inductive Sends (s : Store) (raw : Json) (now : Timestamp) (d : Dossier) :
    Event.Kind → List Notice → Prop where
  | graded {n : Notice} {passed : Bool} {assessor : Option String} :
    s.IsAssessor d.attempt.id assessor → d.TellsActivity passed now assessor n →
    Sends s raw now d .questionGraded [n]
  | updated {n : Notice} : d.TellsAttempt n →
    ¬ (d.assessment.behaviour ≠ .deferredFeedback ∧ d.FullScore) →
    Sends s raw now d .attemptUpdated [n]
  | passed {n m : Notice} {assessor : Option String} : d.TellsAttempt n →
    d.assessment.behaviour ≠ .deferredFeedback → d.FullScore →
    s.IsAssessor d.attempt.id assessor → d.TellsActivity true now assessor m →
    Sends s raw now d .attemptUpdated [n, m]
  | completed {n : Notice} {passed : Bool} {t : Timestamp} : Event.TakesPlace raw now t →
    d.TellsActivity passed t none n → Sends s raw now d .completionUpdated [n]

/-- **The notices of each kind of event.** -/
theorem notices_sends (he : Event.ofJson raw now = .ok e) (h : s.notices now e d = .ok ns) :
    s.Sends raw now d e.kind ns := by
  have htime := (Event.readsOff_of_ofJson he).time
  unfold notices at h
  split at h
  · next hkind =>
    obtain ⟨assessor, hassessor, h⟩ := Except.bind_eq_ok_iff.1 h
    cases h
    rw [hkind]
    exact .graded (isAssessor_of_assessorOf hassessor) (d.tellsActivity_notice now assessor)
  · next hkind =>
    have hgate : (!d.assessment.isDeferred && d.isPassed) = true ↔
        d.assessment.behaviour ≠ .deferredFeedback ∧ d.FullScore := by
      rw [Bool.and_eq_true, d.isPassed_iff, Bool.not_eq_true', Assessment.isDeferred,
        decide_eq_false_iff_not]
    rw [hkind]
    split at h
    · next hpassed =>
      obtain ⟨hdeferred, hfull⟩ := hgate.1 hpassed
      obtain ⟨assessor, hassessor, h⟩ := Except.bind_eq_ok_iff.1 h
      cases h
      have hactivity := d.tellsActivity_notice now assessor
      rw [d.isPassed_iff.2 hfull] at hactivity
      exact .passed (d.tellsAttempt_notice now assessor) hdeferred hfull
        (isAssessor_of_assessorOf hassessor) hactivity
    · next hpassed =>
      cases h
      exact .updated (d.tellsAttempt_notice now none) fun h => hpassed (hgate.2 h)
  · next hkind =>
    cases h
    rw [hkind]
    exact .completed htime (d.tellsActivity_notice e.occurredAt none)

/-- **What is sent.** An event that is neither skipped nor ends in a fault has its notices handed
over: a graded question that of the activity; a changed attempt its own, and after it, just if
feedback is not deferred and the score is full, that of the activity, which is passed; a completion
that of the activity, at the time of the event. They tell of the rows that stood before the event,
and name as the assessor whom the queue names after it. -/
theorem handle_sends (h : (s.handle transport role raw actor now).result = .ok report)
    (hskip : report.skipped = none) : ∃ e d, s.Cleared raw now e d ∧
      (s.handle transport role raw actor now).store.Sends raw now d e.kind
        (s.handle transport role raw actor now).sent := by
  rcases handle_ends h with ⟨kind, attemptId, reason, rfl, -⟩ |
    ⟨e, d, b, s₁, he, hg, hr, -, ⟨-, rfl, -⟩ | ⟨ns, hd, hns, -, hend⟩⟩
  · cases hskip
  · cases hskip
  · obtain ⟨outbox, hs, -⟩ := handOverAll_kept transport now d s₁ [] ns
    refine ⟨e, d, cleared_iff.2 ⟨he, hg, hr, hd⟩, ?_⟩
    rw [hend, hs]
    -- the outbox is no part of what the notices are written from
    exact notices_sends (s := { s₁ with outbox := outbox }) he hns

/-- A copy of the written assessment that grades itself, sat with a full score; a grader has begun
to review it. -/
def satInFull : Store :=
  { Sample.people with
    assessments := [Sample.assessment "2. Written Assessment (copy)" .other]
    attempts := [.ofAttempt (Sample.attempt 42 1 (some 10))]
    queue := [.ofReview { attemptId := 42, priorAttemptId := none, assignee := some 7,
                          attemptNumber := 1, state := .pending, timeStart := 1700000900,
                          timeFinish := none }] }

/-- The attempt is announced by the administrator, and the first of the deliveries is late. -/
def announcedInFull : Handled :=
  satInFull.handle (fun i _ => if i = 0 then some .timeout else none) Sample.graderRole
    (Sample.submission 42 2) none 1700100000

/-- The review ends in the administrator's name. -/
def announcedReport : Report where
  kind := some .attemptUpdated
  attemptId := some 42
  queue := some (.finish 2)
  handovers := [⟨.attempts, .failed "delivery timed out" .recorded⟩, ⟨.activities, .delivered⟩]

theorem handle_sends_announcedInFull :
    (announcedInFull.result = .ok announcedReport ∧ announcedReport.skipped = none) ∧
      (∃ e d, satInFull.Cleared (Sample.submission 42 2) 1700100000 e d ∧
        announcedInFull.store.Sends (Sample.submission 42 2) 1700100000 d e.kind
          announcedInFull.sent) ∧
      announcedInFull.sent.map (fun n => (n.toJson.get? "assessor").bind Json.text?) =
        [none, some "EXT-2"] := by
  have h : announcedInFull.result = .ok announcedReport :=
    Except.ok_of_toOption (by decide +kernel)
  exact ⟨⟨h, rfl⟩, handle_sends h rfl, by decide +kernel⟩

end Store

end GradeRelay
