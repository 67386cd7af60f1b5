import GradeRelay.Proofs.Delivery
import GradeRelay.Proofs.Stripping
/-!
# The gate before deliveries

The conditions under which an event leads to a delivery are checked in several places, some of
them after the books were kept. `Cleared` puts them side by side: which rows must be there, to whom
they must belong, and what each kind of event asks of them.

* `refusal?_eq_none_iff`, `cleared_iff`: the checks made one after the other come to just that;
* `handle_cleared`: a cleared event is followed up to its deliveries;
* **`delivery_gate`**: something is delivered exactly when an event is cleared, and all that is
  delivered or kept for later is about the event's own subject.
-/

namespace GradeRelay

namespace Store

/-- A completion is passed on: learner and course are known outside, the learner brought no credit
along, and grading by hand does not report it. -/
structure PassesOn (s : Store) (d : Dossier) : Prop where
  learnerKnown : ∃ c ∈ d.learner.externalId.toList, Text.isBlank c = false
  courseKnown : ∃ c ∈ d.course.externalId.toList, Text.isBlank c = false
  uncredited : s.hasCredit d.course.id d.assessment.id d.learner.id = false
  immediate : d.assessment.behaviour ≠ .deferredFeedback

/-- All that must hold for a raw event to lead to a delivery, with the event and the rows that it is
about. -/
structure Cleared (s : Store) (raw : Json) (now : Timestamp) (e : Event) (d : Dossier) :
    Prop where
  accepted : Event.ofJson raw now = .ok e
  reported : s.Reports e d.attempt
  own : d.attempt.learnerId = e.subject
  assessment : s.assessment? d.attempt.assessmentId = some d.assessment
  learner : s.user? d.attempt.learnerId = some d.learner
  course : s.course? (if e.kind = .attemptUpdated then d.assessment.courseId else e.courseId) =
    some d.course
  real : d.attempt.preview = false
  handedIn : e.kind = .attemptUpdated → d.attempt.state ≠ .inProgress
  graded : e.kind = .questionGraded → ¬ (d.attempt.state = .finished ∧ d.attempt.score = none)
  completed : e.kind = .completionUpdated → s.PassesOn d
  active : d.learner.suspended = false

variable {s : Store} {transport : Transport} {role : Int} {raw : Json} {actor : Option UserId}
  {now : Timestamp} {report : Report} {e : Event} {d : Dossier} {kind : Event.Kind}

/-! ## The checks -/

theorem Cleared.learner_id (h : s.Cleared raw now e d) : d.learner.id = e.subject := by
  rw [user?_id h.learner, h.own]

theorem attemptRefusal?_eq_none_iff {a : Attempt} : attemptRefusal? kind a = none ↔
    a.preview = false ∧ (kind = .attemptUpdated → a.state ≠ .inProgress) ∧
      (kind = .questionGraded → ¬ (a.state = .finished ∧ a.score = none)) := by
  unfold attemptRefusal?
  cases hstate : a.state <;> cases hscore : a.score <;> cases kind <;> simp

theorem completionRefusal?_eq_none_iff : s.completionRefusal? d = none ↔ s.PassesOn d := by
  have hcheck : s.completionRefusal? d = none ↔
      Text.isBlankText d.learner.externalId = false ∧
        Text.isBlankText d.course.externalId = false ∧
        s.hasCredit d.course.id d.assessment.id d.learner.id = false ∧
        d.assessment.behaviour ≠ .deferredFeedback := by
    unfold completionRefusal? Assessment.isDeferred
    split <;> rename_i h₁
    · simp [h₁]
    split <;> rename_i h₂
    · simp [h₂]
    split <;> rename_i h₃
    · simp [h₃]
    simp [h₁, h₂, h₃]
  rw [hcheck, Text.isBlankText_eq_false_iff, Text.isBlankText_eq_false_iff]
  exact ⟨fun ⟨h₁, h₂, h₃, h₄⟩ => ⟨h₁, h₂, h₃, h₄⟩, fun ⟨h₁, h₂, h₃, h₄⟩ => ⟨h₁, h₂, h₃, h₄⟩⟩

theorem refusal?_eq_none_iff : s.refusal? kind d = none ↔
    attemptRefusal? kind d.attempt = none ∧ (kind = .completionUpdated → s.PassesOn d) := by
  rw [refusal?, Option.or_eq_none_iff]
  refine and_congr_right fun _ => ?_
  by_cases hk : kind = .completionUpdated
  · rw [if_pos hk, completionRefusal?_eq_none_iff]
    exact ⟨fun h _ => h, fun h => h hk⟩
  · rw [if_neg hk]
    exact iff_of_true rfl fun h => absurd h hk

theorem dossier_refusal?_eq_none_iff : d.refusal? = none ↔ d.learner.suspended = false := by
  cases h : d.learner.suspended <;> simp [Dossier.refusal?, h]

theorem cleared_iff : s.Cleared raw now e d ↔ Event.ofJson raw now = .ok e ∧
    s.gather e = .ok d ∧ s.refusal? e.kind d = none ∧ d.refusal? = none := by
  rw [gather_eq_ok_iff, refusal?_eq_none_iff, attemptRefusal?_eq_none_iff,
    dossier_refusal?_eq_none_iff]
  constructor
  · intro h
    exact ⟨h.accepted, ⟨h.reported, h.own, h.assessment, h.learner, h.course⟩,
      ⟨⟨h.real, h.handedIn, h.graded⟩, h.completed⟩, h.active⟩
  · rintro ⟨he, ⟨ha, ho, hs, hl, hc⟩, ⟨⟨hp, hi, hg⟩, hn⟩, hsus⟩
    exact ⟨he, ha, ho, hs, hl, hc, hp, hi, hg, hn, hsus⟩

/-! ## What comes of a cleared event -/

theorem notices_ne_nil {ns : List Notice} (h : s.notices now e d = .ok ns) : ns ≠ [] := by
  unfold notices at h
  split at h
  · obtain ⟨assessor, -, h⟩ := Except.bind_eq_ok_iff.1 h
    cases h
    exact List.cons_ne_nil _ _
  · split at h
    · obtain ⟨assessor, -, h⟩ := Except.bind_eq_ok_iff.1 h
      cases h
      exact List.cons_ne_nil _ _
    · cases h
      exact List.cons_ne_nil _ _
  · cases h
    exact List.cons_ne_nil _ _

/-- **A cleared event** that ends in a report had notices of its dossier handed over. -/
theorem handle_cleared (hc : s.Cleared raw now e d)
    (h : (s.handle transport role raw actor now).result = .ok report) :
    (s.handle transport role raw actor now).sent ≠ [] := by
  obtain ⟨he, hg, hr, hd⟩ := cleared_iff.1 hc
  have hfollow : s.handle transport role raw actor now =
      s.followUp transport ⟨(actor.or e.actor).getD e.subject, now, role⟩ e d := by
    simp only [handle, he, hg, hr]
  rw [hfollow] at h ⊢
  obtain ⟨b, s₁, -, ⟨reason, hrefused, -⟩ | ⟨ns, -, hns, hend⟩⟩ := followUp_ok h
  · rw [hd] at hrefused
    cases hrefused
  · rw [hend]
    exact notices_ne_nil hns

/-- **An event that leads to a delivery** was cleared, and what is delivered or kept for later is
about its dossier; any other leaves the outbox as it was. -/
theorem handle_delivers (h : (s.handle transport role raw actor now).result = .ok report) :
    ((s.handle transport role raw actor now).sent = [] ∧
        (s.handle transport role raw actor now).store.outbox = s.outbox) ∨
      ∃ e d, s.Cleared raw now e d ∧
        (∀ n ∈ (s.handle transport role raw actor now).sent, d.IsNotice n) ∧
        Kept d s.outbox (s.handle transport role raw actor now).store.outbox := by
  rcases handle_ends h with ⟨kind, attemptId, reason, -, hskip⟩ |
    ⟨e, d, b, s₁, he, hg, hr, hb, ⟨-, -, hskip⟩ | ⟨ns, hd, hns, -, hend⟩⟩
  · rw [hskip]
    exact .inl ⟨rfl, rfl⟩
  · rw [hskip, keepBooks_footprint hb]
    exact .inl ⟨rfl, rfl⟩
  · obtain ⟨outbox, hs, hkept⟩ := handOverAll_kept transport now d s₁ [] ns
    rw [hend, hs]
    refine .inr ⟨e, d, cleared_iff.2 ⟨he, hg, hr, hd⟩, (notices_ok hns).1, ?_⟩
    rw [keepBooks_footprint hb] at hkept
    exact hkept

/-- **The gate before deliveries.** An event that ends in a report leads to a delivery exactly when
it is cleared. What is delivered, and what is kept because a delivery failed, is about an attempt of
the event's own subject. -/
theorem delivery_gate (h : (s.handle transport role raw actor now).result = .ok report) :
    ((s.handle transport role raw actor now).sent ≠ [] ↔ ∃ e d, s.Cleared raw now e d) ∧
      (∀ n ∈ (s.handle transport role raw actor now).sent, ∃ e d,
        s.Cleared raw now e d ∧ d.learner.id = e.subject ∧ d.IsNotice n) ∧
      ∃ added, (s.handle transport role raw actor now).store.outbox = s.outbox ++ added ∧
        ∀ row ∈ added, ∃ e d resource, s.Cleared raw now e d ∧ row.learnerId = e.subject ∧
          row.attemptId = d.attempt.id ∧ row.HasKey (d.retryKey resource) := by
  refine ⟨⟨fun hsent => ?_, fun ⟨e, d, hc⟩ => handle_cleared hc h⟩, fun n hn => ?_, ?_⟩
  · rcases handle_delivers h with ⟨hnone, -⟩ | ⟨e, d, hc, -⟩
    · exact absurd hnone hsent
    · exact ⟨e, d, hc⟩
  · rcases handle_delivers h with ⟨hnone, -⟩ | ⟨e, d, hc, hnotice, -⟩
    · rw [hnone] at hn
      cases hn
    · exact ⟨e, d, hc, hc.learner_id, hnotice n hn⟩
  · rcases handle_delivers h with ⟨-, hsame⟩ | ⟨e, d, hc, -, hkept⟩
    · exact ⟨[], by rw [hsame, List.append_nil], fun _ hrow => (nomatch hrow)⟩
    · obtain ⟨added, hadded, hrows, -⟩ := hkept.distinct
      refine ⟨added, hadded, fun row hrow => ?_⟩
      obtain ⟨-, resource, hkey⟩ := hrows row hrow
      exact ⟨e, d, resource, hc, hkey.1.trans hc.learner_id, hkey.2.2.2.1, hkey⟩

/-- A quiz that grades itself, sat twice and then once more as a preview. -/
def selfGraded : Store :=
  { Sample.people with
    assessments := [Sample.assessment "Quiz" .other]
    attempts := [.ofAttempt (Sample.attempt 42 1 (some 4)),
      .ofAttempt (Sample.attempt 43 2 (some 10)),
      .ofAttempt { Sample.attempt 44 3 (some 10) with preview := true }]
    completions := [{ id := 7, assessmentId := 5, learnerId := 3, state := Completion.full,
                      timeModified := 1700000700 }] }

/-- What the platform announces when the completion of that quiz changes, said to be a user's. -/
def quizCompleted (subject : UserId) : Json :=
  .object [("eventname", .string "\\core\\event\\course_module_completion_updated"),
    ("relateduserid", .int subject), ("courseid", .int 9), ("objectid", .int 7),
    ("contextid", .int 501), ("timecreated", .int 1700000700)]

/-- The second sitting is reported, and the records service does not answer. -/
def completionTimedOut : Report where
  kind := some .completionUpdated
  attemptId := some 43
  handovers := [⟨.activities, .failed "delivery timed out" .recorded⟩]

/-- The completion belongs to the learner and not to the grader. -/
def completionOfAnother : Report where
  kind := some .completionUpdated
  skipped := some (.subjectMismatch 7 3)

theorem delivery_gate_selfGraded :
    ((selfGraded.handle (fun _ _ => some .timeout) Sample.graderRole (quizCompleted 3) none
        1700100000).result = .ok completionTimedOut ∧
      ∃ e d, selfGraded.Cleared (quizCompleted 3) 1700100000 e d) ∧
    (selfGraded.handle (fun _ _ => some .timeout) Sample.graderRole (quizCompleted 7) none
        1700100000).result = .ok completionOfAnother ∧
      ¬ ∃ e d, selfGraded.Cleared (quizCompleted 7) 1700100000 e d := by
  have h₃ : (selfGraded.handle (fun _ _ => some .timeout) Sample.graderRole (quizCompleted 3) none
      1700100000).result = .ok completionTimedOut := Except.ok_of_toOption (by decide +kernel)
  have h₇ : (selfGraded.handle (fun _ _ => some .timeout) Sample.graderRole (quizCompleted 7) none
      1700100000).result = .ok completionOfAnother := Except.ok_of_toOption (by decide +kernel)
  refine ⟨⟨h₃, (delivery_gate h₃).1.1 ?_⟩, h₇, fun hc => (delivery_gate h₇).1.2 hc ?_⟩
  · exact List.ne_nil_of_length_eq_add_one (n := 0) (by decide +kernel)
  · exact List.eq_nil_of_length_eq_zero (by decide +kernel)

end Store

end GradeRelay
