import GradeRelay.Proofs.Redelivery.Retries
import GradeRelay.Proofs.Sample
/-!
# Failed deliveries

Each notice of an event is handed to the transport once, in order, and each failure is kept in the
outbox until it can be repeated.

* `handOver_settled`: what one delivery reports and which rows it adds;
* `handOverAll_settled`: the same for all deliveries of an event, each measured against the outbox
  before the event, since they go to different resources;
* **`no_failed_delivery_lost`**: the event as a whole.
-/

namespace GradeRelay

/-! ## What a notice says -/

namespace Notice

/-- The name under which a notice speaks of the learner. -/
def learnerExternalId : Notice → String
  | .attempt n => n.person.externalId
  | .activity n => n.personExternalId

/-- The name under which a notice speaks of the course. -/
def courseExternalId : Notice → String
  | .attempt n => n.course.externalId
  | .activity n => n.courseExternalId

/-- The name under which a notice speaks of the assessment. -/
def activityName : Notice → String
  | .attempt n => n.quiz.name
  | .activity n => n.activityName

end Notice

/-- The notice tells about the dossier. -/
def Dossier.IsNotice (d : Dossier) (n : Notice) : Prop :=
  ∃ completedAt assessor, n = d.notice completedAt assessor n.resource

/-- From the row the delivery of the notice can be repeated. -/
structure RetryRow.Repeats (row : RetryRow) (d : Dossier) (now : Timestamp) (n : Notice) :
    Prop where
  pending : row.status = .pending
  hasKey : row.HasKey (d.retryKey n.resource)
  timeAdded : row.timeAdded = now
  learnerExternalId : row.learnerExternalId = n.learnerExternalId
  courseExternalId : row.courseExternalId = n.courseExternalId
  assessmentName : row.assessmentName = n.activityName

/-- What comes of handing a notice to the transport, by the transport's answer: how the delivery
is reported, and the rows that it adds to an outbox. -/
inductive Settled (outbox : List RetryRow) (d : Dossier) (now : Timestamp) (n : Notice) :
    Option DeliveryFailure → Arrival → List RetryRow → Prop where
  | arrived : Settled outbox d now n none .delivered []
  | recorded {f : DeliveryFailure} {row : RetryRow} :
    ¬ Taken outbox (d.retryKey n.resource) → row.Repeats d now n →
      Settled outbox d now n (some f) (.failed f.message .recorded) [row]
  | suppressed {f : DeliveryFailure} :
    Taken outbox (d.retryKey n.resource) →
      Settled outbox d now n (some f) (.failed f.message .duplicateSuppressed) []

variable {outbox : List RetryRow} {d : Dossier} {now : Timestamp} {n : Notice}

theorem Settled.congr {outbox' : List RetryRow} {answer : Option DeliveryFailure}
    {arrival : Arrival} {rows : List RetryRow}
    (ht : Taken outbox (d.retryKey n.resource) ↔ Taken outbox' (d.retryKey n.resource))
    (h : Settled outbox d now n answer arrival rows) :
    Settled outbox' d now n answer arrival rows := by
  cases h with
  | arrived => exact .arrived
  | recorded hf hr => exact .recorded (fun h => hf (ht.2 h)) hr
  | suppressed hf => exact .suppressed (ht.1 hf)

theorem Settled.hasKey {answer : Option DeliveryFailure} {arrival : Arrival}
    {rows : List RetryRow} (h : Settled outbox d now n answer arrival rows) :
    ∀ row ∈ rows, row.HasKey (d.retryKey n.resource) := by
  cases h with
  | recorded _ hr =>
    intro row hm
    obtain rfl := List.mem_singleton.1 hm
    exact hr.hasKey
  | arrived | suppressed _ => simp

theorem Settled.taken {answer : Option DeliveryFailure} {arrival : Arrival}
    {rows : List RetryRow} (h : Settled outbox d now n answer arrival rows)
    (hf : arrival ≠ .delivered) : Taken (outbox ++ rows) (d.retryKey n.resource) := by
  cases h with
  | arrived => exact absurd rfl hf
  | @recorded _ row _ hr =>
    exact taken_append.2 (.inr ⟨row, List.mem_singleton_self row, hr.pending, hr.hasKey⟩)
  | suppressed ht => exact taken_append.2 (.inl ht)

namespace Store

variable {s : Store} {transport : Transport}

/-! ## One delivery -/

theorem repeats_ofRetry (id : Int) (hn : d.IsNotice n) :
    (RetryRow.ofRetry id (d.retry now n.resource)).Repeats d now n := by
  obtain ⟨completedAt, assessor, hn⟩ := hn
  generalize n.resource = resource at hn
  subst hn
  cases resource <;>
    exact ⟨rfl, RetryRow.hasKey_ofRetry id (d.retry now _), rfl, rfl, rfl, rfl⟩

theorem handOver_settled (s : Store) (transport : Transport) (now : Timestamp)
    (hn : d.IsNotice n) (sent : List Notice) :
    (s.handOver transport now d sent n).1.resource = n.resource ∧ ∃ rows,
      (s.handOver transport now d sent n).2.1 = { s with outbox := s.outbox ++ rows } ∧
        Settled s.outbox d now n (transport sent.length n)
          (s.handOver transport now d sent n).1.arrival rows := by
  cases hf : transport sent.length n with
  | none =>
    rw [handOver_delivered hf]
    exact ⟨rfl, [], by simp only [List.append_nil], .arrived⟩
  | some f =>
    by_cases ht : Taken s.outbox (d.retryKey n.resource)
    · rw [handOver_suppressed hf ht]
      exact ⟨rfl, [], by simp only [List.append_nil], .suppressed ht⟩
    · rw [handOver_recorded hf ht]
      exact ⟨rfl, _, rfl, .recorded ht (repeats_ofRetry _ hn)⟩

/-! ## All deliveries of an event -/

theorem handOverAll_cons (sent : List Notice) (n : Notice) (rest : List Notice) :
    handOverAll transport now d s sent (n :: rest) =
      ((s.handOver transport now d sent n).1 ::
          (handOverAll transport now d (s.handOver transport now d sent n).2.1 (sent ++ [n])
            rest).1,
        (handOverAll transport now d (s.handOver transport now d sent n).2.1 (sent ++ [n])
          rest).2) := by
  rw [← handOver_sent s transport now d sent n]
  rfl

/-- Of a transport only the answers to these notices, each under its count, play a part. -/
theorem handOverAll_congr {other : Transport} {ns : List Notice} (s : Store) (sent : List Notice)
    (h : ∀ j n, ns[j]? = some n →
      other (sent.length + j) n = transport (sent.length + j) n) :
    handOverAll other now d s sent ns = handOverAll transport now d s sent ns := by
  induction ns generalizing s sent with
  | nil => rfl
  | cons n rest ih =>
    have hn : other sent.length n = transport sent.length n := h 0 n rfl
    have h₀ : s.handOver other now d sent n = s.handOver transport now d sent n := by
      simp only [handOver, Transport.give, hn]
    rw [handOverAll_cons, handOverAll_cons, h₀, ih _ (sent ++ [n]) fun j m hm => ?_]
    rw [length_concat_add]
    exact h (j + 1) m hm

/-- **Deliveries to different resources** do not meet in the outbox: what comes of each is
measured against the outbox before the first. -/
theorem handOverAll_settled (transport : Transport) (now : Timestamp) {ns : List Notice}
    (hn : ∀ n ∈ ns, d.IsNotice n) (hd : (ns.map Notice.resource).Nodup) (s : Store)
    (sent : List Notice) :
    (handOverAll transport now d s sent ns).1.map Handover.resource = ns.map Notice.resource ∧
      ∃ rows : List (List RetryRow),
        (handOverAll transport now d s sent ns).2.1 =
            { s with outbox := s.outbox ++ rows.flatten } ∧
          rows.length = ns.length ∧
          ∀ j n, ns[j]? = some n → ∃ hd added,
            (handOverAll transport now d s sent ns).1[j]? = some hd ∧ rows[j]? = some added ∧
              Settled s.outbox d now n (transport (sent.length + j) n) hd.arrival added := by
  induction ns generalizing s sent with
  | nil =>
    refine ⟨rfl, [], ?_, rfl, fun j n h => by simp at h⟩
    simp only [handOverAll, List.flatten_nil, List.append_nil]
  | cons n rest ih =>
    obtain ⟨hr, rows₀, hs₀, h₀⟩ :=
      handOver_settled s transport now (hn n List.mem_cons_self) sent
    rw [List.map_cons, List.nodup_cons] at hd
    obtain ⟨hm, rows, hs, hl, h⟩ := ih (fun m hm => hn m (List.mem_cons_of_mem _ hm)) hd.2
      (s.handOver transport now d sent n).2.1 (sent ++ [n])
    rw [handOverAll_cons]
    refine ⟨by rw [List.map_cons, List.map_cons, hr, hm], rows₀ :: rows, ?_, by simp [hl], ?_⟩
    · rw [hs, hs₀]
      simp only [List.flatten_cons, List.append_assoc]
    · intro j m hj
      cases j with
      | zero =>
        obtain rfl : n = m := by simpa using hj
        exact ⟨_, rows₀, rfl, rfl, h₀⟩
      | succ j =>
        obtain ⟨hd', added, h₁, h₂, h₃⟩ := h j m (by simpa using hj)
        rw [length_concat_add] at h₃
        refine ⟨hd', added, by simpa using h₁, by simpa using h₂, h₃.congr ?_⟩
        -- the rows of the first delivery stand under a key of another resource
        have hne : n.resource ≠ m.resource := fun he =>
          hd.1 (he ▸ List.mem_map_of_mem (List.mem_of_getElem? (by simpa using hj)))
        rw [hs₀, taken_append]
        refine ⟨fun ht => ht.resolve_right ?_, .inl⟩
        rintro ⟨row, hrow, -, hk⟩
        exact hne ((h₀.hasKey row hrow).resource_eq hk)

theorem notices_ok {e : Event} {ns : List Notice} (h : s.notices now e d = .ok ns) :
    (∀ n ∈ ns, d.IsNotice n) ∧ (ns.map Notice.resource).Nodup := by
  have hi : ∀ t assessor resource, d.IsNotice (d.notice t assessor resource) :=
    fun t assessor resource => ⟨t, assessor, by simp⟩
  unfold notices at h
  split at h
  · obtain ⟨assessor, -, h⟩ := Except.bind_eq_ok_iff.1 h
    cases h
    simp [hi]
  · split at h
    · obtain ⟨assessor, -, h⟩ := Except.bind_eq_ok_iff.1 h
      cases h
      simp [hi]
    · cases h
      simp [hi]
  · cases h
    simp [hi]

/-! ## The whole event -/

/-- Every delivery of an event is accounted for, given how the event is handled under each
transport and the report that it ends in. -/
structure Accounted (s : Store) (handled : Transport → Handled) (transport : Transport)
    (raw : Json) (now : Timestamp) (report : Report) : Prop where
  /-- No answer of the transport keeps a notice from being handed over. -/
  unhindered : ∀ other, (handled other).sent = (handled transport).sent
  /-- The transport is asked for nothing but the notices sent, each under its count. -/
  asked : ∀ other : Transport,
    (∀ i n, (handled transport).sent[i]? = some n → other i n = transport i n) →
      handled other = handled transport
  /-- The deliveries reported are those made, in order. -/
  reported : report.handovers.map Handover.resource =
    (handled transport).sent.map Notice.resource
  /-- Each answer settles how its delivery is reported and which rows it adds to the outbox, where
  nothing else is done. -/
  settled : ∃ rows : List (List RetryRow),
    (handled transport).store.outbox = s.outbox ++ rows.flatten ∧
      rows.length = report.handovers.length ∧
      ∀ i n, (handled transport).sent[i]? = some n → ∃ e d hd added,
        Event.ofJson raw now = .ok e ∧ s.gather e = .ok d ∧ d.learner.id = e.subject ∧
          report.attemptId = some d.attempt.id ∧ d.IsNotice n ∧
          report.handovers[i]? = some hd ∧ rows[i]? = some added ∧
          Settled s.outbox d now n (transport i n) hd.arrival added ∧
          (hd.arrival ≠ .delivered →
            Taken (handled transport).store.outbox (d.retryKey n.resource))

theorem accounted_of_silence {handled : Transport → Handled} {done : Handled} {raw : Json}
    {report : Report} (hh : ∀ transport, handled transport = done) (hs : done.sent = [])
    (hr : report.handovers = []) (ho : done.store.outbox = s.outbox) :
    s.Accounted handled transport raw now report where
  unhindered other := by rw [hh, hh]
  asked other _ := by rw [hh, hh]
  reported := by rw [hh, hs, hr]; rfl
  settled := by
    refine ⟨[], ?_, by rw [hr]; rfl, fun i n hi => ?_⟩
    · rw [hh, ho, List.flatten_nil, List.append_nil]
    · rw [hh, hs] at hi
      cases hi

/-- **No failed delivery is lost.** -/
theorem no_failed_delivery_lost {role : Int} {raw : Json} {actor : Option UserId}
    {report : Report} (h : (s.handle transport role raw actor now).result = .ok report) :
    s.Accounted (s.handle · role raw actor now) transport raw now report := by
  rcases handle_ok h with ⟨kind, attemptId, reason, hskip⟩ | ⟨e, d, he, hg, -, hf⟩
  · rw [hskip] at h
    cases h
    exact accounted_of_silence hskip rfl rfl rfl
  · have h' := h
    rw [hf] at h'
    obtain ⟨b, s₁, hb, hend⟩ := followUp_ok h'
    -- keeping the books leaves the outbox as it was
    have ho : s₁.outbox = s.outbox := by rw [keepBooks_footprint hb]
    rcases hend with ⟨reason, -, hend⟩ | ⟨ns, -, hns, hend⟩
    · have hh : ∀ transport, s.handle transport role raw actor now = _ :=
        fun transport => (hf transport).trans (hend transport)
      rw [hh] at h
      cases h
      exact accounted_of_silence hh rfl rfl ho
    · have hh : ∀ transport, s.handle transport role raw actor now = _ :=
        fun transport => (hf transport).trans (hend transport)
      obtain ⟨hn, hd⟩ := notices_ok hns
      obtain ⟨hm, rows, hs, hl, hall⟩ := handOverAll_settled transport now hn hd s₁ []
      rw [hh] at h
      cases h
      refine ⟨fun other => by rw [hh, hh], fun other hother => ?_, ?_, rows, ?_, ?_, ?_⟩
      · rw [hh] at hother
        rw [hh, hh, handOverAll_congr s₁ [] (by simpa using hother)]
      · rw [hh]
        exact hm
      · rw [hh]
        dsimp only
        rw [hs, ho]
      · rw [hl, ← List.length_map, ← hm, List.length_map]
      · intro i n hi
        rw [hh] at hi
        obtain ⟨hd', added, h₁, h₂, h₃⟩ := hall i n hi
        rw [List.length_nil, Nat.zero_add] at h₃
        refine ⟨e, d, hd', added, he, hg, gather_learner hg, rfl,
          hn n (List.mem_of_getElem? hi), h₁, h₂, ho ▸ h₃, fun hne => ?_⟩
        rw [hh]
        dsimp only
        rw [hs]
        obtain ⟨row, hrow, hk⟩ := h₃.taken hne
        refine ⟨row, ?_, hk⟩
        rcases List.mem_append.1 hrow with hrow | hrow
        · exact List.mem_append_left _ hrow
        · exact List.mem_append_right _
            (List.mem_flatten.2 ⟨added, List.mem_of_getElem? h₂, hrow⟩)

/-- A full score, reported before: that delivery failed and is still to be repeated. -/
def reportedOnce : Store :=
  { Sample.people with
    assessments := [Sample.assessment "Written Assessment v2" .other]
    attempts := [.ofAttempt (Sample.attempt 42 1 (some 10))]
    outbox := [{ id := 1, learnerId := 3, learnerExternalId := "EXT-3", courseId := 9,
                 courseExternalId := "CRS-9", assessmentName := "Written Assessment",
                 timeComplete := 1700000642, attemptId := 42, status := .pending,
                 timeAdded := 1700000700, resourceTag := "quizattempts" }] }

/-- Both deliveries time out, and the first has its retry already. -/
def bothTimedOut : Report where
  kind := some .attemptUpdated
  attemptId := some 42
  queue := some .unchanged
  handovers := [⟨.attempts, .failed "delivery timed out" .duplicateSuppressed⟩,
    ⟨.activities, .failed "delivery timed out" .recorded⟩]

theorem accounted_bothTimedOut :
    (reportedOnce.handle (fun _ _ => some .timeout) Sample.graderRole (Sample.submission 42 3)
        none 1700100000).result = .ok bothTimedOut ∧
      reportedOnce.Accounted
        (reportedOnce.handle · Sample.graderRole (Sample.submission 42 3) none 1700100000)
        (fun _ _ => some .timeout) (Sample.submission 42 3) 1700100000 bothTimedOut := by
  have h : (reportedOnce.handle (fun _ _ => some .timeout) Sample.graderRole
      (Sample.submission 42 3) none 1700100000).result = .ok bothTimedOut :=
    Except.ok_of_toOption (by decide +kernel)
  exact ⟨h, no_failed_delivery_lost h⟩

end Store

end GradeRelay
