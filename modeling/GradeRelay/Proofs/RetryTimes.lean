import GradeRelay.Proofs.Delivery
/-!
# The time that a retry keeps

A notice gives a time as that of the last change: an attempt's is in its row, an activity's is the
time of the event where a completion changed, else the time now. What a failed delivery leaves in
the outbox keeps one time, and it is taken from the row of the attempt whichever notice failed.

* `Notice.toldTime?_eq`, `notices_told`: the time that a notice of an event gives;
* `handOverAll_retries`: which rows the deliveries of an event add;
* **`retry_times`**: the time in a row that was added, beside the time that its notice gave;
* `not_keepsToldTimes_submittedOffline`: the two times differ.
-/

namespace GradeRelay

/-! ## The time that a notice gives -/

/-- The key of the time of the last change in what is sent to a resource. -/
def Resource.timeKey : Resource → String
  | .attempts => "timemodified"
  | .activities => "modified"

/-- What the body of a notice gives as the time of the last change. -/
def Notice.toldTime? (n : Notice) : Option Json := n.toJson.get? n.resource.timeKey

@[simp]
theorem Notice.toldTime?_eq (n : Notice) : n.toldTime? = some (.int n.modified) := by
  cases n <;> rfl

theorem Notice.toldTime?_eq_iff {n : Notice} {t : Timestamp} :
    n.toldTime? = some (.int t) ↔ n.modified = t := by
  rw [toldTime?_eq]
  simp [Json.int]

/-- The time that an event gives to a resource as that of the last change. -/
def Event.toldTime (e : Event) (d : Dossier) (now : Timestamp) : Resource → Timestamp
  | .attempts => d.attempt.timeModified
  | .activities => if e.kind = .completionUpdated then e.occurredAt else now

/-- A row of the outbox in relation to the delivery whose failure it keeps. -/
structure RetryRow.KeptFor (row : RetryRow) (transport : Transport) (sent : List Notice)
    (e : Event) (d : Dossier) (now : Timestamp) (i : Nat) (n : Notice) : Prop where
  sent : sent[i]? = some n
  failed : ∃ f, transport i n = some f
  hasKey : row.HasKey (d.retryKey n.resource)
  timeAdded : row.timeAdded = now
  /-- The row keeps the time in the row of the attempt. -/
  kept : row.timeComplete = d.attempt.timeModified
  /-- The body gave the time that is for its resource. -/
  told : n.toldTime? = some (.int (e.toldTime d now n.resource))

/-- Every row that was added to the outbox keeps the time that the body of its notice gave. -/
def Handled.KeepsToldTimes (handled : Handled) (s : Store) (transport : Transport) : Prop :=
  ∀ rows, handled.store.outbox = s.outbox ++ rows → ∀ row ∈ rows, ∀ (i : Nat) (n : Notice),
    handled.sent[i]? = some n → (transport i n).isSome = true →
      row.resourceTag = n.resource.tag → n.toldTime? = some (.int row.timeComplete)

namespace Store

variable {s : Store} {e : Event} {d : Dossier} {now : Timestamp} {ns : List Notice}

theorem notices_told (h : s.notices now e d = .ok ns) :
    ∀ n ∈ ns, n.modified = e.toldTime d now n.resource := by
  unfold notices at h
  split at h
  · next hkind =>
    obtain ⟨assessor, -, h⟩ := Except.bind_eq_ok_iff.1 h
    cases h
    rw [List.forall_mem_singleton]
    simp only [Event.toldTime, hkind, Dossier.resource_notice]
    rfl
  · next hkind =>
    split at h
    · obtain ⟨assessor, -, h⟩ := Except.bind_eq_ok_iff.1 h
      cases h
      rw [List.forall_mem_cons, List.forall_mem_singleton]
      simp only [Event.toldTime, hkind, Dossier.resource_notice]
      exact ⟨rfl, rfl⟩
    · cases h
      rw [List.forall_mem_singleton]
      rfl
  · next hkind =>
    cases h
    rw [List.forall_mem_singleton]
    simp only [Event.toldTime, hkind, Dossier.resource_notice]
    rfl

/-! ## The rows that failed deliveries add -/

theorem handOver_retries (transport : Transport) (now : Timestamp) (d : Dossier) (s : Store)
    (sent : List Notice) (n : Notice) :
    ∃ rows, (s.handOver transport now d sent n).2.1.outbox = s.outbox ++ rows ∧
      ∀ row ∈ rows, ∃ f id, transport sent.length n = some f ∧
        row = .ofRetry id (d.retry now n.resource) := by
  cases hanswer : transport sent.length n with
  | none =>
    rw [handOver_delivered hanswer]
    exact ⟨[], (List.append_nil _).symm, List.forall_mem_nil _⟩
  | some f =>
    by_cases ht : Taken s.outbox (d.retryKey n.resource)
    · rw [handOver_suppressed hanswer ht]
      exact ⟨[], (List.append_nil _).symm, List.forall_mem_nil _⟩
    · rw [handOver_recorded hanswer ht]
      exact ⟨_, rfl, List.forall_mem_singleton.2 ⟨f, _, rfl, rfl⟩⟩

/-- **Each row that deliveries add** is what the failure of one of the notices leaves. -/
theorem handOverAll_retries (transport : Transport) (now : Timestamp) (d : Dossier) (s : Store)
    (sent ns : List Notice) :
    ∃ rows, (handOverAll transport now d s sent ns).2.1.outbox = s.outbox ++ rows ∧
      ∀ row ∈ rows, ∃ j n f id, ns[j]? = some n ∧ transport (sent.length + j) n = some f ∧
        row = .ofRetry id (d.retry now n.resource) := by
  induction ns generalizing s sent with
  | nil => exact ⟨[], (List.append_nil _).symm, List.forall_mem_nil _⟩
  | cons n rest ih =>
    obtain ⟨first, hfirst, hnew⟩ := handOver_retries transport now d s sent n
    obtain ⟨later, hlater, hrest⟩ := ih (s.handOver transport now d sent n).2.1 (sent ++ [n])
    refine ⟨first ++ later, ?_, fun row hrow => ?_⟩
    · rw [handOverAll_cons, hlater, hfirst, List.append_assoc]
    · rcases List.mem_append.1 hrow with hrow | hrow
      · obtain ⟨f, id, hf, rfl⟩ := hnew row hrow
        exact ⟨0, n, f, id, rfl, hf, rfl⟩
      · obtain ⟨j, m, f, id, hm, hf, rfl⟩ := hrest row hrow
        refine ⟨j + 1, m, f, id, hm, ?_, rfl⟩
        rw [length_concat_add] at hf
        exact hf

/-- **Following up an event** adds to the outbox only what its failed deliveries leave. -/
theorem followUp_retries (s : Store) (transport : Transport) (o : Occasion) (e : Event)
    (d : Dossier) : ∃ rows, (s.followUp transport o e d).store.outbox = s.outbox ++ rows ∧
      ∀ row ∈ rows, ∃ i n,
        row.KeptFor transport (s.followUp transport o e d).sent e d o.now i n := by
  have hbooks : (s.keepBooks o e.kind d).2.outbox = s.outbox := by rw [keepBooks_tables]
  rcases followUp_cases s transport o e d with ⟨result, hend, -⟩ | ⟨report, ns, hn, hend⟩
  · rw [hend]
    exact ⟨[], hbooks.trans (List.append_nil _).symm, List.forall_mem_nil _⟩
  · obtain ⟨rows, hrows, hretries⟩ :=
      handOverAll_retries transport o.now d (s.keepBooks o e.kind d).2 [] ns
    rw [hend]
    refine ⟨rows, hrows.trans (congrArg (· ++ rows) hbooks), fun row hrow => ?_⟩
    obtain ⟨i, n, f, id, hsent, hfailed, rfl⟩ := hretries row hrow
    rw [List.length_nil, Nat.zero_add] at hfailed
    refine ⟨i, n, hsent, ⟨f, hfailed⟩, RetryRow.hasKey_ofRetry id _, rfl, rfl, ?_⟩
    simp [notices_told hn n (List.mem_of_getElem? hsent)]

/-- **The times of retries.** However the handling of an event ends, each row that it added to the
outbox was kept for a notice of the event that did not arrive, under the key of that notice. It
keeps the time in the attempt's row, to whichever resource the notice went. So it keeps the time
that the notice gave if this was about the attempt; if it was about the activity, just when the
attempt was last changed at the time of the completion or, for another event, at the time now. -/
theorem retry_times (s : Store) (transport : Transport) (role : Int) (raw : Json)
    (actor : Option UserId) (now : Timestamp) :
    ∃ rows, (s.handle transport role raw actor now).store.outbox = s.outbox ++ rows ∧
      ∀ row ∈ rows, ∃ e d i n, Event.ofJson raw now = .ok e ∧ s.gather e = .ok d ∧
        row.KeptFor transport (s.handle transport role raw actor now).sent e d now i n ∧
        (n.toldTime? = some (.int row.timeComplete) ↔
          (n.resource = .activities →
            (if e.kind = .completionUpdated then e.occurredAt else now) =
              d.attempt.timeModified)) := by
  rcases handle_cases s transport role raw actor now with ⟨result, hend, -⟩ | ⟨e, d, he, hg, -, hf⟩
  · rw [hend]
    exact ⟨[], (List.append_nil _).symm, List.forall_mem_nil _⟩
  · rw [hf]
    obtain ⟨rows, hrows, hkept⟩ :=
      followUp_retries s transport ⟨(actor.or e.actor).getD e.subject, now, role⟩ e d
    refine ⟨rows, hrows, fun row hrow => ?_⟩
    obtain ⟨i, n, hrow⟩ := hkept row hrow
    refine ⟨e, d, i, n, he, hg, hrow, ?_⟩
    rw [Notice.toldTime?_eq_iff, Notice.toldTime?_eq_iff.1 hrow.told, hrow.kept]
    cases n.resource with
    | attempts => exact ⟨fun _ h => absurd h (by decide), fun _ => rfl⟩
    | activities => exact ⟨fun h _ => h, fun h => h rfl⟩

/-! The attempt was last changed well before its submission is handled, and no notice arrives. -/

/-- The submission is handled while the records service is away. -/
def submittedOffline : Handled :=
  reportedOnce.handle (fun _ _ => some .timeout) Sample.graderRole (Sample.submission 42 3) none
    1700100000

/-- What the notice of the activity leaves. -/
def activityRetry : RetryRow where
  id := 2
  learnerId := 3
  learnerExternalId := "EXT-3"
  courseId := 9
  courseExternalId := "CRS-9"
  assessmentName := "Written Assessment"
  timeComplete := 1700000642
  attemptId := 42
  status := .pending
  timeAdded := 1700100000
  resourceTag := "completeactivities"

theorem not_keepsToldTimes_submittedOffline :
    ¬ submittedOffline.KeepsToldTimes reportedOnce fun _ _ => some .timeout := by
  intro hkeeps
  have hadded : submittedOffline.store.outbox = reportedOnce.outbox ++ [activityRetry] := by
    decide +kernel
  have hactivity : (submittedOffline.sent[1]?.map fun n => (n.resource, n.modified)) =
      some (.activities, 1700100000) := by decide +kernel
  obtain ⟨n, hsent, hn⟩ := Option.map_eq_some_iff.1 hactivity
  obtain ⟨hresource, hmodified⟩ := Prod.mk.inj hn
  have htold : n.modified = activityRetry.timeComplete :=
    Notice.toldTime?_eq_iff.1 (hkeeps _ hadded _ List.mem_cons_self 1 n hsent rfl
      (by rw [hresource]; rfl))
  rw [hmodified] at htold
  exact absurd htold (by decide)

end Store

end GradeRelay
