import GradeRelay.Proofs.Redelivery.Books
import GradeRelay.Proofs.Redelivery.Retries
/-!
# Events that are delivered again

One event is handled any number of times in a row, each time with another transport, by another
actor and at another time. Which rows it is about does not change with that, so the books come to
rest, and all its retries are those of one dossier.

* `handle_admitted`, `handle_of_not_admits`: an event is admitted every time or never;
* `Steady.redeliver`: each handling lowers what is due by one;
* **`redelivery_converges`**: three handlings bring the books to rest, and the outbox gains one row
  for each resource at most.
-/

namespace GradeRelay

theorem Event.ofJson_ok {raw : Json} {now : Timestamp} {e : Event} (h : ofJson raw now = .ok e)
    (now' : Timestamp) : ofJson raw now' = .ok { e with occurredAt := timeOf raw now' } := by
  unfold ofJson at h ⊢
  split at h
  · cases h
  · next kind hkind =>
    split at h
    · next subject courseId target hm hs hc ht =>
      cases h
      rfl
    · cases h

/-- Nothing changed in the books. -/
structure Report.Quiet (r : Report) : Prop where
  queue : r.queue = none ∨ r.queue = some .unchanged
  carried : r.carried = 0
  allowance : r.allowance = none ∨ ∃ n, r.allowance = some (.unchanged n)

namespace Store

variable {s s' : Store} {transport : Transport} {role : Int} {raw : Json} {actor : Option UserId}
  {now : Timestamp} {kind : Event.Kind} {d : Dossier} {e : Event} {o : Occasion} {report : Report}
  {k : Nat}

/-! ## Admission -/

/-- The event is followed up with these rows, whenever it is handled. -/
def Admits (s : Store) (raw : Json) (kind : Event.Kind) (d : Dossier) : Prop :=
  ∃ e, Event.ofJson raw 0 = .ok e ∧ e.kind = kind ∧ s.gather e = .ok d ∧ s.refusal? kind d = none

theorem handle_admitted (transport : Transport) (role : Int) (actor : Option UserId)
    (now : Timestamp) (ha : s.Admits raw kind d) : ∃ o e, e.kind = kind ∧
    s.handle transport role raw actor now = s.followUp transport o e d := by
  obtain ⟨e, he, rfl, hg, hr⟩ := ha
  have he' := Event.ofJson_ok he now
  have hg' : s.gather { e with occurredAt := Event.timeOf raw now } = .ok d := hg
  refine ⟨⟨(actor.or e.actor).getD e.subject, now, role⟩,
    { e with occurredAt := Event.timeOf raw now }, rfl, ?_⟩
  simp only [handle, he', hg', hr]

theorem handle_of_not_admits (hn : ∀ kind d, ¬ s.Admits raw kind d)
    (h : (s.handle transport role raw actor now).result = .ok report) :
    (s.handle transport role raw actor now).store = s ∧ report.Quiet := by
  rcases handle_ok h with ⟨kind, attemptId, reason, hskip⟩ | ⟨e, d, he, hg, hr, -⟩
  · rw [hskip] at h ⊢
    cases h
    exact ⟨rfl, .inl rfl, rfl, .inl rfl⟩
  · exact absurd ⟨_, Event.ofJson_ok he 0, rfl, hg, hr⟩ (hn e.kind d)

/-- **An admitted event** has its books kept, and besides that adds retries of its dossier. -/
theorem handle_books (ha : s.Admits raw kind d)
    (h : (s.handle transport role raw actor now).result = .ok report) :
    ∃ o b s₁ outbox, s.keepBooks o kind d = (.ok b, s₁) ∧
      (s.handle transport role raw actor now).store = { s₁ with outbox := outbox } ∧
      Kept d s.outbox outbox ∧ report.queue = b.queue ∧ report.allowance = b.allowance ∧
      report.carried = b.carried := by
  obtain ⟨o, e, rfl, hfollow⟩ := handle_admitted transport role actor now ha
  rw [hfollow] at h ⊢
  obtain ⟨b, s₁, hb, hend⟩ := followUp_ok h
  have ho : s₁.outbox = s.outbox := by rw [keepBooks_footprint hb]
  rcases hend with ⟨reason, -, hend⟩ | ⟨ns, -, -, hend⟩
  · rw [hend] at h ⊢
    cases h
    exact ⟨o, b, s₁, s₁.outbox, hb, rfl, ho ▸ .nothing, rfl, rfl, rfl⟩
  · obtain ⟨outbox, hs, hkept⟩ := handOverAll_kept transport o.now d s₁ [] ns
    rw [hend] at h ⊢
    cases h
    exact ⟨o, b, s₁, outbox, hb, hs, ho ▸ hkept, rfl, rfl, rfl⟩

theorem Admits.frame (ha : s.Admits raw kind d)
    (hs : s' = { s with queue := s'.queue, allowances := s'.allowances, steps := s'.steps,
                        notes := s'.notes, outbox := s'.outbox }) : s'.Admits raw kind d := by
  rw [hs]
  exact ha

theorem Steady.with_outbox (hs : s.Steady kind d k) (outbox : List RetryRow) :
    { s with outbox := outbox }.Steady kind d k := by
  cases kind with
  | questionGraded | attemptUpdated => exact hs
  | completionUpdated => trivial

/-! ## One handling -/

theorem handle_steady (hk : s.Keyed) (ha : s.Admits raw kind d)
    (h : (s.handle transport role raw actor now).result = .ok report) :
    (s.handle transport role raw actor now).store.Admits raw kind d ∧
      (s.handle transport role raw actor now).store.Steady kind d 2 ∧
      Kept d s.outbox (s.handle transport role raw actor now).store.outbox := by
  obtain ⟨o, b, s₁, outbox, hb, hs, hkept, -⟩ := handle_books ha h
  rw [hs]
  refine ⟨ha.frame ?_, (keepBooks_steady hk hb).with_outbox outbox, hkept⟩
  rw [keepBooks_footprint hb]

/-- **A later handling** changes the review at most, and that only while a change is due. -/
theorem Steady.handle (hs : s.Steady kind d k) (ha : s.Admits raw kind d)
    (h : (s.handle transport role raw actor now).result = .ok report) :
    (s.handle transport role raw actor now).store.Steady kind d (k - 1) ∧
      (∃ queue outbox, (s.handle transport role raw actor now).store =
        { s with queue := queue, outbox := outbox } ∧ (k = 0 → queue = s.queue) ∧
          Kept d s.outbox outbox) ∧
      (k = 0 → report.Quiet) := by
  obtain ⟨o, b, s₁, outbox, hb, hs₁, hkept, hq, hal, hc⟩ := handle_books ha h
  obtain ⟨hsteady, hf, hcarried, hallowance, hzero⟩ := hs.keepBooks hb
  rw [hs₁]
  refine ⟨hsteady.with_outbox outbox, ⟨s₁.queue, outbox, by rw [hf], fun hk => ?_, hkept⟩,
    fun hk => ⟨hq ▸ (hzero hk).2, hc ▸ hcarried, hal ▸ hallowance⟩⟩
  rw [(hzero hk).1]

/-! ## Many handlings -/

/-- What may differ from one handling of an event to the next: what the transport answers, who is
given as the actor, and when it is. -/
structure Round where
  transport : Transport
  actor : Option UserId
  now : Timestamp

/-- Handles one event round after round, as long as each ends in a report. -/
def redeliver (role : Int) (raw : Json) (s : Store) : List Round →
    Except Fault (List Report × Store)
  | [] => .ok ([], s)
  | c :: rest =>
    let handled := s.handle c.transport role raw c.actor c.now
    match handled.result with
    | .error f => .error f
    | .ok report => (redeliver role raw handled.store rest).map fun r => (report :: r.1, r.2)

variable {rounds : List Round} {reports : List Report}

theorem redeliver_cons {c : Round} (h : redeliver role raw s (c :: rounds) = .ok (reports, s')) :
    ∃ report late, (s.handle c.transport role raw c.actor c.now).result = .ok report ∧
      redeliver role raw (s.handle c.transport role raw c.actor c.now).store rounds =
        .ok (late, s') ∧ reports = report :: late := by
  simp only [redeliver] at h
  split at h
  · cases h
  · next report hreport =>
    cases hrest : redeliver role raw (s.handle c.transport role raw c.actor c.now).store rounds with
    | error f =>
      rw [hrest] at h
      cases h
    | ok r =>
      rw [hrest] at h
      cases h
      exact ⟨report, r.1, hreport, rfl, rfl⟩

theorem redeliver_append {first rest : List Round}
    (h : redeliver role raw s (first ++ rest) = .ok (reports, s')) :
    ∃ early s₁ late, redeliver role raw s first = .ok (early, s₁) ∧
      redeliver role raw s₁ rest = .ok (late, s') ∧ reports = early ++ late ∧
      early.length = first.length := by
  induction first generalizing s reports with
  | nil => exact ⟨[], s, reports, rfl, h, rfl, rfl⟩
  | cons c first ih =>
    obtain ⟨report, late, hreport, hlate, rfl⟩ := redeliver_cons h
    obtain ⟨early, s₁, late', hearly, hlate', rfl, hlen⟩ := ih hlate
    refine ⟨report :: early, s₁, late', ?_, hlate', rfl, by simp [hlen]⟩
    simp only [redeliver, hreport, hearly, Except.map]

theorem redeliver_of_not_admits (hn : ∀ kind d, ¬ s.Admits raw kind d)
    (h : redeliver role raw s rounds = .ok (reports, s')) :
    s' = s ∧ ∀ r ∈ reports, r.Quiet := by
  induction rounds generalizing reports with
  | nil =>
    cases h
    exact ⟨rfl, fun _ hr => (nomatch hr)⟩
  | cons c rest ih =>
    obtain ⟨report, late, hreport, hlate, rfl⟩ := redeliver_cons h
    obtain ⟨hs, hquiet⟩ := handle_of_not_admits hn hreport
    rw [hs] at hlate
    obtain ⟨hs', hrest⟩ := ih hlate
    exact ⟨hs', List.forall_mem_cons.2 ⟨hquiet, hrest⟩⟩

/-- **Further rounds** do the changes of the review that are due, one a round, and no others. -/
theorem Steady.redeliver (hs : s.Steady kind d k) (ha : s.Admits raw kind d)
    (h : redeliver role raw s rounds = .ok (reports, s')) :
    s'.Admits raw kind d ∧ s'.Steady kind d (k - rounds.length) ∧
      (∃ queue outbox, s' = { s with queue := queue, outbox := outbox } ∧
        (k = 0 → queue = s.queue) ∧ Kept d s.outbox outbox) ∧
      (k = 0 → ∀ r ∈ reports, r.Quiet) := by
  induction rounds generalizing s k reports with
  | nil =>
    cases h
    exact ⟨ha, hs, ⟨_, _, rfl, fun _ => rfl, .nothing⟩, fun _ _ hr => (nomatch hr)⟩
  | cons c rest ih =>
    obtain ⟨report, late, hreport, hlate, rfl⟩ := redeliver_cons h
    obtain ⟨hs₁, ⟨queue, outbox, heq, hqueue, hkept⟩, hquiet⟩ := hs.handle ha hreport
    rw [heq] at hs₁ hlate
    obtain ⟨ha', hs', ⟨queue', outbox', rfl, hqueue', hkept'⟩, hquiet'⟩ :=
      ih hs₁ (ha.frame rfl) hlate
    refine ⟨ha', ?_, ⟨queue', outbox', rfl, fun hk => ?_, hkept.trans hkept'⟩, fun hk => ?_⟩
    · rw [List.length_cons, Nat.add_comm, ← Nat.sub_sub]
      exact hs'
    · rw [hqueue' (by omega)]
      exact hqueue hk
    · exact List.forall_mem_cons.2 ⟨hquiet hk, hquiet' (by omega)⟩

theorem redeliver_kept (hk : s.Keyed) (ha : s.Admits raw kind d)
    (h : redeliver role raw s rounds = .ok (reports, s')) : Kept d s.outbox s'.outbox := by
  cases rounds with
  | nil =>
    cases h
    exact .nothing
  | cons c rest =>
    obtain ⟨report, late, hreport, hlate, rfl⟩ := redeliver_cons h
    obtain ⟨ha₁, hs₁, hkept⟩ := handle_steady hk ha hreport
    obtain ⟨-, -, ⟨queue, outbox, rfl, -, hkept'⟩, -⟩ := hs₁.redeliver ha₁ hlate
    exact hkept.trans hkept'

theorem redeliver_steady_zero (hk : s.Keyed) (ha : s.Admits raw kind d) (hthree : rounds.length = 3)
    (h : redeliver role raw s rounds = .ok (reports, s')) :
    s'.Admits raw kind d ∧ s'.Steady kind d 0 := by
  cases rounds with
  | nil => cases hthree
  | cons c rest =>
    obtain ⟨report, late, hreport, hlate, rfl⟩ := redeliver_cons h
    obtain ⟨ha₁, hs₁, -⟩ := handle_steady hk ha hreport
    obtain ⟨ha', hs', -⟩ := hs₁.redeliver ha₁ hlate
    rw [List.length_cons, Nat.succ_inj] at hthree
    rw [hthree] at hs'
    exact ⟨ha', hs'⟩

/-- **Redelivered events converge.** After the third round nothing changes any more but the outbox,
and over all rounds that gains one row at most for each resource. -/
theorem redelivery_converges (hk : s.Keyed)
    (h : redeliver role raw s rounds = .ok (reports, s')) :
    (∃ added, s'.outbox = s.outbox ++ added ∧ (added.map (·.resourceTag)).Nodup) ∧
      ∃ early s₃, redeliver role raw s (rounds.take 3) = .ok (early, s₃) ∧
        s' = { s₃ with outbox := s'.outbox } ∧ ∀ r ∈ reports.drop 3, r.Quiet := by
  have hsplit := h
  rw [← List.take_append_drop 3 rounds] at hsplit
  obtain ⟨early, s₃, late, hearly, hlate, rfl, hlen⟩ := redeliver_append hsplit
  by_cases hadmits : ∃ kind d, s.Admits raw kind d
  · obtain ⟨kind, d, ha⟩ := hadmits
    obtain ⟨added, hadded, -, hnodup⟩ := (redeliver_kept hk ha h).distinct
    refine ⟨⟨added, hadded, hnodup⟩, early, s₃, hearly, ?_⟩
    by_cases hthree : (rounds.take 3).length = 3
    · obtain ⟨ha₃, hs₃⟩ := redeliver_steady_zero hk ha hthree hearly
      obtain ⟨-, -, ⟨queue, outbox, rfl, hqueue, -⟩, hquiet⟩ := hs₃.redeliver ha₃ hlate
      refine ⟨by rw [hqueue rfl], ?_⟩
      rw [← hthree, ← hlen, List.drop_left]
      exact hquiet rfl
    · -- with fewer rounds none is left
      have hshort : rounds.length < 3 := by
        rw [List.length_take] at hthree
        omega
      rw [List.drop_eq_nil_of_le (by omega)] at hlate
      cases hlate
      refine ⟨rfl, fun r hr => ?_⟩
      rw [List.append_nil, List.drop_eq_nil_of_le (by rw [hlen, List.length_take]; omega)] at hr
      cases hr
  · have hn : ∀ kind d, ¬ s.Admits raw kind d := fun kind d ha => hadmits ⟨kind, d, ha⟩
    obtain ⟨rfl, hquiet⟩ := redeliver_of_not_admits hn h
    obtain ⟨rfl, -⟩ := redeliver_of_not_admits hn hearly
    refine ⟨⟨[], by rw [List.append_nil], .nil⟩, early, _, hearly, rfl, fun r hr => ?_⟩
    exact hquiet r (List.mem_of_mem_drop hr)

/-- Four submissions of a graded attempt in a row, with no answer from the records service. -/
def fourRounds : List Round :=
  [7, 2, 7, 2].map fun actor => ⟨fun _ _ => some .timeout, some actor, 1700100000⟩

theorem redelivery_converges_fourRounds : ∃ reports s' early s₃,
    redeliver Sample.graderRole (Sample.submission 42 3) (Sample.decided (some 6)) fourRounds =
        .ok (reports, s') ∧
      redeliver Sample.graderRole (Sample.submission 42 3) (Sample.decided (some 6))
        (fourRounds.take 3) = .ok (early, s₃) ∧
      s' = { s₃ with outbox := s'.outbox } ∧
      reports.map (·.queue) =
        [some (.start (some 7) none), some (.finish 2), some .unchanged, some .unchanged] := by
  have hr : ((redeliver Sample.graderRole (Sample.submission 42 3) (Sample.decided (some 6))
      fourRounds).toOption.map fun r => r.1.map (·.queue)) =
        some [some (.start (some 7) none), some (.finish 2), some .unchanged, some .unchanged] := by
    decide +kernel
  obtain ⟨⟨reports, s'⟩, h, hqueue⟩ := Option.map_eq_some_iff.1 hr
  have h' := Except.ok_of_toOption h
  have hk : (Sample.decided (some 6)).Keyed := by
    unfold Keyed
    decide
  obtain ⟨-, early, s₃, hearly, hsame, -⟩ := redelivery_converges hk h'
  exact ⟨reports, s', early, s₃, h', hearly, hsame, hqueue⟩

end Store

end GradeRelay
