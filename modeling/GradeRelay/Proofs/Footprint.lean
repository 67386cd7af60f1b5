import GradeRelay.Proofs.Admission
import GradeRelay.Sync.Handling
/-!
# What following up an event writes

Each part of the work writes to the tables that it is named for. A footprint is stated as an
equation between stores, so that every other table is read off from it.

* `track_footprint`, `grantResit_footprint`, `takeOver_footprint`: one part of the books;
* `keepBooks_ok`, `keepBooks_tables`: the books by the kind of event, and the tables that they are;
* `followUp_cases`, `handle_cases`: how the handling of an event goes on, whether or not it fails;
* **`handle_ok`**: an event that ends in a report was skipped before anything was written, or its
  rows were gathered and it was followed up;
* **`handle_ends`**: what became of the store, the report and the notices in each case.
-/

namespace GradeRelay.Store

variable {s s' : Store} {o : Occasion} {a : Attempt} {d : Dossier} {e : Event}

/-! ## The queue -/

theorem applyTransition_footprint (now : Timestamp) (t : Transition) :
    (s.applyTransition now a t).2 = { s with queue := (s.applyTransition now a t).2.queue } := by
  cases t with
  | start assignee prior =>
    simp only [applyTransition, startReview]
    split <;> rfl
  | finish who => rfl
  | relink prior => rfl
  | unchanged => rfl

theorem track_ok {t : Transition} (h : s.track o a = .ok (t, s')) :
    ∃ review obs, s.review? a.id = .ok review ∧ s.observation o a = .ok obs ∧
      (s.applyTransition o.now a (.next review obs) = (true, s') ∧ t = .next review obs ∨
        s.applyTransition o.now a (.next review obs) = (false, s') ∧ t = .unchanged) := by
  unfold track at h
  obtain ⟨review, hr, h⟩ := Except.bind_eq_ok_iff.1 h
  obtain ⟨obs, ho, h⟩ := Except.bind_eq_ok_iff.1 h
  refine ⟨review, obs, hr, ho, ?_⟩
  dsimp only at h
  rcases hw : s.applyTransition o.now a (.next review obs) with ⟨_ | _, s₁⟩
  · rw [hw] at h
    cases h
    exact .inr ⟨rfl, rfl⟩
  · rw [hw] at h
    cases h
    exact .inl ⟨rfl, rfl⟩

theorem track_footprint {t : Transition} (h : s.track o a = .ok (t, s')) :
    s' = { s with queue := s'.queue } := by
  obtain ⟨review, obs, -, -, ⟨hw, -⟩ | ⟨hw, -⟩⟩ := track_ok h
  · have := applyTransition_footprint (s := s) (a := a) o.now (.next review obs)
    rwa [hw] at this
  · have := applyTransition_footprint (s := s) (a := a) o.now (.next review obs)
    rwa [hw] at this

/-! ## Allowances and carried steps -/

theorem raiseAllowance_footprint (assessmentId : AssessmentId) (learnerId : UserId)
    (n : Ordinal) :
    (s.raiseAllowance assessmentId learnerId n).2 =
      { s with allowances := (s.raiseAllowance assessmentId learnerId n).2.allowances } := by
  unfold raiseAllowance
  dsimp only
  split <;> rfl

theorem grantResit_footprint {assessment : Assessment} {change : Option Allowance.Change}
    (h : s.grantResit assessment a = .ok (change, s')) :
    s' = { s with allowances := s'.allowances } := by
  unfold grantResit at h
  split at h
  · split at h
    · cases h
    · cases h
      exact raiseAllowance_footprint _ _ _
  · cases h
    rfl

theorem addCarriedSteps_footprint (s : Store) (cs : List CarriedStep) :
    (s.addCarriedSteps cs).2 =
      { s with steps := (s.addCarriedSteps cs).2.steps
               notes := (s.addCarriedSteps cs).2.notes } := by
  induction cs generalizing s with
  | nil => rfl
  | cons c rest ih =>
    rw [addCarriedSteps]
    split
    · exact ih s
    · exact ih (s.addCarriedStep c)

theorem takeOver_footprint {assessment : Assessment} {n : Nat}
    (h : s.takeOver o assessment a = .ok (n, s')) :
    s' = { s with steps := s'.steps, notes := s'.notes } := by
  unfold takeOver at h
  split at h
  · split at h
    · cases h
    · cases h
      rfl
    · split at h
      · cases h
      · next steps _ =>
        have hs : (s.addCarriedSteps steps).2 = s' := by
          rw [Except.ok.inj h]
        rw [← hs]
        exact addCarriedSteps_footprint s steps
  · cases h
    rfl

/-! ## The books -/

theorem keepBooks_ok {kind : Event.Kind} {b : BookChanges}
    (h : s.keepBooks o kind d = (.ok b, s')) :
    match kind with
    | .questionGraded => ∃ change s₁ t, s.grantResit d.assessment d.attempt = .ok (change, s₁) ∧
        s₁.track o d.attempt = .ok (t, s') ∧ b = { queue := some t, allowance := change }
    | .attemptUpdated => ∃ t s₁ n, s.track o d.attempt = .ok (t, s₁) ∧
        s₁.takeOver o d.assessment d.attempt = .ok (n, s') ∧ b = { queue := some t, carried := n }
    | .completionUpdated => s' = s ∧ b = {} := by
  cases kind with
  | questionGraded =>
    simp only [keepBooks] at h
    split at h
    · cases h
    · next change s₁ hg =>
      split at h
      · cases h
      · next t s₂ ht =>
        cases h
        exact ⟨change, s₁, t, hg, ht, rfl⟩
  | attemptUpdated =>
    simp only [keepBooks] at h
    split at h
    · cases h
    · next t s₁ ht =>
      split at h
      · cases h
      · next n s₂ hn =>
        cases h
        exact ⟨t, s₁, n, ht, hn, rfl⟩
  | completionUpdated =>
    cases h
    exact ⟨rfl, rfl⟩

/-- **The books** are the queue, the allowances and the steps with their notes, also where a fault
left them half kept. -/
theorem keepBooks_tables (s : Store) (o : Occasion) (kind : Event.Kind) (d : Dossier) :
    (s.keepBooks o kind d).2 = { s with
      queue := (s.keepBooks o kind d).2.queue
      allowances := (s.keepBooks o kind d).2.allowances
      steps := (s.keepBooks o kind d).2.steps
      notes := (s.keepBooks o kind d).2.notes } := by
  cases kind with
  | questionGraded =>
    simp only [keepBooks]
    split
    · rfl
    · next change s₁ hg =>
      have h₁ := grantResit_footprint hg
      split
      · rw [h₁]
      · next t s₂ ht =>
        have h₂ := track_footprint ht
        rw [h₁] at h₂
        rw [h₂]
  | attemptUpdated =>
    simp only [keepBooks]
    split
    · rfl
    · next t s₁ ht =>
      have h₁ := track_footprint ht
      split
      · rw [h₁]
      · next n s₂ hn =>
        have h₂ := takeOver_footprint hn
        rw [h₁] at h₂
        rw [h₂]
  | completionUpdated => rfl

theorem keepBooks_footprint {kind : Event.Kind} {b : BookChanges}
    (h : s.keepBooks o kind d = (.ok b, s')) :
    s' = { s with queue := s'.queue, allowances := s'.allowances, steps := s'.steps,
                  notes := s'.notes } := by
  have htables := keepBooks_tables s o kind d
  rwa [h] at htables

/-! ## The whole event -/

variable {transport : Transport} {role : Int} {raw : Json} {actor : Option UserId}
  {now : Timestamp} {report : Report}

/-- **Following up an event** ends with the books as they were brought up to date, and with nothing
sent, or goes on to hand over its notices. A fault stems from the books, or from a stored row. -/
theorem followUp_cases (s : Store) (transport : Transport) (o : Occasion) (e : Event)
    (d : Dossier) :
    (∃ result, s.followUp transport o e d = ⟨result, (s.keepBooks o e.kind d).2, []⟩ ∧
      ∀ f, result = .error f → (s.keepBooks o e.kind d).1 = .error f ∨ ∃ cause, f = .store cause) ∨
    ∃ report ns, (s.keepBooks o e.kind d).2.notices o.now e d = .ok ns ∧
      s.followUp transport o e d =
        ⟨.ok report, (handOverAll transport o.now d (s.keepBooks o e.kind d).2 [] ns).2.1, ns⟩ := by
  rcases hb : s.keepBooks o e.kind d with ⟨f | b, s₁⟩
  · exact .inl ⟨.error f, by simp only [followUp, hb],
      fun f' h => .inl (congrArg Except.error (Except.error.inj h))⟩
  · let report : Report :=
      { kind := some e.kind, attemptId := some d.attempt.id, queue := b.queue,
        allowance := b.allowance, carried := b.carried }
    cases hr : d.refusal? with
    | some reason =>
      exact .inl ⟨.ok { report with skipped := some reason },
        by simp only [followUp, hb, hr, report], fun f h => by cases h⟩
    | none =>
      cases hn : s₁.notices o.now e d with
      | error cause =>
        exact .inl ⟨.error (.store cause), by simp only [followUp, hb, hr, hn],
          fun f h => .inr ⟨cause, (Except.error.inj h).symm⟩⟩
      | ok ns =>
        exact .inr ⟨{ report with handovers := (handOverAll transport o.now d s₁ [] ns).1 }, ns,
          rfl, by simp only [followUp, hb, hr, hn, report, handOverAll_sent, List.nil_append]⟩

/-- **Handling an event** leaves the store as it was, and any fault stems from the rows gathered; or
the event is followed up. -/
theorem handle_cases (s : Store) (transport : Transport) (role : Int) (raw : Json)
    (actor : Option UserId) (now : Timestamp) :
    (∃ result, s.handle transport role raw actor now = ⟨result, s, []⟩ ∧
      ∀ f, result = .error f → ∃ e, s.gather e = .error (.fault f)) ∨
    ∃ e d, Event.ofJson raw now = .ok e ∧ s.gather e = .ok d ∧ s.refusal? e.kind d = none ∧
      s.handle transport role raw actor now =
        s.followUp transport ⟨(actor.or e.actor).getD e.subject, now, role⟩ e d := by
  cases he : Event.ofJson raw now with
  | error reason =>
    exact .inl ⟨.ok { skipped := some reason }, by simp only [handle, he], fun f h => by cases h⟩
  | ok e =>
    cases hg : s.gather e with
    | error halt =>
      cases halt with
      | fault f =>
        exact .inl ⟨.error f, by simp only [handle, he, hg], fun f' h => ⟨e, by cases h; exact hg⟩⟩
      | skip reason =>
        exact .inl ⟨.ok { kind := some e.kind, attemptId := e.namedAttempt?,
                          skipped := some reason },
          by simp only [handle, he, hg], fun f h => by cases h⟩
    | ok d =>
      cases hr : s.refusal? e.kind d with
      | some reason =>
        exact .inl ⟨.ok { kind := some e.kind, attemptId := some d.attempt.id,
                          skipped := some reason },
          by simp only [handle, he, hg, hr], fun f h => by cases h⟩
      | none => exact .inr ⟨e, d, rfl, hg, hr, by simp only [handle, he, hg, hr]⟩

/-- **An event followed up to a report** has its books kept; then it is skipped, or its notices
are handed over. The transport has no part in which of the two. -/
theorem followUp_ok (h : (s.followUp transport o e d).result = .ok report) :
    ∃ b s₁, s.keepBooks o e.kind d = (.ok b, s₁) ∧
      ((∃ reason, d.refusal? = some reason ∧ ∀ transport, s.followUp transport o e d =
          ⟨.ok { kind := some e.kind, attemptId := some d.attempt.id, skipped := some reason,
                 queue := b.queue, allowance := b.allowance, carried := b.carried }, s₁, []⟩) ∨
        ∃ ns, d.refusal? = none ∧ s₁.notices o.now e d = .ok ns ∧
          ∀ transport, s.followUp transport o e d =
            ⟨.ok { kind := some e.kind, attemptId := some d.attempt.id, queue := b.queue,
                   allowance := b.allowance, carried := b.carried,
                   handovers := (handOverAll transport o.now d s₁ [] ns).1 },
              (handOverAll transport o.now d s₁ [] ns).2.1, ns⟩) := by
  rcases hb : s.keepBooks o e.kind d with ⟨_ | b, s₁⟩
  · simp [followUp, hb] at h
  · refine ⟨b, s₁, rfl, ?_⟩
    cases hr : d.refusal? with
    | some reason => exact .inl ⟨reason, rfl, fun _ => by simp only [followUp, hb, hr]⟩
    | none =>
      cases hn : s₁.notices o.now e d with
      | error f => simp [followUp, hb, hr, hn] at h
      | ok ns =>
        refine .inr ⟨ns, rfl, rfl, fun _ => ?_⟩
        simp only [followUp, hb, hr, hn, handOverAll_sent, List.nil_append]

theorem handle_ok (h : (s.handle transport role raw actor now).result = .ok report) :
    (∃ kind attemptId reason, ∀ transport, s.handle transport role raw actor now =
        ⟨.ok { kind, attemptId, skipped := some reason }, s, []⟩) ∨
      ∃ e d, Event.ofJson raw now = .ok e ∧ s.gather e = .ok d ∧ s.refusal? e.kind d = none ∧
        ∀ transport, s.handle transport role raw actor now =
          s.followUp transport ⟨(actor.or e.actor).getD e.subject, now, role⟩ e d := by
  cases he : Event.ofJson raw now with
  | error reason => exact .inl ⟨none, none, reason, fun _ => by simp only [handle, he]⟩
  | ok e =>
    cases hg : s.gather e with
    | error halt =>
      cases halt with
      | fault f => simp [handle, he, hg] at h
      | skip reason =>
        exact .inl ⟨some e.kind, e.namedAttempt?, reason, fun _ => by simp only [handle, he, hg]⟩
    | ok d =>
      cases hr : s.refusal? e.kind d with
      | some reason =>
        exact .inl ⟨some e.kind, some d.attempt.id, reason,
          fun _ => by simp only [handle, he, hg, hr]⟩
      | none => exact .inr ⟨e, d, rfl, hg, hr, fun _ => by simp only [handle, he, hg, hr]⟩

/-- **The three ends of an event** that ends in a report: it was refused with the store as it was;
or the books were kept and nothing is told about its learner, who is suspended; or they were kept
and its notices were handed over. -/
theorem handle_ends (h : (s.handle transport role raw actor now).result = .ok report) :
    (∃ kind attemptId reason, report = { kind, attemptId, skipped := some reason } ∧
        ∀ transport, s.handle transport role raw actor now = ⟨.ok report, s, []⟩) ∨
      ∃ e d b s₁, Event.ofJson raw now = .ok e ∧ s.gather e = .ok d ∧
        s.refusal? e.kind d = none ∧
        s.keepBooks ⟨(actor.or e.actor).getD e.subject, now, role⟩ e.kind d = (.ok b, s₁) ∧
        ((d.refusal? = some .suspendedLearner ∧
            report = { kind := some e.kind, attemptId := some d.attempt.id,
                       skipped := some .suspendedLearner, queue := b.queue,
                       allowance := b.allowance, carried := b.carried } ∧
            ∀ transport, s.handle transport role raw actor now = ⟨.ok report, s₁, []⟩) ∨
          ∃ ns, d.refusal? = none ∧ s₁.notices now e d = .ok ns ∧
            report = { kind := some e.kind, attemptId := some d.attempt.id, queue := b.queue,
                       allowance := b.allowance, carried := b.carried,
                       handovers := (handOverAll transport now d s₁ [] ns).1 } ∧
            s.handle transport role raw actor now =
              ⟨.ok report, (handOverAll transport now d s₁ [] ns).2.1, ns⟩) := by
  rcases handle_ok h with ⟨kind, attemptId, reason, hskip⟩ | ⟨e, d, he, hg, hr, hf⟩
  · rw [hskip] at h
    cases h
    exact .inl ⟨kind, attemptId, reason, rfl, hskip⟩
  · rw [hf] at h
    obtain ⟨b, s₁, hb, hend⟩ := followUp_ok h
    refine .inr ⟨e, d, b, s₁, he, hg, hr, hb, ?_⟩
    rcases hend with ⟨reason, hd, hend⟩ | ⟨ns, hd, hns, hend⟩
    · obtain rfl : reason = .suspendedLearner := by
        unfold Dossier.refusal? at hd
        split at hd <;> cases hd
        rfl
      rw [hend] at h
      cases h
      exact .inl ⟨hd, rfl, fun transport => (hf transport).trans (hend transport)⟩
    · rw [hend] at h
      cases h
      exact .inr ⟨ns, hd, hns, rfl, (hf transport).trans (hend transport)⟩

end GradeRelay.Store
