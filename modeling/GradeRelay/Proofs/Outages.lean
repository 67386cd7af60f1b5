import GradeRelay.Proofs.Delivery
import Mathlib.Data.List.Forall2
/-!
# Outages of the records service

The transport is asked last, when the books are kept and the notices are written, and nothing that
is read before looks into the outbox. So whatever two transports answer, they are handed the same
notices, and what differs is how the deliveries are reported and which retries are kept. The events
that follow do not see the difference either.

* `keepBooks_outbox`: the books are kept alike whatever the outbox holds;
* `handle_alike`: so is a whole event, under any two transports;
* **`outcomes_without_influence`**: what two transports may make of one event;
* **`handleEach_alike`**: what they may make of any number of events.
-/

namespace GradeRelay

/-- Two reports that differ at most in how the deliveries went. -/
structure Report.Alike (r r' : Report) : Prop where
  kind : r'.kind = r.kind
  attemptId : r'.attemptId = r.attemptId
  skipped : r'.skipped = r.skipped
  queue : r'.queue = r.queue
  allowance : r'.allowance = r.allowance
  carried : r'.carried = r.carried
  resources : r'.handovers.map Handover.resource = r.handovers.map Handover.resource

/-- Two stores that differ at most in the outbox. -/
def Store.Alike (s s' : Store) : Prop := s' = { s with outbox := s'.outbox }

/-- Two handlings of one event that differ at most in how the deliveries went and in the outbox:
they end in one fault, or both in a report. -/
structure Handled.Alike (h h' : Handled) : Prop where
  result : (∃ f, h.result = .error f ∧ h'.result = .error f) ∨
    ∃ r r', h.result = .ok r ∧ h'.result = .ok r' ∧ r.Alike r'
  sent : h'.sent = h.sent
  store : h.store.Alike h'.store

theorem Report.Alike.refl (r : Report) : r.Alike r := ⟨rfl, rfl, rfl, rfl, rfl, rfl, rfl⟩

namespace Store

variable {s s' : Store}

theorem alike_outbox (s : Store) (outbox : List RetryRow) : s.Alike { s with outbox := outbox } :=
  rfl

/-! ## The books -/

theorem grantResit_outbox (s : Store) (outbox : List RetryRow) (assessment : Assessment)
    (a : Attempt) : { s with outbox := outbox }.grantResit assessment a =
      (s.grantResit assessment a).map fun p => (p.1, { p.2 with outbox := outbox }) := by
  have hearns : { s with outbox := outbox }.earnsResit assessment a = s.earnsResit assessment a :=
    rfl
  unfold grantResit
  rw [hearns]
  by_cases he : s.earnsResit assessment a = true
  · rw [if_pos he, if_pos he]
    cases a.number.next? with
    | none => rfl
    | some n =>
      have hraise : { s with outbox := outbox }.raiseAllowance assessment.id a.learnerId n =
          ((s.raiseAllowance assessment.id a.learnerId n).1,
            { (s.raiseAllowance assessment.id a.learnerId n).2 with outbox := outbox }) := by
        unfold raiseAllowance allowance?
        dsimp only
        split <;> rfl
      simp only [hraise, Except.map]
  · rw [if_neg he, if_neg he]
    rfl

theorem track_outbox (s : Store) (outbox : List RetryRow) (o : Occasion) (a : Attempt) :
    { s with outbox := outbox }.track o a =
      (s.track o a).map fun p => (p.1, { p.2 with outbox := outbox }) := by
  have hreview : { s with outbox := outbox }.review? a.id = s.review? a.id := rfl
  have hobs : { s with outbox := outbox }.observation o a = s.observation o a := rfl
  have hwrite : ∀ t, { s with outbox := outbox }.applyTransition o.now a t =
      ((s.applyTransition o.now a t).1,
        { (s.applyTransition o.now a t).2 with outbox := outbox }) := by
    intro t
    cases t with
    | start assignee prior =>
      simp only [applyTransition, startReview]
      split <;> rfl
    | finish who => rfl
    | relink prior => rfl
    | unchanged => rfl
  unfold track
  rw [hreview, hobs]
  cases s.review? a.id with
  | error f => rfl
  | ok review =>
    cases s.observation o a with
    | error f => rfl
    | ok obs =>
      simp only [bind, Except.bind, hwrite]
      rcases s.applyTransition o.now a (.next review obs) with ⟨_ | _, s₁⟩ <;> rfl

theorem addCarriedSteps_outbox (s : Store) (outbox : List RetryRow) (cs : List CarriedStep) :
    { s with outbox := outbox }.addCarriedSteps cs =
      ((s.addCarriedSteps cs).1, { (s.addCarriedSteps cs).2 with outbox := outbox }) := by
  induction cs generalizing s with
  | nil => rfl
  | cons c rest ih =>
    have hstep : { s with outbox := outbox }.addCarriedStep c =
        { s.addCarriedStep c with outbox := outbox } := rfl
    have hhas : { s with outbox := outbox }.hasStepIn c.questionAttemptId c.state =
        s.hasStepIn c.questionAttemptId c.state := rfl
    simp only [addCarriedSteps, hhas, hstep, ih]
    split <;> rfl

theorem takeOver_outbox (s : Store) (outbox : List RetryRow) (o : Occasion)
    (assessment : Assessment) (a : Attempt) : { s with outbox := outbox }.takeOver o assessment a =
      (s.takeOver o assessment a).map fun p => (p.1, { p.2 with outbox := outbox }) := by
  have hprior : { s with outbox := outbox }.attemptNumbered? a.assessmentId a.learnerId
      (a.number - 1) false = s.attemptNumbered? a.assessmentId a.learnerId (a.number - 1) false :=
    rfl
  have hsitting : ∀ b, { s with outbox := outbox }.sitting b = s.sitting b := fun _ => rfl
  unfold takeOver
  rw [hprior]
  by_cases hr : (a.isRepeat && assessment.isDeferred) = true
  · rw [if_pos hr, if_pos hr]
    rcases s.attemptNumbered? a.assessmentId a.learnerId (a.number - 1) false with
      f | _ | predecessor
    · rfl
    · rfl
    · simp only [hsitting]
      cases Takeover.plan (s.sitting predecessor) (s.sitting a) o.now with
      | none => rfl
      | some steps =>
        simp only [addCarriedSteps_outbox]
        rfl
  · rw [if_neg hr, if_neg hr]
    rfl

theorem keepBooks_outbox (s : Store) (outbox : List RetryRow) (o : Occasion) (kind : Event.Kind)
    (d : Dossier) : { s with outbox := outbox }.keepBooks o kind d =
      ((s.keepBooks o kind d).1, { (s.keepBooks o kind d).2 with outbox := outbox }) := by
  cases kind with
  | questionGraded =>
    simp only [keepBooks, grantResit_outbox]
    rcases s.grantResit d.assessment d.attempt with f | ⟨allowance, s₁⟩
    · rfl
    · simp only [Except.map, track_outbox]
      rcases s₁.track o d.attempt with f | ⟨t, s₂⟩ <;> rfl
  | attemptUpdated =>
    simp only [keepBooks, track_outbox]
    rcases s.track o d.attempt with f | ⟨t, s₁⟩
    · rfl
    · simp only [Except.map, takeOver_outbox]
      rcases s₁.takeOver o d.assessment d.attempt with f | ⟨n, s₂⟩ <;> rfl
  | completionUpdated => rfl

/-! ## One event -/

theorem followUp_alike (s : Store) (outbox : List RetryRow) (transport other : Transport)
    (o : Occasion) (e : Event) (d : Dossier) :
    (s.followUp transport o e d).Alike ({ s with outbox := outbox }.followUp other o e d) := by
  unfold followUp
  rw [keepBooks_outbox s outbox]
  rcases s.keepBooks o e.kind d with ⟨f | b, s₁⟩
  · exact ⟨.inl ⟨f, rfl, rfl⟩, rfl, alike_outbox s₁ outbox⟩
  · have hnotices : { s₁ with outbox := outbox }.notices o.now e d = s₁.notices o.now e d := rfl
    dsimp only
    rw [hnotices]
    cases d.refusal? with
    | some reason => exact ⟨.inr ⟨_, _, rfl, rfl, .refl _⟩, rfl, alike_outbox s₁ outbox⟩
    | none =>
      cases hns : s₁.notices o.now e d with
      | error f => exact ⟨.inl ⟨_, rfl, rfl⟩, rfl, alike_outbox s₁ outbox⟩
      | ok ns =>
        -- only the deliveries are left, and they add retries at most
        obtain ⟨hn, hd⟩ := notices_ok hns
        obtain ⟨hm, rows, hs, -, -⟩ := handOverAll_settled transport o.now hn hd s₁ []
        obtain ⟨hm', rows', hs', -, -⟩ :=
          handOverAll_settled other o.now hn hd { s₁ with outbox := outbox } []
        simp only [handOverAll_sent, List.nil_append]
        refine ⟨.inr ⟨_, _, rfl, rfl, rfl, rfl, rfl, rfl, rfl, rfl, hm'.trans hm.symm⟩, rfl, ?_⟩
        dsimp only
        rw [hs, hs']
        rfl

/-- **A whole event** under two transports, whatever the outbox holds. -/
theorem handle_alike (s : Store) (outbox : List RetryRow) (transport other : Transport)
    (role : Int) (raw : Json) (actor : Option UserId) (now : Timestamp) :
    (s.handle transport role raw actor now).Alike
      ({ s with outbox := outbox }.handle other role raw actor now) := by
  have hgather : ∀ e, { s with outbox := outbox }.gather e = s.gather e := fun _ => rfl
  have hrefusal : ∀ kind d, { s with outbox := outbox }.refusal? kind d = s.refusal? kind d :=
    fun _ _ => rfl
  unfold handle
  cases Event.ofJson raw now with
  | error reason => exact ⟨.inr ⟨_, _, rfl, rfl, .refl _⟩, rfl, alike_outbox s outbox⟩
  | ok e =>
    simp only [hgather]
    rcases s.gather e with (reason | f) | d
    · exact ⟨.inr ⟨_, _, rfl, rfl, .refl _⟩, rfl, alike_outbox s outbox⟩
    · exact ⟨.inl ⟨f, rfl, rfl⟩, rfl, alike_outbox s outbox⟩
    · simp only [hrefusal]
      cases s.refusal? e.kind d with
      | some reason => exact ⟨.inr ⟨_, _, rfl, rfl, .refl _⟩, rfl, alike_outbox s outbox⟩
      | none => exact followUp_alike s outbox transport other _ e d

/-- **The outcomes of deliveries have no influence** on anything but the outbox and how they are
reported: whatever two transports answer, both handlings of an event end in a report or neither
does, the same notices are sent in the same order, the reports say the same but for the arrivals,
and the stores are the same but for the outbox. -/
theorem outcomes_without_influence (s : Store) (transport other : Transport) (role : Int)
    (raw : Json) (actor : Option UserId) (now : Timestamp) :
    (s.handle transport role raw actor now).Alike (s.handle other role raw actor now) :=
  handle_alike s s.outbox transport other role raw actor now

/-! ## Any number of events -/

/-- An event as it comes in, with who is given as the actor and when it is. -/
structure Incoming where
  raw : Json
  actor : Option UserId
  now : Timestamp

/-- Handles events one after the other, each with the transport that it meets. -/
def handleEach (role : Int) (transport : Nat → Transport) (s : Store) (i : Nat) :
    List Incoming → List Handled
  | [] => []
  | event :: rest =>
    let handled := s.handle (transport i) role event.raw event.actor event.now
    handled :: handleEach role transport handled.store (i + 1) rest

/-- **Over any number of events** no answer of a transport reaches the books, of the event at hand
or of a later one. -/
theorem handleEach_alike (h : s.Alike s') (role : Int) (transport other : Nat → Transport) (i : Nat)
    (events : List Incoming) : List.Forall₂ Handled.Alike (s.handleEach role transport i events)
      (s'.handleEach role other i events) := by
  induction events generalizing s s' i with
  | nil => exact .nil
  | cons event rest ih =>
    have hs' : s' = { s with outbox := s'.outbox } := h
    have hfirst : (s.handle (transport i) role event.raw event.actor event.now).Alike
        (s'.handle (other i) role event.raw event.actor event.now) := by
      rw [hs']
      exact handle_alike s s'.outbox _ _ role _ _ _
    exact .cons hfirst (ih hfirst.store (i + 1))

end Store

end GradeRelay
