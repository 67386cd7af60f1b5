import GradeRelay.Proofs.Attempts
import GradeRelay.Proofs.Edits
import GradeRelay.Proofs.Frame
import GradeRelay.Proofs.Queue.Tracking
import GradeRelay.Proofs.Resit.Planning
/-!
# The limits of numbers

Attempt numbers and sequence numbers end at 4294967295, and there is none below zero. Numbers are
counted up in two places, where a failed attempt earns the sitting after it and where a step is
carried above the one that waits; they are counted down in two, in looking for the sitting before a
resit. Only counting up can fail, and this says when.

* `Ordinal.prev?_eq_some_iff`, `Store.NeverBelowZero`: counting down, with zero looked out for;
* `track_total`: a look-up by number meets no row without a meaning, so tracking an attempt fails
  only over its stored review;
* `grantResit_error_iff`, `takeOver_error_iff`: when counting up fails;
* `keepBooks_error_iff`: the books that are left off there;
* **`overflow_limits`**: the events that end so, and what is written by then;
* `not_overflowsExactly_unreadReview`: a stored review without a meaning comes first.
-/

namespace GradeRelay

/-- The ordinal before, unless there is none. -/
def Ordinal.prev? (n : Ordinal) : Option Ordinal := if n = 0 then none else some (n - 1)

theorem Ordinal.prev?_eq_some_iff {n m : Ordinal} : n.prev? = some m ↔ m.toNat + 1 = n.toNat := by
  by_cases h : n = 0
  · subst h
    simp [prev?]
  · have hn : n.toNat ≠ 0 := fun e => h (UInt32.toNat_inj.1 e)
    have hle : (1 : Ordinal) ≤ n := by
      rw [UInt32.le_iff_toNat_le, UInt32.toNat_one]
      omega
    have hsub : (n - 1).toNat + 1 = n.toNat := by
      rw [UInt32.toNat_sub_of_le _ _ hle, UInt32.toNat_one]
      omega
    rw [prev?, if_neg h, Option.some.injEq, ← UInt32.toNat_inj]
    omega

theorem Ordinal.toNat_eq_greatest_iff {n : Ordinal} : n.toNat = 4294967295 ↔ n = greatest :=
  UInt32.toNat_inj (b := greatest)

theorem Attempt.prev?_of_isRepeat {a : Attempt} (h : a.isRepeat = true) :
    a.number.prev? = some (a.number - 1) := by
  have hlt : 1 < a.number.toNat := UInt32.lt_iff_toNat_lt.1 (of_decide_eq_true h)
  have hne : a.number ≠ 0 := by
    intro hzero
    rw [hzero] at hlt
    exact absurd hlt (by decide)
  rw [Ordinal.prev?, if_neg hne]

namespace Store

variable {s s' : Store} {o : Occasion} {assessment : Assessment} {a : Attempt} {d : Dossier}
  {e : Event} {kind : Event.Kind} {f : Fault}

/-! ## Counting down -/

/-- The finished attempt one number below a resit, with an outcome for when there is no number
below. -/
def priorAttemptOr (s : Store) (below : Except StoreFault (Option AttemptId)) (a : Attempt) :
    Except StoreFault (Option AttemptId) :=
  if a.isRepeat then
    match a.number.prev? with
    | none => below
    | some n =>
      (s.attemptNumbered? a.assessmentId a.learnerId n true).map fun p => p.map (·.id)
  else .ok none

/-- Carries grades from the attempt one number below onto a resit, with an outcome for when there is
no number below. -/
def takeOverOr (s : Store) (below : Except Fault (Nat × Store)) (o : Occasion)
    (assessment : Assessment) (a : Attempt) : Except Fault (Nat × Store) :=
  if a.isRepeat && assessment.isDeferred then
    match a.number.prev? with
    | none => below
    | some n =>
      match s.attemptNumbered? a.assessmentId a.learnerId n false with
      | .error f => .error (.store f)
      | .ok none => .ok (0, s)
      | .ok (some predecessor) =>
        match Takeover.plan (s.sitting predecessor) (s.sitting a) o.now with
        | none => .error .overflow
        | some steps => .ok (s.addCarriedSteps steps)
  else .ok (0, s)

/-- What would be the outcome below zero plays no part, whatever attempt it is asked of. -/
def NeverBelowZero (s : Store) : Prop :=
  (∀ below a, s.priorAttemptOr below a = s.priorAttempt? a) ∧
    ∀ below o assessment a, s.takeOverOr below o assessment a = s.takeOver o assessment a

/-- **There is always a number below** where one is asked for. -/
theorem neverBelowZero (s : Store) : s.NeverBelowZero := by
  refine ⟨fun below a => ?_, fun below o assessment a => ?_⟩
  · unfold priorAttemptOr priorAttempt?
    by_cases hr : a.isRepeat = true
    · rw [if_pos hr, if_pos hr, Attempt.prev?_of_isRepeat hr]
    · rw [if_neg hr, if_neg hr]
  · unfold takeOverOr takeOver
    by_cases hr : (a.isRepeat && assessment.isDeferred) = true
    · have hbelow := Attempt.prev?_of_isRepeat (Bool.and_eq_true_iff.1 hr).1
      rw [if_pos hr, if_pos hr]
      generalize a.number.prev? = before at hbelow ⊢
      subst hbelow
      rfl
    · rw [if_neg hr, if_neg hr]

/-! ## Look-ups by number -/

theorem predecessor?_total (s : Store) (assessment : Assessment) (a : Attempt) :
    ∃ before, s.predecessor? assessment a = .ok before := by
  unfold predecessor?
  split
  · exact attemptNumbered?_total s _ _ _ _
  · exact ⟨none, rfl⟩

/-- The stored review of an attempt has a meaning, if there is one. -/
def ReviewReads (s : Store) (a : Attempt) : Prop := ∃ review, s.review? a.id = .ok review

theorem track_total (h : s.ReviewReads a) (o : Occasion) :
    ∃ t queue, s.track o a = .ok (t, { s with queue := queue }) := by
  obtain ⟨review, hreview⟩ := h
  obtain ⟨obs, hobs⟩ := observation_total s o a
  exact ⟨_, _, track_eq hreview hobs⟩

theorem reviewReads_of_track {t : Transition} (h : s.track o a = .ok (t, s')) :
    s.ReviewReads a := by
  obtain ⟨review, obs, hreview, -⟩ := track_ok h
  exact ⟨review, hreview⟩

/-! ## Counting up -/

/-- An attempt earns its learner a sitting that there is no number for. -/
structure OutOfNumbers (s : Store) (assessment : Assessment) (a : Attempt) : Prop where
  earned : s.earnsResit assessment a = true
  last : a.number.toNat = 4294967295

/-- A resit with deferred feedback, and an attempt one number below; and some question of that
attempt takes up one of the resit where the step that waits has the last sequence number. -/
structure OutOfSequence (s : Store) (assessment : Assessment) (a : Attempt) : Prop where
  deferred : assessment.behaviour = .deferredFeedback
  resit : 1 < a.number.toNat
  full : ∃ n p, n.toNat + 1 = a.number.toNat ∧
    s.attemptNumbered? a.assessmentId a.learnerId n false = .ok (some p) ∧
    ∃ prior ∈ (s.sitting p).questions, ∃ current awaiting,
      Takeover.Qualifies (s.sitting a) prior current awaiting ∧
        awaiting.step.sequence.toNat = 4294967295

theorem grantResit_error_iff :
    s.grantResit assessment a = .error f ↔ s.OutOfNumbers assessment a ∧ f = .overflow := by
  unfold grantResit Ordinal.next?
  by_cases hearned : s.earnsResit assessment a = true
  · rw [if_pos hearned]
    by_cases hlast : a.number = Ordinal.greatest
    · rw [if_pos hlast]
      exact ⟨fun h => ⟨⟨hearned, Ordinal.toNat_eq_greatest_iff.2 hlast⟩, by cases h; rfl⟩,
        fun h => by rw [h.2]⟩
    · rw [if_neg hlast]
      refine ⟨fun h => (nomatch h), fun h => ?_⟩
      exact absurd (Ordinal.toNat_eq_greatest_iff.1 h.1.last) hlast
  · rw [if_neg hearned]
    exact ⟨fun h => (nomatch h), fun h => absurd h.1.earned hearned⟩

/-- **Sequence numbers run out** just when there is a sitting before that no plan can be made of. -/
theorem outOfSequence_iff (now : Timestamp) : s.OutOfSequence assessment a ↔
    ∃ p, s.predecessor? assessment a = .ok (some p) ∧
      Takeover.plan (s.sitting p) (s.sitting a) now = none := by
  constructor
  · rintro ⟨hdeferred, hresit, n, p, hn, hp, prior, hprior, current, awaiting, hq, hlast⟩
    have hrepeat : a.isRepeat = true := decide_eq_true (UInt32.lt_iff_toNat_lt.2 hresit)
    have hbelow : a.number - 1 = n :=
      Option.some.inj ((Attempt.prev?_of_isRepeat hrepeat).symm.trans
        (Ordinal.prev?_eq_some_iff.2 hn))
    refine ⟨p, ?_, Takeover.plan_eq_none_iff.2 ⟨prior, hprior, current, awaiting, hq,
      Ordinal.toNat_eq_greatest_iff.1 hlast⟩⟩
    have hd : assessment.isDeferred = true := decide_eq_true hdeferred
    rw [predecessor?, if_pos (Bool.and_eq_true_iff.2 ⟨hrepeat, hd⟩), hbelow]
    exact hp
  · rintro ⟨p, hp, hplan⟩
    obtain ⟨prior, hprior, current, awaiting, hq, hlast⟩ := Takeover.plan_eq_none_iff.1 hplan
    unfold predecessor? at hp
    split at hp
    · next hr =>
      obtain ⟨hrepeat, hdeferred⟩ := Bool.and_eq_true_iff.1 hr
      refine ⟨of_decide_eq_true hdeferred,
        UInt32.lt_iff_toNat_lt.1 (of_decide_eq_true hrepeat), a.number - 1, p,
        Ordinal.prev?_eq_some_iff.1 (Attempt.prev?_of_isRepeat hrepeat), hp, prior, hprior, current,
        awaiting, hq, Ordinal.toNat_eq_greatest_iff.2 hlast⟩
    · cases hp

theorem takeOver_error_iff :
    s.takeOver o assessment a = .error f ↔ s.OutOfSequence assessment a ∧ f = .overflow := by
  obtain ⟨before, hbefore⟩ := predecessor?_total s assessment a
  rw [takeOver_eq, outOfSequence_iff o.now, hbefore]
  cases before with
  | none =>
    refine ⟨fun h => (nomatch h), ?_⟩
    rintro ⟨⟨p, hp, -⟩, -⟩
    cases hp
  | some p =>
    dsimp only
    cases hplan : Takeover.plan (s.sitting p) (s.sitting a) o.now with
    | none => exact ⟨fun h => ⟨⟨p, rfl, hplan⟩, by cases h; rfl⟩, fun h => by rw [h.2]⟩
    | some cs =>
      refine ⟨fun h => (nomatch h), ?_⟩
      rintro ⟨⟨p', hp', hnone⟩, -⟩
      cases hp'
      rw [hplan] at hnone
      cases hnone

/-! ## The books that are left off -/

/-- An attempt is at one of the limits: for a graded question it is the number of the sitting that
it earns, for a change the sequence number of a step to be carried. -/
def AtLimit (s : Store) (kind : Event.Kind) (d : Dossier) : Prop :=
  kind = .questionGraded ∧ s.OutOfNumbers d.assessment d.attempt ∨
    kind = .attemptUpdated ∧ s.OutOfSequence d.assessment d.attempt

theorem keepBooks_outOfNumbers (h : s.OutOfNumbers d.assessment d.attempt) :
    s.keepBooks o .questionGraded d = (.error .overflow, s) := by
  have hgrant : s.grantResit d.assessment d.attempt = .error .overflow :=
    grantResit_error_iff.2 ⟨h, rfl⟩
  simp only [keepBooks, hgrant]

theorem keepBooks_outOfSequence (h : s.OutOfSequence d.assessment d.attempt)
    (hr : s.ReviewReads d.attempt) :
    ∃ t queue, s.track o d.attempt = .ok (t, { s with queue := queue }) ∧
      s.keepBooks o .attemptUpdated d = (.error .overflow, { s with queue := queue }) := by
  obtain ⟨t, queue, ht⟩ := track_total hr o
  -- the queue has no say in what is carried
  have hstill : ({ s with queue := queue } : Store).OutOfSequence d.assessment d.attempt :=
    ⟨h.deferred, h.resit, h.full⟩
  have hover : ({ s with queue := queue } : Store).takeOver o d.assessment d.attempt =
      .error .overflow := takeOver_error_iff.2 ⟨hstill, rfl⟩
  exact ⟨t, queue, ht, by simp only [keepBooks, ht, hover]⟩

/-- **The books are left off** over a number just at a limit. For a change the review comes first.
-/
theorem keepBooks_error_iff : (s.keepBooks o kind d).1 = .error .overflow ↔
    s.AtLimit kind d ∧ (kind = .attemptUpdated → s.ReviewReads d.attempt) := by
  constructor
  · intro h
    cases kind with
    | questionGraded =>
      simp only [keepBooks] at h
      split at h
      · next f hgrant =>
        exact ⟨.inl ⟨rfl, (grantResit_error_iff.1 hgrant).1⟩,
          fun hkind => absurd hkind (by decide)⟩
      · split at h <;> cases h
    | attemptUpdated =>
      simp only [keepBooks] at h
      split at h
      · cases h
      · next t s₁ ht =>
        split at h
        · next f hover =>
          have hfull := (takeOver_error_iff.1 hover).1
          rw [track_footprint ht] at hfull
          exact ⟨.inr ⟨rfl, hfull.deferred, hfull.resit, hfull.full⟩,
            fun _ => reviewReads_of_track ht⟩
        · cases h
    | completionUpdated => cases h
  · rintro ⟨⟨rfl, hout⟩ | ⟨rfl, hout⟩, hreads⟩
    · rw [keepBooks_outOfNumbers hout]
    · obtain ⟨t, queue, -, hbooks⟩ := keepBooks_outOfSequence (o := o) hout (hreads rfl)
      rw [hbooks]

/-! ## The whole event -/

variable {transport : Transport} {role : Int} {raw : Json} {actor : Option UserId}
  {now : Timestamp}

/-- An event is read and its rows are gathered, and nothing stands against following it up. -/
structure Passes (s : Store) (raw : Json) (now : Timestamp) (e : Event) (d : Dossier) : Prop where
  read : Event.ofJson raw now = .ok e
  gathered : s.gather e = .ok d
  admitted : s.refusal? e.kind d = none

theorem handle_of_passes (h : s.Passes raw now e d) : s.handle transport role raw actor now =
    s.followUp transport ⟨(actor.or e.actor).getD e.subject, now, role⟩ e d := by
  simp only [handle, h.read, h.gathered, h.admitted]

theorem followUp_of_error {f : Fault} (h : s.keepBooks o e.kind d = (.error f, s')) :
    s.followUp transport o e d = ⟨.error f, s', []⟩ := by
  simp only [followUp, h]

theorem gather_ne_overflow (s : Store) (e : Event) : s.gather e ≠ .error (.fault .overflow) := by
  have hstore : ∀ {α : Type} (x : Except StoreFault α),
      Halt.ofStore x ≠ .error (.fault .overflow) := by
    rintro α (f | a) h <;> cases h
  have hrequire : ∀ {α : Type} (entity : Entity) (id : Int) (x : Option α),
      Halt.require entity id x ≠ .error (.fault .overflow) := by
    rintro α entity id (_ | a) h <;> cases h
  have howner : ∀ owner, e.checkOwner owner ≠ .error (.fault .overflow) := by
    intro owner
    unfold Event.checkOwner
    split <;> exact fun h => (nomatch h)
  have htarget : s.targetAttempt e ≠ .error (.fault .overflow) := by
    unfold targetAttempt
    split
    · exact Except.bind_ne_error (hstore _) fun found => hrequire _ _ found
    · refine Except.bind_ne_error (hrequire _ _ _) fun completion =>
        Except.bind_ne_error (howner _) fun _ => Except.bind_ne_error (hstore _) fun latest => ?_
      cases latest <;> exact fun h => (nomatch h)
  unfold gather
  exact Except.bind_ne_error htarget fun _ => Except.bind_ne_error (howner _) fun _ =>
    Except.bind_ne_error (hrequire _ _ _) fun _ => Except.bind_ne_error (hrequire _ _ _) fun _ =>
      Except.bind_ne_error (hrequire _ _ _) fun _ h => (nomatch h)

theorem followUp_overflow (h : (s.followUp transport o e d).result = .error .overflow) :
    (s.keepBooks o e.kind d).1 = .error .overflow := by
  rcases followUp_cases s transport o e d with ⟨result, hend, hfault⟩ | ⟨report, ns, -, hend⟩
  · rw [hend] at h
    rcases hfault _ h with hbooks | ⟨cause, hcause⟩
    · exact hbooks
    · cases hcause
  · rw [hend] at h
    cases h

theorem handle_overflow (h : (s.handle transport role raw actor now).result = .error .overflow) :
    ∃ e d, s.Passes raw now e d ∧
      (s.keepBooks ⟨(actor.or e.actor).getD e.subject, now, role⟩ e.kind d).1 =
        .error .overflow := by
  rcases handle_cases s transport role raw actor now with
    ⟨result, hend, hfault⟩ | ⟨e, d, he, hg, hr, hf⟩
  · rw [hend] at h
    obtain ⟨e, hgather⟩ := hfault _ h
    exact absurd hgather (gather_ne_overflow s e)
  · rw [hf] at h
    exact ⟨e, d, ⟨he, hg, hr⟩, followUp_overflow h⟩

theorem handle_outOfNumbers (h : s.Passes raw now e d) (hkind : e.kind = .questionGraded)
    (hout : s.OutOfNumbers d.assessment d.attempt) :
    s.handle transport role raw actor now = ⟨.error .overflow, s, []⟩ := by
  rw [handle_of_passes h]
  refine followUp_of_error ?_
  rw [hkind]
  exact keepBooks_outOfNumbers hout

theorem handle_outOfSequence (h : s.Passes raw now e d) (hkind : e.kind = .attemptUpdated)
    (hout : s.OutOfSequence d.assessment d.attempt) (hr : s.ReviewReads d.attempt) :
    ∃ t queue,
      s.track ⟨(actor.or e.actor).getD e.subject, now, role⟩ d.attempt =
        .ok (t, { s with queue := queue }) ∧
      Upserted ReviewRow.attemptId d.attempt.id s.queue queue ∧
      s.handle transport role raw actor now =
        ⟨.error .overflow, { s with queue := queue }, []⟩ := by
  obtain ⟨t, queue, ht, hbooks⟩ := keepBooks_outOfSequence hout hr
  refine ⟨t, queue, ht, (track_reach ht).2, ?_⟩
  rw [handle_of_passes h]
  refine followUp_of_error ?_
  rw [hkind]
  exact hbooks

/-- **The limits of numbers.** The handling of an event ends in an overflow just when the event
passes and is at a limit, and for a changed attempt the stored review has a meaning, if there is
one. At the first limit nothing was written; at the second the review was brought up to date and
nothing else was written; no notice was sent. Nothing is counted below zero. -/
theorem overflow_limits (s : Store) (transport : Transport) (role : Int) (raw : Json)
    (actor : Option UserId) (now : Timestamp) :
    ((s.handle transport role raw actor now).result = .error .overflow ↔
      ∃ e d, s.Passes raw now e d ∧ s.AtLimit e.kind d ∧
        (e.kind = .attemptUpdated → s.ReviewReads d.attempt)) ∧
    (∀ e d, s.Passes raw now e d →
      (e.kind = .questionGraded → s.OutOfNumbers d.assessment d.attempt →
        s.handle transport role raw actor now = ⟨.error .overflow, s, []⟩) ∧
      (e.kind = .attemptUpdated → s.OutOfSequence d.assessment d.attempt →
        s.ReviewReads d.attempt → ∃ t queue,
          s.track ⟨(actor.or e.actor).getD e.subject, now, role⟩ d.attempt =
            .ok (t, { s with queue := queue }) ∧
          Upserted ReviewRow.attemptId d.attempt.id s.queue queue ∧
          s.handle transport role raw actor now =
            ⟨.error .overflow, { s with queue := queue }, []⟩)) ∧
    s.NeverBelowZero := by
  refine ⟨⟨fun h => ?_, ?_⟩,
    fun e d hpass => ⟨handle_outOfNumbers hpass, handle_outOfSequence hpass⟩, neverBelowZero s⟩
  · obtain ⟨e, d, hpass, hbooks⟩ := handle_overflow h
    obtain ⟨hlimit, hreads⟩ := keepBooks_error_iff.1 hbooks
    exact ⟨e, d, hpass, hlimit, hreads⟩
  · rintro ⟨e, d, hpass, ⟨hkind, hout⟩ | ⟨hkind, hout⟩, hreads⟩
    · rw [handle_outOfNumbers hpass hkind hout]
    · obtain ⟨t, queue, -, -, hend⟩ := handle_outOfSequence hpass hkind hout (hreads hkind)
      rw [hend]

/-! An attempt with the last number, and a resit that waits at the last sequence number. -/

/-- A quiz with deferred feedback, failed at the attempt with the last number. -/
def satLast : Store :=
  { Sample.people with
    assessments := [Sample.assessment "Quiz" .deferredFeedback]
    attempts := [.ofAttempt (Sample.attempt 42 4294967295 (some 6))] }

/-- A resit with a question accepted on the sitting before, and with the given queue. -/
def waitingAtLast (queue : List ReviewRow) : Store :=
  { Sample.people with
    assessments := [Sample.assessment "Quiz" .deferredFeedback]
    attempts := [.ofAttempt (Sample.attempt 41 1 none), .ofAttempt (Sample.attempt 42 2 none)]
    questions := [Sample.question 411 410 7 1, Sample.question 421 420 7 1]
    steps := [Sample.step 3 411 2 .accepted 1700099300,
      Sample.step 4201 421 4294967295 .needsGrading 1700099900]
    queue := queue }

/-- The rows of an attempt at that quiz. -/
def quizDossier (a : Attempt) : Dossier where
  attempt := a
  assessment := Sample.assessment "Quiz" .deferredFeedback
  learner := Sample.user 3 "learner"
  course := { id := 9, externalId := "CRS-9", shortName := "FA101",
              fullName := "First Aid Fundamentals" }

theorem passes_satLast : satLast.Passes (Sample.marking 42 7) 1700100000
    ⟨.questionGraded, some 7, 3, 9, .attempt 42, 1700000000⟩
    (quizDossier (Sample.attempt 42 4294967295 (some 6))) where
  read := Except.ok_of_toOption (by decide +kernel)
  gathered := by
    have hrow := AttemptRow.read_ofAttempt (Sample.attempt 42 4294967295 (some 6))
    have hscore : Score.stored 6 = some 6 := by decide +kernel
    simp only [Sample.attempt, Option.bind_some, hscore] at hrow
    exact gather_eq_ok_iff.2 ⟨congrArg (Except.map some) hrow, rfl, rfl, rfl, rfl⟩
  admitted := rfl

theorem passes_waitingAtLast (queue : List ReviewRow) :
    (waitingAtLast queue).Passes (Sample.submission 42 3) 1700100000
      ⟨.attemptUpdated, some 3, 3, 9, .attempt 42, 1700000000⟩
      (quizDossier (Sample.attempt 42 2 none)) where
  read := Except.ok_of_toOption (by decide +kernel)
  gathered := gather_eq_ok_iff.2
    ⟨congrArg (Except.map some) (AttemptRow.read_ofAttempt (Sample.attempt 42 2 none)), rfl, rfl,
      rfl, rfl⟩
  admitted := rfl

theorem outOfSequence_waitingAtLast (queue : List ReviewRow) :
    (waitingAtLast queue).OutOfSequence (Sample.assessment "Quiz" .deferredFeedback)
      (Sample.attempt 42 2 none) := by
  have hrow : (waitingAtLast queue).OnlyRow (Sample.attempt 41 1 none) :=
    ⟨.ofAttempt (Sample.attempt 41 1 none), rfl, rfl⟩
  refine (outOfSequence_iff 1700100000).2 ⟨Sample.attempt 41 1 none,
    predecessor?_of_onlyRow rfl hrow ⟨rfl, rfl⟩ (by decide) rfl, ?_⟩
  have hplan : (Takeover.plan ((waitingAtLast []).sitting (Sample.attempt 41 1 none))
      ((waitingAtLast []).sitting (Sample.attempt 42 2 none)) 1700100000).isNone = true := by
    decide +kernel
  exact Option.isNone_iff_eq_none.1 hplan

theorem overflow_limits_bothLimits :
    (satLast.handle (fun _ _ => none) Sample.graderRole (Sample.marking 42 7) none 1700100000 =
        ⟨.error .overflow, satLast, []⟩) ∧
      ((waitingAtLast []).handle (fun _ _ => none) Sample.graderRole (Sample.submission 42 3) none
        1700100000).result = .error .overflow := by
  refine ⟨((overflow_limits satLast _ _ _ _ _).2.1 _ _ passes_satLast).1 rfl
      ⟨by decide +kernel, rfl⟩, (overflow_limits (waitingAtLast []) _ _ _ _ _).1.2 ⟨_, _,
      passes_waitingAtLast [], .inr ⟨rfl, outOfSequence_waitingAtLast []⟩, fun _ => ⟨none, rfl⟩⟩⟩

/-- The handling of an event ends in an overflow just when the event passes and is at a limit. -/
def OverflowsExactly (s : Store) (handled : Handled) (raw : Json) (now : Timestamp) : Prop :=
  handled.result = .error .overflow ↔ ∃ e d, s.Passes raw now e d ∧ s.AtLimit e.kind d

/-- A review in a state that has no meaning. -/
def unreadReview : ReviewRow where
  attemptId := 42
  priorAttemptId := none
  assignee := none
  attemptNumber := 2
  state := 7
  timeStart := 1700000000
  timeFinish := none

theorem not_overflowsExactly_unreadReview :
    ¬ (waitingAtLast [unreadReview]).OverflowsExactly
      ((waitingAtLast [unreadReview]).handle (fun _ _ => none) Sample.graderRole
        (Sample.submission 42 3) none 1700100000) (Sample.submission 42 3) 1700100000 := by
  intro hexactly
  have hpass := passes_waitingAtLast [unreadReview]
  have hover := hexactly.2
    ⟨_, _, hpass, .inr ⟨rfl, outOfSequence_waitingAtLast [unreadReview]⟩⟩
  rw [handle_of_passes hpass] at hover
  obtain ⟨review, hreview⟩ := (keepBooks_error_iff.1 (followUp_overflow hover)).2 rfl
  have hunread : (waitingAtLast [unreadReview]).review? 42 = .error (.reviewState 7) := rfl
  exact nomatch hunread.symm.trans hreview

end Store

end GradeRelay
