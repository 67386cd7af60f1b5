import GradeRelay.Proofs.Edits
import GradeRelay.Proofs.Queue.Links
import GradeRelay.Proofs.Queue.Tracking
/-!
# The queue as a list of reviews

A transition is decided on values in memory and written by a statement with conditions of its own,
on rows that may have no prior attempt and nobody assigned. Where the queue was written by the
store's own operations, it holds one readable row for an attempt at most, and the two agree in every
case: what is decided is written, to the review that it was decided for and to no other.

* `QueueWritten.keeps`: the operations keep the queue readable, with one review for an attempt;
* `Keeps.applied`: what the edit that writes a transition does to the list of reviews;
* `Change.result_next_ne_none_iff`, `Change.result_next_finished_iff`: what is there after it;
* **`track_refines`**: tracking an attempt refines the pure decision.
-/

namespace GradeRelay

namespace Transition

/-- The reviews once a transition is applied to that of an attempt. -/
def applied (t : Transition) (a : Attempt) (now : Timestamp) (rs : List Review) : List Review :=
  match t with
  | .start assignee prior =>
    rs ++ [{ attemptId := a.id, priorAttemptId := prior, assignee, attemptNumber := a.number,
             state := .pending, timeStart := now, timeFinish := none }]
  | .finish who =>
    rs.map fun r =>
      if r.attemptId = a.id then
        { r with assignee := some who, state := .finished, timeFinish := some now }
      else r
  | .relink prior =>
    rs.map fun r => if r.attemptId = a.id then { r with priorAttemptId := some prior } else r
  | .unchanged => rs

variable {review : Option Review}

@[simp]
theorem fits_start_iff {assignee : Option UserId} {prior : Option AttemptId} :
    (start assignee prior).Fits review ↔ review = none := by
  cases review <;> simp [Fits]

@[simp]
theorem fits_finish_iff {who : UserId} :
    (finish who).Fits review ↔ ∃ r, review = some r ∧ r.state = .pending := by
  cases review <;> simp [Fits]

@[simp]
theorem fits_relink_iff {prior : AttemptId} : (relink prior).Fits review ↔
    ∃ r, review = some r ∧ r.state = .pending ∧ r.priorAttemptId ≠ some prior := by
  cases review <;> simp [Fits]

end Transition

/-! ## What is there after a transition -/

namespace Change

variable {a : Attempt} {now : Timestamp} {review : Option Review} {obs : Observation}

theorem result_some_ne_none (c : Change) (r : Review) : c.result (some r) ≠ none := by
  unfold result
  cases c.transition <;> exact Option.some_ne_none _

theorem result_next_ne_none_iff : result ⟨a, now, .next review obs⟩ review ≠ none ↔
    review ≠ none ∨ obs.hasDecision = true := by
  cases review with
  | none => by_cases hd : obs.hasDecision = true <;> simp [Transition.next, result, hd]
  | some r => simp [result_some_ne_none]

theorem result_next_finished_iff :
    (∃ r, result ⟨a, now, .next review obs⟩ review = some r ∧ r.state = .finished) ↔
      ∃ r, review = some r ∧ (r.state = .finished ∨ obs.scored = true) := by
  cases review with
  | none => by_cases hd : obs.hasDecision = true <;> simp [Transition.next, result, hd]
  | some r =>
    cases hs : r.state with
    | finished => simp [Transition.next, result, hs]
    | pending =>
      by_cases hscored : obs.scored = true
      · simp [Transition.next, result, hs, hscored]
      · cases hp : obs.prior with
        | none => simp [Transition.next, result, hs, hscored, hp]
        | some p =>
          by_cases hrp : r.priorAttemptId = some p <;>
            simp [Transition.next, result, hs, hscored, hp, hrp]

end Change

namespace Store

variable {s s' : Store} {o : Occasion} {a : Attempt} {rs : List Review} {r : Review}
  {id : AttemptId} {t : Transition}

/-! ## Queues written here -/

/-- The queue was written by the store's own operations, whatever was written to the other tables in
between. -/
inductive QueueWritten : Store → Prop where
  | empty {s : Store} : s.queue = [] → QueueWritten s
  | started {s : Store} (r : Review) : QueueWritten s → QueueWritten (s.startReview r).2
  | finished {s : Store} (id : AttemptId) (who : UserId) (now : Timestamp) :
    QueueWritten s → QueueWritten (s.finishReview id who now).2
  | relinked {s : Store} (id prior : AttemptId) :
    QueueWritten s → QueueWritten (s.relinkReview id prior).2
  | elsewhere {s s' : Store} : QueueWritten s → s'.queue = s.queue → QueueWritten s'

/-- The queue holds these reviews, no two of them for one attempt. -/
structure Keeps (s : Store) (rs : List Review) : Prop where
  rows : s.queue = rs.map .ofReview
  once : (rs.map (·.attemptId)).Nodup

theorem Keeps.add (h : s.Keeps rs) (hr : ∀ q ∈ rs, q.attemptId ≠ r.attemptId) :
    { s with queue := s.queue ++ [ReviewRow.ofReview r] }.Keeps (rs ++ [r]) where
  rows := by rw [h.rows, List.map_append, List.map_singleton]
  once := nodup_map_concat_iff.2 ⟨h.once, hr⟩

theorem Keeps.rewrite {p : ReviewRow → Bool} {u : ReviewRow → ReviewRow} {v : Review → Review}
    (h : s.Keeps rs) (huv : ∀ r, u (.ofReview r) = .ofReview (v r))
    (hv : ∀ r, (v r).attemptId = r.attemptId) :
    { s with queue := s.queue.map fun row => if p row then u row else row }.Keeps
      (rs.map fun r => if p (.ofReview r) then v r else r) where
  rows := by
    simp only [h.rows, List.map_map]
    refine List.map_congr_left fun r _ => ?_
    simp only [Function.comp_apply]
    split
    · exact huv r
    · rfl
  once := by
    rw [map_key_map fun r => ?_]
    · exact h.once
    · split
      · exact hv r
      · rfl

/-- **The queue stays readable** under each of the operations, with one review for an attempt. -/
theorem QueueWritten.keeps (h : s.QueueWritten) : ∃ rs, s.Keeps rs := by
  induction h with
  | empty hs => exact ⟨[], hs, List.nodup_nil⟩
  | @started s r _ ih =>
    obtain ⟨rs, hk⟩ := ih
    unfold startReview
    split
    · exact ⟨rs, hk⟩
    · next hnew =>
      refine ⟨rs ++ [r], hk.add fun q hq hsame => hnew ?_⟩
      rw [hk.rows, List.any_map]
      exact List.any_eq_true.2 ⟨q, hq, decide_eq_true hsame⟩
  | @finished s id who now _ ih =>
    obtain ⟨rs, hk⟩ := ih
    exact ⟨_, hk.rewrite (v := fun r =>
      { r with assignee := some who, state := .finished, timeFinish := some now })
      (fun _ => rfl) fun _ => rfl⟩
  | @relinked s id prior _ ih =>
    obtain ⟨rs, hk⟩ := ih
    exact ⟨_, hk.rewrite (v := fun r => { r with priorAttemptId := some prior })
      (fun _ => rfl) fun _ => rfl⟩
  | elsewhere _ hs ih =>
    obtain ⟨rs, hk⟩ := ih
    exact ⟨rs, hs.trans hk.rows, hk.once⟩

theorem QueueWritten.applyTransition (h : s.QueueWritten) (a : Attempt) (now : Timestamp)
    (t : Transition) : (s.applyTransition now a t).2.QueueWritten := by
  cases t with
  | start assignee prior => exact h.started _
  | finish who => exact h.finished a.id who now
  | relink prior => exact h.relinked a.id prior
  | unchanged => exact h

theorem QueueWritten.track (h : s.QueueWritten) (ht : s.track o a = .ok (t, s')) :
    s'.QueueWritten := by
  obtain ⟨review, obs, -, -, ⟨hw, -⟩ | ⟨hw, -⟩⟩ := track_ok ht
  · have hwritten := h.applyTransition a o.now (.next review obs)
    rwa [hw] at hwritten
  · have hwritten := h.applyTransition a o.now (.next review obs)
    rwa [hw] at hwritten

/-! ## The list of reviews -/

theorem Keeps.allReviews (h : s.Keeps rs) : s.allReviews = .ok rs := by
  have hread (rs : List Review) : (rs.map ReviewRow.ofReview).mapM ReviewRow.read =
      (.ok rs : Except StoreFault (List Review)) := by
    induction rs with
    | nil => rfl
    | cons r rs ih =>
      simp only [List.map_cons, List.mapM_cons, ReviewRow.read_ofReview, ih]
      rfl
  rw [Store.allReviews, h.rows, hread]

theorem Keeps.review? (h : s.Keeps rs) (id : AttemptId) :
    s.review? id = .ok (rs.find? fun r => r.attemptId = id) := by
  rw [review?_eq_ok_iff, h.rows, List.find?_map]
  rfl

theorem Keeps.find?_eq_some_iff (h : s.Keeps rs) :
    rs.find? (fun r => r.attemptId = id) = some r ↔ r ∈ rs ∧ r.attemptId = id := by
  constructor
  · intro hr
    exact ⟨List.mem_of_find?_eq_some hr, of_decide_eq_true (List.find?_some hr :)⟩
  · rintro ⟨hr, rfl⟩
    exact find?_key_eq_some h.once hr

theorem Keeps.only {q : Review} (h : s.Keeps rs)
    (hr : rs.find? (fun r => r.attemptId = id) = some r) (hq : q ∈ rs) (hid : q.attemptId = id) :
    r = q :=
  Option.some.inj (hr.symm.trans (h.find?_eq_some_iff.2 ⟨hq, hid⟩))

/-- **The edit that writes a transition** applies it to the reviews of the queue. -/
theorem Keeps.applied {review : Option Review} (h : s.Keeps rs)
    (hfound : rs.find? (fun r => r.attemptId = a.id) = review) (now : Timestamp)
    (ht : t = .unchanged ∨ t.Fits review) :
    { s with queue := (Change.edit ⟨a, now, t⟩).apply s.queue }.Keeps (t.applied a now rs) := by
  subst hfound
  cases t with
  | start assignee prior =>
    have hnone := Transition.fits_start_iff.1 (ht.resolve_left (by simp))
    simp only [Change.edit, Edit.apply, List.map_id]
    refine h.add fun q hq hid => ?_
    have hfound := h.find?_eq_some_iff.2 ⟨hq, hid⟩
    rw [hnone] at hfound
    cases hfound
  | finish who =>
    obtain ⟨r, hr, hpending⟩ := Transition.fits_finish_iff.1 (ht.resolve_left (by simp))
    have hrow : ∀ q ∈ rs, q.attemptId = a.id ↔
        (ReviewRow.ofReview q).isPendingFor a.id = true := by
      intro q hq
      simpa using fun hid => h.only hr hq hid ▸ hpending
    simp only [Change.edit, Edit.apply, List.append_nil, Transition.applied]
    rw [List.map_congr_left fun q hq => if_congr (hrow q hq) rfl rfl]
    exact h.rewrite (fun _ => rfl) fun _ => rfl
  | relink prior =>
    obtain ⟨r, hr, hpending, hstale⟩ := Transition.fits_relink_iff.1 (ht.resolve_left (by simp))
    have hrow : ∀ q ∈ rs, q.attemptId = a.id ↔ ((ReviewRow.ofReview q).isPendingFor a.id &&
        (ReviewRow.ofReview q).priorAttemptId != some prior) = true := by
      intro q hq
      simpa [and_assoc] using fun hid => h.only hr hq hid ▸ ⟨hpending, hstale⟩
    simp only [Change.edit, Edit.apply, List.append_nil, Transition.applied]
    rw [List.map_congr_left fun q hq => if_congr (hrow q hq) rfl rfl]
    exact h.rewrite (fun _ => rfl) fun _ => rfl
  | unchanged =>
    simp only [Change.edit, Edit.apply_nothing]
    exact h

/-! ## Tracking an attempt -/

theorem review?_of_track {review : Option Review} {obs : Observation}
    (hr : s.review? a.id = .ok review) (ho : s.observation o a = .ok obs)
    (h : s.track o a = .ok (t, s')) :
    s'.review? a.id = .ok (Change.result ⟨a, o.now, .next review obs⟩ review) := by
  obtain ⟨review', obs', hr', ho', rfl, hresult, -⟩ := track_result h
  obtain rfl := Except.ok.inj (hr.symm.trans hr')
  obtain rfl := Except.ok.inj (ho.symm.trans ho')
  exact hresult

/-- Tracking an attempt, on the reviews of the queue: what is observed and decided, what is written,
and what has become of the attempt's review. -/
structure Refines (s : Store) (o : Occasion) (a : Attempt) (rs : List Review)
    (review : Option Review) (obs : Observation) (s' : Store) : Prop where
  before : s.allReviews = .ok rs
  /-- The review that is decided about is that of the attempt. -/
  own : ∀ r, review = some r ↔ r ∈ rs ∧ r.attemptId = a.id
  observed : s.Observes o a obs
  /-- What is decided is reported, so no write was in vain. -/
  decided : s.track o a = .ok (.next review obs, s')
  after : s'.allReviews = .ok ((Transition.next review obs).applied a o.now rs)
  elsewhere : s' = { s with queue := s'.queue }
  written : s'.QueueWritten
  tracked : (∃ r, s'.review? a.id = .ok (some r)) ↔ review ≠ none ∨ s.Decided a
  finished : (∃ r, s'.review? a.id = .ok (some r) ∧ r.state = .finished) ↔
    ∃ r, review = some r ∧ (r.state = .finished ∨ a.score ≠ none)
  linked : ∀ r p, s'.review? a.id = .ok (some r) → r.state = .pending → s.IsLatestBefore a p →
    r.priorAttemptId = some p

/-- **Tracking an attempt refines the pure decision.** Where the queue was written by the store's
own operations, it reports what is decided about the attempt's review from what is observed of the
attempt, and the queue afterwards is the queue before with just that applied to that review. -/
theorem track_refines (h : s.QueueWritten) (o : Occasion) (a : Attempt) :
    ∃ rs review obs s', s.Refines o a rs review obs s' := by
  obtain ⟨rs, hk⟩ := h.keeps
  obtain ⟨obs, hobs, hobserves⟩ := observes s o a
  have hreview := hk.review? a.id
  generalize hfound : rs.find? (fun r => r.attemptId = a.id) = review at hreview
  have htrack := track_eq hreview hobs
  have hkeeps := hk.applied hfound o.now (Transition.next_fits review obs)
  have hresult := review?_of_track hreview hobs htrack
  exact ⟨rs, review, obs, _, {
    before := hk.allReviews
    own := fun r => by rw [← hfound, hk.find?_eq_some_iff]
    observed := hobserves
    decided := htrack
    after := hkeeps.allReviews
    elsewhere := rfl
    written := h.track htrack
    tracked := by
      simp only [hresult, Except.ok.injEq]
      rw [← Option.ne_none_iff_exists', Change.result_next_ne_none_iff, hobserves.hasDecision]
    finished := by
      simp only [hresult, Except.ok.injEq]
      rw [Change.result_next_finished_iff, hobserves.scored]
    linked := fun r p hr hpending hp => Change.result_next_prior
      (Except.ok.inj (hresult.symm.trans hr)) hpending ((hobserves.prior p).2 hp) }⟩

/-- A quiz that was sat twice under the first number, and once more. -/
def satAgain : Store :=
  { Sample.people with
    assessments := [Sample.assessment "Quiz" .deferredFeedback]
    attempts := [.ofAttempt (Sample.attempt 42 1 (some 4)),
      .ofAttempt (Sample.attempt 41 1 (some 6)), .ofAttempt (Sample.attempt 43 2 none)] }

/-- The review of one first sitting is finished; that of the resit is assigned to nobody and linked
to nothing. -/
def satAgainUnlinked : Store :=
  let reviewed := (satAgain.startReview ⟨42, none, some 7, 1, .pending, 1700000900, none⟩).2
  let finished := (reviewed.finishReview 42 7 1700000950).2
  (finished.startReview ⟨43, none, none, 2, .pending, 1700000990, none⟩).2

theorem track_refines_satAgainUnlinked : satAgainUnlinked.QueueWritten ∧
    ∃ rs review obs s', satAgainUnlinked.Refines ⟨7, 1700100000, Sample.graderRole⟩
      (Sample.attempt 43 2 none) rs review obs s' ∧ Transition.next review obs = .relink 42 := by
  have hempty : satAgain.QueueWritten := .empty rfl
  have h : satAgainUnlinked.QueueWritten :=
    ((hempty.started _).finished 42 7 1700000950).started _
  obtain ⟨rs, review, obs, s', href⟩ :=
    track_refines h ⟨7, 1700100000, Sample.graderRole⟩ (Sample.attempt 43 2 none)
  have hlinked : (satAgainUnlinked.track ⟨7, 1700100000, Sample.graderRole⟩
      (Sample.attempt 43 2 none)).toOption.map Prod.fst = some (.relink 42) := by
    decide +kernel
  rw [href.decided] at hlinked
  exact ⟨h, rs, review, obs, s', href, Option.some.inj hlinked⟩

end Store

end GradeRelay
