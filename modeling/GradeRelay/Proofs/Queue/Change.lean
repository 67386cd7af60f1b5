import GradeRelay.Proofs.Lists
import GradeRelay.Sync.Tracking
/-!
# Changes of a review

A `Change` is a transition that was written, with the attempt and the time that it was written
for. The conditions of the three writes are just those under which a change fits the review.

* `applyTransition_of_fits`, `fits_of_applyTransition`: just the changes that fit are written;
* **`applyTransition_true`**, `applyTransition_false`: a write that takes place replaces the stored
  review by its result; any other leaves the queue as it was;
* `Lifecycle.concat`: changes that fit, one after the other, make up the life of a review, which is
  started, linked anew any number of times, and finished at most once.
-/

namespace GradeRelay

/-- A transition that was written, for an attempt and at a time. -/
structure Change where
  attempt : Attempt
  now : Timestamp
  transition : Transition

namespace Change

/-- The review once a change is written. -/
def result (c : Change) (review : Option Review) : Option Review :=
  match c.transition, review with
  | .start assignee prior, none =>
    some { attemptId := c.attempt.id, priorAttemptId := prior, assignee,
           attemptNumber := c.attempt.number, state := .pending, timeStart := c.now,
           timeFinish := none }
  | .finish who, some r =>
    some { r with assignee := some who, state := .finished, timeFinish := some c.now }
  | .relink prior, some r => some { r with priorAttemptId := some prior }
  | _, review => review

/-- The review that changes make, one after the other, where none was. -/
def replay (cs : List Change) : Option Review :=
  cs.foldl (fun review c => c.result review) none

@[simp]
theorem replay_concat (cs : List Change) (c : Change) :
    replay (cs ++ [c]) = c.result (replay cs) := by
  rw [replay, List.foldl_append]
  rfl

end Change

/-- A transition fits a review: none is started twice, and only a pending one is finished, or
linked to a prior attempt that it does not have. -/
def Transition.Fits : Transition → Option Review → Prop
  | .start _ _, none => True
  | .finish _, some r => r.state = .pending
  | .relink prior, some r => r.state = .pending ∧ r.priorAttemptId ≠ some prior
  | _, _ => False

theorem Transition.next_fits (review : Option Review) (obs : Observation) :
    Transition.next review obs = .unchanged ∨ (Transition.next review obs).Fits review := by
  cases review with
  | none =>
    by_cases hd : obs.hasDecision = true
    · simp [next, hd, Fits]
    · simp [next, hd]
  | some r =>
    cases hr : r.state with
    | finished => simp [next, hr]
    | pending =>
      by_cases hs : obs.scored = true
      · simp [next, hr, hs, Fits]
      · cases hp : obs.prior with
        | none => simp [next, hr, hs, hp]
        | some p => by_cases hrp : r.priorAttemptId = some p <;> simp [next, hr, hs, hp, hrp, Fits]

/-! ## The lifecycle of a review -/

/-- The transitions of one review in order, and the state that they leave it in. -/
inductive Lifecycle : List Transition → Option Review.State → Prop where
  | untracked : Lifecycle [] none
  | pending (assignee : Option UserId) (prior : Option AttemptId) (links : List AttemptId) :
    Lifecycle (.start assignee prior :: links.map .relink) (some .pending)
  | finished (assignee : Option UserId) (prior : Option AttemptId) (links : List AttemptId)
    (who : UserId) :
    Lifecycle (.start assignee prior :: links.map .relink ++ [.finish who]) (some .finished)

/-- **A transition that fits continues the lifecycle.** -/
theorem Lifecycle.concat {ts : List Transition} {review : Option Review} {c : Change}
    (h : Lifecycle ts (review.map (·.state))) (hc : c.transition.Fits review) :
    Lifecycle (ts ++ [c.transition]) ((c.result review).map (·.state)) := by
  cases ht : c.transition with
  | start assignee prior =>
    cases review with
    | some r => simp [Transition.Fits, ht] at hc
    | none =>
      cases h
      simp only [Change.result, ht]
      exact .pending assignee prior []
  | finish who =>
    cases review with
    | none => simp [Transition.Fits, ht] at hc
    | some r =>
      simp only [Transition.Fits, ht] at hc
      simp only [Option.map_some, hc] at h
      cases h with
      | pending assignee prior links =>
        simp only [Change.result, ht]
        exact .finished assignee prior links who
  | relink p =>
    cases review with
    | none => simp [Transition.Fits, ht] at hc
    | some r =>
      simp only [Transition.Fits, ht] at hc
      simp only [Option.map_some, hc.1] at h
      cases h with
      | pending assignee prior links =>
        simp only [Change.result, ht, Option.map_some, hc.1]
        have := Lifecycle.pending assignee prior (links ++ [p])
        rwa [List.map_append, ← List.cons_append] at this
  | unchanged => cases review <;> simp [Transition.Fits, ht] at hc

/-- The later form of a review: who it is assigned to is open until it is finished, its number and
its start are not, and once finished it stays. -/
structure Review.Evolves (r r' : Review) : Prop where
  attemptNumber : r'.attemptNumber = r.attemptNumber
  timeStart : r'.timeStart = r.timeStart
  assignee : r'.state = .pending → r'.assignee = r.assignee
  final : r.state = .finished → r' = r

theorem Review.Evolves.refl (r : Review) : r.Evolves r :=
  ⟨rfl, rfl, fun _ => rfl, fun _ => rfl⟩

theorem Review.Evolves.trans {r r' r'' : Review} (h : r.Evolves r') (h' : r'.Evolves r'') :
    r.Evolves r'' where
  attemptNumber := h'.attemptNumber.trans h.attemptNumber
  timeStart := h'.timeStart.trans h.timeStart
  assignee hp := by
    have hp' : r'.state = .pending := by
      cases hs : r'.state with
      | pending => rfl
      | finished => rw [← h'.final hs, hp] at hs; cases hs
    rw [h'.assignee hp, h.assignee hp']
  final hf := by
    obtain rfl := h.final hf
    exact h'.final hf

theorem Change.result_evolves {c : Change} {r : Review} (hc : c.transition.Fits (some r)) :
    ∃ r', c.result (some r) = some r' ∧ r.Evolves r' := by
  cases ht : c.transition with
  | start assignee prior => simp [Transition.Fits, ht] at hc
  | finish who =>
    simp only [Transition.Fits, ht] at hc
    simp only [Change.result, ht]
    refine ⟨_, rfl, rfl, rfl, nofun, fun hf => ?_⟩
    rw [hc] at hf
    cases hf
  | relink prior =>
    simp only [Transition.Fits, ht] at hc
    simp only [Change.result, ht]
    refine ⟨_, rfl, rfl, rfl, fun _ => rfl, fun hf => ?_⟩
    rw [hc.1] at hf
    cases hf
  | unchanged => simp [Transition.Fits, ht] at hc

/-- A time of finish is given exactly when the review is finished. -/
def Review.Timed (r : Review) : Prop := r.timeFinish.isSome = true ↔ r.state = .finished

theorem Change.result_timed {c : Change} {review : Option Review} {r' : Review}
    (hr : ∀ r, review = some r → r.Timed) (h : c.result review = some r') : r'.Timed := by
  cases ht : c.transition <;> cases review <;> simp only [Change.result, ht] at h <;> cases h
  case start.none => simp [Review.Timed]
  case finish.some => simp [Review.Timed]
  case relink.some r => exact hr r rfl
  all_goals exact hr _ rfl

/-! ## The stored review -/

theorem Review.State.code_of_ofCode? {n : Int} {state : State} (h : ofCode? n = some state) :
    state.code = n := by
  unfold ofCode? at h
  split at h
  · next hn => cases h; exact hn.symm
  · split at h
    · next hn => cases h; exact hn.symm
    · cases h

theorem ReviewRow.read_eq_ok_iff {row : ReviewRow} {r : Review} :
    row.read = .ok r ↔ row = ofReview r := by
  constructor
  · intro h
    unfold read at h
    split at h
    · cases h
    · next state hs =>
      cases h
      simp only [ofReview, Review.State.code_of_ofCode? hs]
  · rintro rfl
    simp

@[simp]
theorem ReviewRow.isPendingFor_ofReview {r : Review} {id : AttemptId} :
    (ofReview r).isPendingFor id = true ↔ r.attemptId = id ∧ r.state = .pending := by
  cases hs : r.state <;> simp [isPendingFor, ofReview, Review.State.code, hs]

theorem ReviewRow.attemptId_of_isPendingFor {row : ReviewRow} {id : AttemptId}
    (h : row.isPendingFor id = true) : row.attemptId = id := by
  simp only [isPendingFor, Bool.and_eq_true, decide_eq_true_eq] at h
  exact h.1

namespace Store

variable {s s' : Store} {review : Option Review} {id : AttemptId}

theorem review?_eq_ok_iff : s.review? id = .ok review ↔
    s.queue.find? (fun r => r.attemptId = id) = review.map .ofReview := by
  unfold review?
  cases s.queue.find? fun r => r.attemptId = id with
  | none => cases review <;> simp
  | some row =>
    dsimp only
    cases review with
    | none =>
      simp only [Option.map_none, reduceCtorEq, iff_false]
      cases row.read <;> simp [Except.map]
    | some r =>
      rw [Option.map_some, Option.some.injEq, ← ReviewRow.read_eq_ok_iff]
      cases row.read <;> simp [Except.map]

theorem attemptId_of_review? {r : Review} (h : s.review? id = .ok (some r)) :
    r.attemptId = id := by
  have h' := List.find?_some (review?_eq_ok_iff.1 h)
  exact of_decide_eq_true h'

theorem review?_map {a : Attempt} {f : ReviewRow → ReviewRow} {r r' : Review}
    (hk : ∀ row, (f row).attemptId = row.attemptId)
    (hf : ∀ row, row.attemptId ≠ a.id → f row = row)
    (hr : s.review? a.id = .ok (some r)) (hrow : f (.ofReview r) = .ofReview r') :
    { s with queue := s.queue.map f }.review? a.id = .ok (some r') ∧
      ∀ id, id ≠ a.id → { s with queue := s.queue.map f }.review? id = s.review? id := by
  constructor
  · rw [review?_eq_ok_iff] at hr ⊢
    dsimp only
    rw [find?_key_map hk, hr, Option.map_some, Option.map_some, hrow, Option.map_some]
  · intro id hid
    unfold review?
    dsimp only
    rw [find?_key_map hk]
    cases hrow : s.queue.find? fun r => r.attemptId = id with
    | none => rfl
    | some row =>
      have hrow' := List.find?_some hrow
      rw [Option.map_some, hf row (of_decide_eq_true hrow' ▸ hid)]

theorem exists_review_of_any {a : Attempt} {p : ReviewRow → Bool}
    (hk : (s.queue.map (·.attemptId)).Nodup) (hr : s.review? a.id = .ok review)
    (hp : ∀ row, p row = true → row.attemptId = a.id) (h : s.queue.any p = true) :
    ∃ r, review = some r ∧ p (.ofReview r) = true := by
  obtain ⟨row, hm, hrow⟩ := List.any_eq_true.1 h
  have hfind := find?_key_eq_some hk hm
  rw [hp row hrow, review?_eq_ok_iff.1 hr] at hfind
  obtain ⟨r, hreview, rfl⟩ := Option.map_eq_some_iff.1 hfind
  exact ⟨r, hreview, hrow⟩

theorem finishRow_key (id : AttemptId) (who : UserId) (now : Timestamp) (row : ReviewRow) :
    (if row.isPendingFor id then
      { row with assignee := some who, state := Review.State.finished.code,
                 timeFinish := some now } else row).attemptId = row.attemptId := by
  split <;> rfl

theorem relinkRow_key (id prior : AttemptId) (row : ReviewRow) :
    (if row.isPendingFor id && row.priorAttemptId != some prior then
      { row with priorAttemptId := some prior } else row).attemptId = row.attemptId := by
  split <;> rfl

/-- **A change that fits is written**, and touches no other review. -/
theorem applyTransition_of_fits {a : Attempt} {t : Transition} (now : Timestamp)
    (hr : s.review? a.id = .ok review) (hf : t.Fits review) :
    (s.applyTransition now a t).1 = true ∧
      (s.applyTransition now a t).2.review? a.id = .ok (Change.result ⟨a, now, t⟩ review) ∧
      ∀ id, id ≠ a.id → (s.applyTransition now a t).2.review? id = s.review? id := by
  cases t with
  | unchanged => cases review <;> cases hf
  | start assignee prior =>
    cases review with
    | some r => cases hf
    | none =>
      have hnone : s.queue.find? (fun r => r.attemptId = a.id) = none := review?_eq_ok_iff.1 hr
      have hany : ¬ (s.queue.any fun r => r.attemptId = a.id) = true := by
        rw [Bool.not_eq_true, List.any_eq_false]
        exact List.find?_eq_none.1 hnone
      simp only [applyTransition, startReview, if_neg hany]
      refine ⟨trivial, ?_, fun id hid => ?_⟩
      · rw [review?_eq_ok_iff]
        dsimp only
        rw [List.find?_append, hnone]
        simp [Change.result, ReviewRow.ofReview]
      · unfold review?
        dsimp only
        rw [List.find?_append]
        simp [ReviewRow.ofReview, Ne.symm hid]
  | finish who =>
    cases review with
    | none => cases hf
    | some r =>
      have hpend : (ReviewRow.ofReview r).isPendingFor a.id = true :=
        ReviewRow.isPendingFor_ofReview.2 ⟨attemptId_of_review? hr, hf⟩
      refine ⟨?_, review?_map (finishRow_key a.id who now) (fun row hne => if_neg fun hrow =>
        hne (ReviewRow.attemptId_of_isPendingFor hrow)) hr ?_⟩
      · exact List.any_eq_true.2 ⟨_, List.mem_of_find?_eq_some (review?_eq_ok_iff.1 hr), hpend⟩
      · rw [if_pos hpend]
        rfl
  | relink prior =>
    cases review with
    | none => cases hf
    | some r =>
      have hstale : ((ReviewRow.ofReview r).isPendingFor a.id &&
          (ReviewRow.ofReview r).priorAttemptId != some prior) = true := by
        simpa using And.intro ⟨attemptId_of_review? hr, hf.1⟩ hf.2
      refine ⟨?_, review?_map (relinkRow_key a.id prior) (fun row hne => if_neg fun hrow =>
        hne (ReviewRow.attemptId_of_isPendingFor (Bool.and_eq_true_iff.1 hrow).1)) hr ?_⟩
      · exact List.any_eq_true.2 ⟨_, List.mem_of_find?_eq_some (review?_eq_ok_iff.1 hr), hstale⟩
      · rw [if_pos hstale]
        rfl

/-- Where no attempt has two reviews, only a change that fits is written. -/
theorem fits_of_applyTransition {a : Attempt} {now : Timestamp} {t : Transition}
    (hk : (s.queue.map (·.attemptId)).Nodup) (hr : s.review? a.id = .ok review)
    (h : (s.applyTransition now a t).1 = true) : t.Fits review := by
  cases t with
  | unchanged => cases h
  | start assignee prior =>
    simp only [applyTransition, startReview] at h
    split at h
    · cases h
    · next hany =>
      rw [Bool.not_eq_true, List.any_eq_false] at hany
      have hnone := List.find?_eq_none.2 hany
      rw [review?_eq_ok_iff.1 hr, Option.map_eq_none_iff] at hnone
      rw [hnone]
      trivial
  | finish who =>
    obtain ⟨r, rfl, hpend⟩ := exists_review_of_any hk hr
      (fun row hrow => ReviewRow.attemptId_of_isPendingFor hrow) h
    exact (ReviewRow.isPendingFor_ofReview.1 hpend).2
  | relink prior =>
    obtain ⟨r, rfl, hstale⟩ := exists_review_of_any hk hr
      (fun row hrow => ReviewRow.attemptId_of_isPendingFor (Bool.and_eq_true_iff.1 hrow).1) h
    obtain ⟨⟨-, hpending⟩, hother⟩ : (r.attemptId = a.id ∧ r.state = .pending) ∧
        r.priorAttemptId ≠ some prior := by simpa using hstale
    exact ⟨hpending, hother⟩

theorem applyTransition_nodup (a : Attempt) (now : Timestamp) (t : Transition)
    (hk : (s.queue.map (·.attemptId)).Nodup) :
    ((s.applyTransition now a t).2.queue.map (·.attemptId)).Nodup := by
  cases t with
  | unchanged => exact hk
  | start assignee prior =>
    simp only [applyTransition, startReview]
    split
    · exact hk
    · next hany =>
      rw [Bool.not_eq_true, List.any_eq_false] at hany
      refine nodup_map_concat_iff.2 ⟨hk, fun row hrow hid => hany row hrow ?_⟩
      exact decide_eq_true hid
  | finish who =>
    simp only [applyTransition, finishReview]
    rwa [map_key_map (finishRow_key a.id who now)]
  | relink prior =>
    simp only [applyTransition, relinkReview]
    rwa [map_key_map (relinkRow_key a.id prior)]

/-- **A write that takes place** fits the stored review and replaces it by its result; no other
review is touched, and none is stored twice. -/
theorem applyTransition_true {a : Attempt} {now : Timestamp} {t : Transition}
    (hk : (s.queue.map (·.attemptId)).Nodup) (hr : s.review? a.id = .ok review)
    (h : s.applyTransition now a t = (true, s')) :
    t.Fits review ∧ s'.review? a.id = .ok (Change.result ⟨a, now, t⟩ review) ∧
      (∀ id, id ≠ a.id → s'.review? id = s.review? id) ∧
      (s'.queue.map (·.attemptId)).Nodup := by
  have hwritten : (s.applyTransition now a t).1 = true := by rw [h]
  have hfits := fits_of_applyTransition hk hr hwritten
  have hnodup := applyTransition_nodup a now t hk
  obtain ⟨-, hself, hother⟩ := applyTransition_of_fits now hr hfits
  rw [h] at hself hother hnodup
  exact ⟨hfits, hself, hother, hnodup⟩

theorem applyTransition_false {a : Attempt} {now : Timestamp} {t : Transition}
    (h : s.applyTransition now a t = (false, s')) : s'.queue = s.queue := by
  cases t with
  | start assignee prior =>
    simp only [applyTransition, startReview] at h
    split at h
    · cases h
      rfl
    · cases h
  | finish who =>
    simp only [applyTransition, finishReview, Prod.mk.injEq] at h
    rw [← h.2]
    exact map_eq_self_of_any h.1
  | relink prior =>
    simp only [applyTransition, relinkReview, Prod.mk.injEq] at h
    rw [← h.2]
    exact map_eq_self_of_any h.1
  | unchanged =>
    cases h
    rfl

end Store

end GradeRelay
