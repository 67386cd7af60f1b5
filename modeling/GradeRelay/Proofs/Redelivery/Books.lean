import GradeRelay.Proofs.Queue.Tracking
import GradeRelay.Proofs.Resit.Raising
import GradeRelay.Proofs.Resit.Takeover
/-!
# Books that come to rest

What an observation calls for is finitely much: a review is started and finished, or linked once.
`Observation.due` counts the changes that are still to come; each time an attempt is tracked there
is one less. The allowance and the steps carried come to rest at once, but carried steps may call
for a review where none was called for before.

* `Observation.due_result`: tracking lowers the count by one;
* **`keepBooks_steady`**, **`Steady.keepBooks`**: once the books were kept, at most two changes of
  the review are left, and nothing else is.
-/

namespace GradeRelay

/-- How many changes of the review are due. -/
def Observation.due (obs : Observation) : Option Review → Nat
  | none => if obs.hasDecision then if obs.scored then 2 else 1 else 0
  | some r =>
    match r.state with
    | .finished => 0
    | .pending =>
      if obs.scored then 1
      else if obs.prior.isSome && r.priorAttemptId != obs.prior then 1 else 0

namespace Observation

variable {obs obs' : Observation} {review : Option Review}

theorem due_le (obs : Observation) (review : Option Review) : obs.due review ≤ 2 := by
  unfold due
  repeat' split
  all_goals omega

theorem due_congr (hd : obs'.hasDecision = obs.hasDecision) (hs : obs'.scored = obs.scored)
    (hp : obs'.prior = obs.prior) : obs'.due review = obs.due review := by
  unfold due
  rw [hd, hs, hp]

theorem due_result {a : Attempt} {now : Timestamp} :
    obs.due (Change.result ⟨a, now, .next review obs⟩ review) = obs.due review - 1 := by
  cases review with
  | none =>
    by_cases hd : obs.hasDecision = true
    · by_cases hs : obs.scored = true
      · simp [Transition.next, Change.result, due, hd, hs]
      · simp [Transition.next, Change.result, due, hd, hs]
    · simp [Transition.next, Change.result, due, hd]
  | some r =>
    cases hr : r.state with
    | finished => simp [Transition.next, Change.result, due, hr]
    | pending =>
      by_cases hs : obs.scored = true
      · simp [Transition.next, Change.result, due, hr, hs]
      · cases hp : obs.prior with
        | none => simp [Transition.next, Change.result, due, hr, hs, hp]
        | some p =>
          by_cases hrp : r.priorAttemptId = some p
          · simp [Transition.next, Change.result, due, hr, hs, hp, hrp]
          · simp [Transition.next, Change.result, due, hr, hs, hp, hrp]

theorem next_of_due_eq_zero (h : obs.due review = 0) : Transition.next review obs = .unchanged := by
  cases review with
  | none =>
    by_cases hd : obs.hasDecision = true
    · by_cases hs : obs.scored = true <;> simp [due, hd, hs] at h
    · simp [Transition.next, hd]
  | some r =>
    cases hr : r.state with
    | finished => simp [Transition.next, hr]
    | pending =>
      by_cases hs : obs.scored = true
      · simp [due, hr, hs] at h
      · cases hp : obs.prior with
        | none => simp [Transition.next, hr, hs, hp]
        | some p =>
          simp [due, hr, hs, hp] at h
          simp [Transition.next, hr, hs, hp, h]

end Observation

namespace Store

variable {s s' : Store} {o : Occasion} {assessment : Assessment} {a : Attempt} {d : Dossier}
  {k : Nat}

/-! ## The queue -/

/-- At most so many changes of the review of an attempt are due, whoever looks at it. -/
def DueWithin (s : Store) (a : Attempt) (k : Nat) : Prop :=
  ∀ o review obs, s.review? a.id = .ok review → s.observation o a = .ok obs → obs.due review ≤ k

theorem due_eq_of_observation {o o' : Occasion} {obs obs' : Observation} {review : Option Review}
    (h : s.observation o a = .ok obs) (h' : s.observation o' a = .ok obs') :
    obs'.due review = obs.due review := by
  obtain ⟨hd, hs, hp⟩ := observation_ok h
  obtain ⟨hd', hs', hp'⟩ := observation_ok h'
  exact Observation.due_congr (hd'.trans hd.symm) (hs'.trans hs.symm)
    (Except.ok.inj (hp'.symm.trans hp))

theorem dueWithin_two : s.DueWithin a 2 := fun _ _ _ _ _ => Observation.due_le _ _

theorem DueWithin.track {t : Transition} (hd : s.DueWithin a k) (h : s.track o a = .ok (t, s')) :
    s'.DueWithin a (k - 1) := by
  obtain ⟨review, obs, hr, ho, rfl, hr', -⟩ := track_result h
  intro o' review' obs' hr'' ho'
  rw [track_footprint h] at ho'
  rw [hr'] at hr''
  obtain rfl := Except.ok.inj hr''
  have hobs : s.observation o' a = .ok obs' := ho'
  rw [due_eq_of_observation ho hobs, Observation.due_result]
  have := hd o review obs hr ho
  omega

theorem DueWithin.track_zero {t : Transition} (hd : s.DueWithin a 0)
    (h : s.track o a = .ok (t, s')) : t = .unchanged ∧ s' = s := by
  obtain ⟨review, obs, hr, ho, rfl, -, hsame⟩ := track_result h
  have hzero : obs.due review = 0 := Nat.le_zero.1 (hd o review obs hr ho)
  have hn := Observation.next_of_due_eq_zero hzero
  exact ⟨hn, hsame hn⟩

/-! ## The books as a whole -/

/-- What the books of an event have left to do: nothing but so many changes of a review. -/
def Steady (s : Store) (kind : Event.Kind) (d : Dossier) (k : Nat) : Prop :=
  match kind with
  | .questionGraded => s.Granted d.assessment d.attempt ∧ s.DueWithin d.attempt k
  | .attemptUpdated => s.Exhausted d.assessment d.attempt ∧ s.DueWithin d.attempt k
  | .completionUpdated => True

/-- **Keeping the books once** leaves at most two changes of a review. -/
theorem keepBooks_steady {kind : Event.Kind} {b : BookChanges} (hk : s.Keyed)
    (h : s.keepBooks o kind d = (.ok b, s')) : s'.Steady kind d 2 := by
  have hb := keepBooks_ok h
  cases kind with
  | questionGraded =>
    obtain ⟨change, s₁, t, hg, ht, -⟩ := hb
    refine ⟨?_, dueWithin_two⟩
    have hgranted := grantResit_granted hg
    rw [track_footprint ht]
    exact hgranted
  | attemptUpdated =>
    obtain ⟨t, s₁, n, ht, hn, -⟩ := hb
    have hk₁ : s₁.Keyed := hk.evolves (.elsewhere (by rw [track_footprint ht]))
    exact ⟨takeOver_exhausted hk₁ hn, dueWithin_two⟩
  | completionUpdated => trivial

/-- **Keeping steady books** changes the review at most, and that only while a change is due. -/
theorem Steady.keepBooks {kind : Event.Kind} {b : BookChanges} (hs : s.Steady kind d k)
    (h : s.keepBooks o kind d = (.ok b, s')) :
    s'.Steady kind d (k - 1) ∧ s' = { s with queue := s'.queue } ∧ b.carried = 0 ∧
      (b.allowance = none ∨ ∃ n, b.allowance = some (.unchanged n)) ∧
      (k = 0 → s' = s ∧ (b.queue = none ∨ b.queue = some .unchanged)) := by
  have hb := keepBooks_ok h
  cases kind with
  | questionGraded =>
    obtain ⟨change, s₁, t, hg, ht, rfl⟩ := hb
    obtain ⟨hgranted, hdue⟩ := hs
    obtain ⟨change', hg', hquiet⟩ := hgranted.grantResit
    rw [hg'] at hg
    cases hg
    have hf := track_footprint ht
    refine ⟨⟨by rw [hf]; exact hgranted, hdue.track ht⟩, hf, rfl, hquiet, ?_⟩
    rintro rfl
    obtain ⟨rfl, rfl⟩ := hdue.track_zero ht
    exact ⟨rfl, .inr rfl⟩
  | attemptUpdated =>
    obtain ⟨t, s₁, n, ht, hn, rfl⟩ := hb
    obtain ⟨hexhausted, hdue⟩ := hs
    have hf := track_footprint ht
    have hexhausted₁ : s₁.Exhausted d.assessment d.attempt := by rw [hf]; exact hexhausted
    rw [hexhausted₁.takeOver] at hn
    cases hn
    refine ⟨⟨hexhausted₁, hdue.track ht⟩, hf, rfl, .inl rfl, ?_⟩
    rintro rfl
    obtain ⟨rfl, rfl⟩ := hdue.track_zero ht
    exact ⟨rfl, .inr rfl⟩
  | completionUpdated =>
    obtain ⟨rfl, rfl⟩ := hb
    exact ⟨trivial, rfl, rfl, .inl rfl, fun _ => ⟨rfl, .inl rfl⟩⟩

end Store

end GradeRelay
