import GradeRelay.Proofs.Attempts
import GradeRelay.Proofs.Queue.Observed
import GradeRelay.Proofs.Queue.Tracking
import GradeRelay.Proofs.Queue.Workers
import Mathlib.Logic.Relation
/-!
# Prior links

A review may be linked to the attempt before. The link is set when the review is started and may be
renewed while it is pending, by workers whose reading of the attempts may be stale by then:
attempts are added in any order, several of them under one number, and scored at any time. A link
stays right all the same, for what makes an attempt a prior one never changes once it is stored.

* `Store.Retains`: attempts stay stored, but for their scores;
* `isPrior_of_priorAttempt?`: what is found to be the prior attempt comes just before;
* `World.Sound.next`: one orderly action keeps every link, stored or about to be, right;
* `Store.number_lt_of_chain`: along links the number of the attempt falls;
* **`World.prior_links_sound`**: from an empty queue on, every link is right at every moment.
-/

namespace GradeRelay

/-- A finished attempt of the same learner at the same assessment, with the number just below. -/
structure Attempt.Precedes (b a : Attempt) : Prop where
  finished : b.state = .finished
  assessment : b.assessmentId = a.assessmentId
  learner : b.learnerId = a.learnerId
  number : b.number.toNat + 1 = a.number.toNat

theorem AttemptRow.ComesBefore.read {r : AttemptRow} {a : Attempt} (h : r.ComesBefore a) :
    ∃ b, r.read = .ok b ∧ b.Precedes a := by
  unfold AttemptRow.read
  rw [(AttemptRow.number_below_iff h.resit).2 h.number, Ordinal.ofInt?_toInt]
  exact ⟨_, rfl, h.finished, h.assessment, h.learner, Ordinal.sub_one_add_one h.resit⟩

/-- The prior attempt that a change links a review to. -/
def Transition.prior? : Transition → Option AttemptId
  | .start _ prior => prior
  | .relink prior => some prior
  | _ => none

theorem Transition.prior?_next {review : Option Review} {obs : Observation} {p : AttemptId}
    (h : (next review obs).prior? = some p) : obs.prior = some p := by
  unfold next at h
  split at h
  · split at h
    · exact h
    · cases h
  · split at h
    · cases h
    · split at h
      · cases h
      · split at h
        · next q hq =>
          split at h
          · cases h
          · rw [hq]
            exact h
        · cases h

theorem Change.result_linked (c : Change) {r : Review} {p : AttemptId}
    (h : r.priorAttemptId = some p) :
    ∃ r' q, c.result (some r) = some r' ∧ r'.priorAttemptId = some q := by
  cases ht : c.transition with
  | relink prior =>
    simp only [result, ht]
    exact ⟨_, prior, rfl, rfl⟩
  | _ =>
    simp only [result, ht]
    exact ⟨_, p, rfl, h⟩

theorem Change.result_next_prior {a : Attempt} {now : Timestamp} {review : Option Review}
    {obs : Observation} {r : Review} {p : AttemptId}
    (h : result ⟨a, now, .next review obs⟩ review = some r) (hr : r.state = .pending)
    (hp : obs.prior = some p) : r.priorAttemptId = some p := by
  cases review with
  | none =>
    by_cases hd : obs.hasDecision = true
    · simp only [Transition.next, hd, if_true, result] at h
      cases h
      exact hp
    · simp [Transition.next, hd, result] at h
  | some r₀ =>
    cases hs : r₀.state with
    | finished =>
      simp only [Transition.next, hs, result] at h
      cases h
      rw [hs] at hr
      cases hr
    | pending =>
      by_cases hscored : obs.scored = true
      · simp only [Transition.next, hs, hscored, if_true, result] at h
        cases h
        cases hr
      · by_cases hsame : r₀.priorAttemptId = some p
        · simp only [Transition.next, hs, hscored, hp, hsame, if_true, result] at h
          cases h
          exact hsame
        · simp only [Transition.next, hs, hscored, hp, hsame, if_false, result] at h
          cases h
          rfl

namespace Store

variable {s s' t : Store} {a b : Attempt} {r r' : Review} {id p : AttemptId} {o : Occasion}

/-- The attempt is stored, but for its score. -/
def Holds (s : Store) (a : Attempt) : Prop :=
  ∃ score, s.attempt? a.id = .ok (some { a with score })

/-- Under the number stands an attempt that comes just before another. -/
def IsPrior (s : Store) (a : Attempt) (p : AttemptId) : Prop :=
  ∃ b, s.attempt? p = .ok (some b) ∧ b.Precedes a

/-- The review is that of a stored attempt and bears its number, and what it is linked to comes
just before that attempt. -/
def Anchored (s : Store) (r : Review) : Prop :=
  ∃ a, s.attempt? r.attemptId = .ok (some a) ∧ a.number = r.attemptNumber ∧
    ∀ p, r.priorAttemptId = some p → s.IsPrior a p

/-- The review of the first attempt is linked to the second. -/
def LinksTo (s : Store) (id p : AttemptId) : Prop :=
  ∃ r, s.review? id = .ok (some r) ∧ r.priorAttemptId = some p

/-! ## Attempts stay stored -/

/-- Attempts stay stored, but for their scores. -/
def Retains (s t : Store) : Prop :=
  ∀ id a, s.attempt? id = .ok (some a) → ∃ score, t.attempt? id = .ok (some { a with score })

theorem retains_of_attempts (h : t.attempts = s.attempts) : s.Retains t := by
  intro id a ha
  refine ⟨a.score, ?_⟩
  rw [attempt?, h]
  exact ha

theorem retains_addAttempt (h : s.addAttempt b = .ok t) : s.Retains t := by
  unfold addAttempt at h
  split at h
  · cases h
  · cases h
    intro id a ha
    obtain ⟨row, hrow, hread⟩ := readAttempt_ok ha
    refine ⟨a.score, ?_⟩
    rw [attempt?]
    dsimp only
    rw [List.find?_append, hrow]
    simp only [Option.some_or, readAttempt, hread, Except.map]

theorem read_rescored {row : AttemptRow} {score : Option Float} (h : row.read = .ok a) :
    ({ row with score } : AttemptRow).read = .ok { a with score } := by
  unfold AttemptRow.read at h ⊢
  dsimp only
  split at h
  · cases h
  · cases h
    rfl

theorem retains_setScore (s : Store) (id : AttemptId) (score : Option Float) :
    s.Retains (s.setScore id score) := by
  intro id' a ha
  obtain ⟨row, hrow, hread⟩ := readAttempt_ok ha
  have hkeys : ∀ row : AttemptRow, (if row.id = id then
      { row with score := score.bind Score.stored } else row).id = row.id := by
    intro row
    split <;> rfl
  rw [attempt?, setScore]
  dsimp only
  rw [find?_key_map hkeys, hrow, Option.map_some]
  split
  · refine ⟨score.bind Score.stored, ?_⟩
    simp only [readAttempt, read_rescored hread, Except.map]
  · refine ⟨a.score, ?_⟩
    simp only [readAttempt, hread, Except.map]

/-! ## What stays right -/

theorem Holds.retained (h : s.Holds a) (ht : s.Retains t) : t.Holds a := by
  obtain ⟨score, hscore⟩ := h
  obtain ⟨later, hlater⟩ := ht _ _ hscore
  exact ⟨later, hlater⟩

theorem IsPrior.retained (h : s.IsPrior a p) (ht : s.Retains t) : t.IsPrior a p := by
  obtain ⟨b, hb, hprec⟩ := h
  obtain ⟨later, hlater⟩ := ht _ _ hb
  exact ⟨_, hlater, hprec.finished, hprec.assessment, hprec.learner, hprec.number⟩

theorem IsPrior.rescored (h : s.IsPrior a p) (score : Option Float) :
    s.IsPrior { a with score } p := by
  obtain ⟨b, hb, hprec⟩ := h
  exact ⟨b, hb, hprec.finished, hprec.assessment, hprec.learner, hprec.number⟩

theorem Anchored.retained (h : s.Anchored r) (ht : s.Retains t) : t.Anchored r := by
  obtain ⟨a, ha, hnumber, hprior⟩ := h
  obtain ⟨later, hlater⟩ := ht _ _ ha
  exact ⟨_, hlater, hnumber, fun p hp => ((hprior p hp).retained ht).rescored later⟩

theorem isPrior_of_priorAttempt? (hk : (s.attempts.map (·.id)).Nodup)
    (h : s.priorAttempt? a = .ok (some p)) : s.IsPrior a p := by
  obtain ⟨r, hr, hbefore, rfl, -⟩ := (priorAttempt?_eq_some_iff h).1 rfl
  obtain ⟨b, hread, hprecedes⟩ := hbefore.read
  rw [← (AttemptRow.read_ok hread).1]
  exact ⟨b, attempt?_of_mem hk hr hread, hprecedes⟩

/-- **Tracking an attempt with nobody in between** leaves its review, while that is pending, linked
to the prior attempt that is found. -/
theorem track_prior {tr : Transition} (h : s.track o a = .ok (tr, s'))
    (hr : s'.review? a.id = .ok (some r)) (hpending : r.state = .pending)
    (hp : s.priorAttempt? a = .ok (some p)) : r.priorAttemptId = some p := by
  obtain ⟨review, obs, -, hobs, rfl, hafter, -⟩ := track_result h
  have hprior : obs.prior = some p := by
    simp only [observation, hp, bind, Except.bind, pure, Except.pure] at hobs
    cases hobs
    rfl
  rw [hafter] at hr
  exact Change.result_next_prior (Except.ok.inj hr) hpending hprior

/-! ## One change of a review -/

/-- **A change links to what it may link to**: where its attempt is stored and the prior attempt
that it names comes just before, the review that it makes is right. -/
theorem anchored_result {c : Change} {review : Option Review} (hc : s.Holds c.attempt)
    (hp : ∀ p, c.transition.prior? = some p → s.IsPrior c.attempt p)
    (hr : ∀ r, review = some r → r.attemptId = c.attempt.id ∧ s.Anchored r)
    (h : c.result review = some r') : s.Anchored r' := by
  obtain ⟨score, hscore⟩ := hc
  cases ht : c.transition <;> cases review <;> simp only [Change.result, ht] at h <;> cases h
  case start.none assignee prior =>
    exact ⟨_, hscore, rfl, fun p hprior => (hp p (by rw [ht]; exact hprior)).rescored score⟩
  case relink.some prior r =>
    obtain ⟨hid, a, ha, hnumber, -⟩ := hr r rfl
    refine ⟨a, ha, hnumber, fun p hprior => ?_⟩
    cases hprior
    rw [hid, hscore] at ha
    cases ha
    exact (hp prior (by rw [ht]; rfl)).rescored score
  case finish.some who r => exact (hr r rfl).2
  all_goals exact (hr _ rfl).2

theorem applyTransition_anchored {review : Option Review} {now : Timestamp} {tr : Transition}
    (hk : (s.queue.map (·.attemptId)).Nodup) (hreview : s.review? a.id = .ok review)
    (hs : ∀ id r, s.review? id = .ok (some r) → s.Anchored r) (ha : s.Holds a)
    (hp : ∀ p, tr.prior? = some p → s.IsPrior a p)
    (h : s.applyTransition now a tr = (true, s')) (hr : s'.review? id = .ok (some r)) :
    s.Anchored r := by
  obtain ⟨-, hself, hother, -⟩ := applyTransition_true hk hreview h
  by_cases hid : id = a.id
  · subst hid
    rw [hself] at hr
    refine anchored_result (c := ⟨a, now, tr⟩) ha hp (fun r₀ hr₀ => ?_) (Except.ok.inj hr)
    rw [hr₀] at hreview
    exact ⟨attemptId_of_review? hreview, hs a.id r₀ hreview⟩
  · rw [hother id hid] at hr
    exact hs id r hr

/-! ## Chains of links -/

theorem number_lt_of_link (hs : ∀ id r, s.review? id = .ok (some r) → s.Anchored r)
    (h : s.LinksTo id p) : ∃ a b, s.attempt? id = .ok (some a) ∧ s.attempt? p = .ok (some b) ∧
      b.number < a.number := by
  obtain ⟨r, hr, hp⟩ := h
  obtain ⟨a, ha, -, hprior⟩ := hs id r hr
  obtain ⟨b, hb, hprec⟩ := hprior p hp
  rw [attemptId_of_review? hr] at ha
  refine ⟨a, b, ha, hb, ?_⟩
  have hnumber := hprec.number
  rw [UInt32.lt_iff_toNat_lt]
  omega

/-- **Along links the number of the attempt falls.** -/
theorem number_lt_of_chain (hs : ∀ id r, s.review? id = .ok (some r) → s.Anchored r)
    (h : Relation.TransGen s.LinksTo id p) : ∃ a b, s.attempt? id = .ok (some a) ∧
      s.attempt? p = .ok (some b) ∧ b.number < a.number := by
  induction h with
  | single hlink => exact number_lt_of_link hs hlink
  | tail _ hlink ih =>
    obtain ⟨a, b, ha, hb, hlt⟩ := ih
    obtain ⟨b', c, hb', hc, hlt'⟩ := number_lt_of_link hs hlink
    rw [hb] at hb'
    cases hb'
    exact ⟨a, c, ha, hc, UInt32.lt_trans hlt' hlt⟩

theorem not_cycle (hs : ∀ id r, s.review? id = .ok (some r) → s.Anchored r) (id : AttemptId) :
    ¬ Relation.TransGen s.LinksTo id id := by
  intro h
  obtain ⟨a, b, ha, hb, hlt⟩ := number_lt_of_chain hs h
  rw [ha] at hb
  cases hb
  exact UInt32.lt_irrefl _ hlt

end Store

/-! ## What a worker has read -/

namespace Worker

variable {k k' : Worker} {s s' t : Store} {c : Change} {p : AttemptId}

/-- The prior attempt that a worker is about to link to or has linked to. -/
def prior? (k : Worker) : Option AttemptId :=
  match k.stage with
  | .observed _ obs => obs.prior
  | .returned t => t.prior?
  | _ => none

/-- The attempt of a worker is stored, and what it takes for the prior one comes just before. -/
structure Informed (k : Worker) (s : Store) : Prop where
  attempt : s.Holds k.attempt
  prior (p : AttemptId) : k.prior? = some p → s.IsPrior k.attempt p

theorem Informed.retained (h : k.Informed s) (ht : s.Retains t) : k.Informed t :=
  ⟨h.attempt.retained ht, fun p hp => (h.prior p hp).retained ht⟩

theorem Informed.change (h : k.Informed s) (hc : k.change? = some c) :
    s.Holds c.attempt ∧ ∀ p, c.transition.prior? = some p → s.IsPrior c.attempt p := by
  unfold change? at hc
  split at hc
  · cases hc
  · next t hstage =>
    cases hc
    refine ⟨h.attempt, fun p hp => h.prior p ?_⟩
    rw [prior?, hstage]
    exact hp
  · cases hc

/-- **What a call tells a worker** of the prior attempt: it has known it before or has just looked
for it. No attempt is touched. -/
theorem step_prior? (h : k.step s = (k', s')) :
    k'.attempt = k.attempt ∧ s'.attempts = s.attempts ∧ ∀ p, k'.prior? = some p →
      k.prior? = some p ∨ s.priorAttempt? k.attempt = .ok (some p) := by
  unfold step at h
  cases hk : k.stage with
  | entered =>
    simp only [hk] at h
    split at h <;> cases h <;> exact ⟨rfl, rfl, nofun⟩
  | read review =>
    simp only [hk] at h
    cases h
    exact ⟨rfl, rfl, nofun⟩
  | judged review hasDecision =>
    simp only [hk] at h
    cases h
    exact ⟨rfl, rfl, nofun⟩
  | asked review hasDecision byGrader =>
    simp only [hk] at h
    split at h
    · next prior hprior =>
      cases h
      refine ⟨rfl, rfl, fun p hp => .inr ?_⟩
      rw [hprior]
      exact congrArg _ hp
    · cases h
      exact ⟨rfl, rfl, nofun⟩
  | observed review obs =>
    have hattempts : (s.applyTransition k.occasion.now k.attempt (.next review obs)).2.attempts =
        s.attempts := by rw [Store.applyTransition_footprint]
    simp only [hk] at h
    split at h
    · next s₁ hw =>
      cases h
      rw [hw] at hattempts
      refine ⟨rfl, hattempts, fun p hp => .inl ?_⟩
      simp only [prior?, hk]
      exact Transition.prior?_next hp
    · next s₁ hw =>
      cases h
      rw [hw] at hattempts
      exact ⟨rfl, hattempts, nofun⟩
  | returned t =>
    simp only [hk] at h
    cases h
    exact ⟨rfl, rfl, fun p hp => .inl hp⟩
  | failed f =>
    simp only [hk] at h
    cases h
    exact ⟨rfl, rfl, fun p hp => .inl hp⟩

theorem Informed.step (hw : k.Informed s) (hk : (s.attempts.map (·.id)).Nodup)
    (h : k.step s = (k', s')) : k'.Informed s := by
  obtain ⟨hattempt, -, hprior⟩ := step_prior? h
  refine ⟨?_, fun p hp => ?_⟩
  · rw [hattempt]
    exact hw.attempt
  · rw [hattempt]
    rcases hprior p hp with hknown | hfound
    · exact hw.prior p hknown
    · exact Store.isPrior_of_priorAttempt? hk hfound

end Worker

/-! ## Orderly runs -/

/-- What may happen to a store in a run: a worker enters with a stored attempt, a worker makes a
call, and from elsewhere an attempt is added, or given a score, or none is touched. -/
inductive Action.Orderly (s : Store) : Action → Prop where
  | enter (o : Occasion) {a : Attempt} (h : s.Holds a) : Orderly s (.enter o a)
  | call (i : Nat) : Orderly s (.call i)
  | added {rewrite : Store → Store} (a : Attempt) (h : s.addAttempt a = .ok (rewrite s)) :
    Orderly s (.elsewhere rewrite)
  | scored {rewrite : Store → Store} (id : AttemptId) (score : Option Float)
    (h : rewrite s = s.setScore id score) : Orderly s (.elsewhere rewrite)
  | other {rewrite : Store → Store} (h : (rewrite s).attempts = s.attempts) :
    Orderly s (.elsewhere rewrite)

namespace World

variable {w : World} {s : Store}

/-- Each action is orderly at its moment. -/
def Orderly (w : World) : List Action → Prop
  | [] => True
  | act :: rest => act.Orderly w.store ∧ (w.next act).Orderly rest

/-- What holds at every moment of an orderly run: the history is legal, attempts bear different
numbers, every worker is informed, and every review is right. -/
structure Sound (w : World) : Prop where
  legal : w.Legal
  keyed : (w.store.attempts.map (·.id)).Nodup
  informed (k : Worker) : k ∈ w.workers → k.Informed w.store
  anchored (id : AttemptId) (r : Review) :
    w.store.review? id = .ok (some r) → w.store.Anchored r

theorem sound_start (hs : s.queue = []) (hk : (s.attempts.map (·.id)).Nodup) :
    (start s).Sound := by
  refine ⟨legal_start hs, hk, fun k hk => (nomatch hk), fun id r h => ?_⟩
  rw [Store.review?_eq_ok_iff, start, hs] at h
  cases h

theorem Sound.call (hw : w.Sound) (i : Nat) : (w.next (.call i)).Sound := by
  have hlegal := hw.legal.next (.call i)
  cases hi : w.workers[i]? with
  | none =>
    have hsame : w.next (.call i) = w := by simp only [next, hi]
    rw [hsame]
    exact hw
  | some k =>
    rcases hk : k.step w.store with ⟨k', s'⟩
    have hinformed : k'.Informed w.store :=
      (hw.informed k (List.mem_of_getElem? hi)).step hw.keyed hk
    have hattempts : s'.attempts = w.store.attempts := (Worker.step_prior? hk).2.1
    have hretains := Store.retains_of_attempts hattempts
    simp only [next, hi, hk] at hlegal ⊢
    refine ⟨hlegal, ?_, fun k₁ hk₁ => ?_, fun id r hr => ?_⟩
    · rw [hattempts]
      exact hw.keyed
    · rcases List.mem_or_eq_of_mem_set hk₁ with hold | rfl
      · exact (hw.informed k₁ hold).retained hretains
      · exact hinformed.retained hretains
    · refine Store.Anchored.retained ?_ hretains
      rcases Worker.step_cases hk with ⟨-, hq⟩ | ⟨-, t, hc, hwrite⟩
      · rw [Store.review?, hq, ← Store.review?] at hr
        exact hw.anchored id r hr
      · -- the worker returns what it writes
        obtain ⟨hholds, hprior⟩ := hinformed.change hc
        exact Store.applyTransition_anchored hw.legal.single (hw.legal.stored k.attempt.id)
          hw.anchored hholds hprior hwrite hr

theorem Sound.elsewhere {rewrite : Store → Store} (hw : w.Sound)
    (hk : ((rewrite w.store).attempts.map (·.id)).Nodup) (hr : w.store.Retains (rewrite w.store)) :
    (w.next (.elsewhere rewrite)).Sound := by
  have hretains : w.store.Retains (w.next (.elsewhere rewrite)).store := hr
  exact ⟨hw.legal.next _, hk, fun k h => (hw.informed k h).retained hretains,
    fun id r h => (hw.anchored id r h).retained hretains⟩

/-- **One orderly action keeps every link right**, stored or about to be. -/
theorem Sound.next (hw : w.Sound) {act : Action} (h : act.Orderly w.store) :
    (w.next act).Sound := by
  cases h with
  | @enter o a ha =>
    refine ⟨hw.legal.next _, hw.keyed, fun k hk => ?_, hw.anchored⟩
    rcases List.mem_append.1 hk with hold | hnew
    · exact hw.informed k hold
    · obtain rfl := List.mem_singleton.1 hnew
      exact ⟨ha, nofun⟩
  | call i => exact hw.call i
  | added a ha =>
    exact hw.elsewhere (Store.addAttempt_nodup hw.keyed ha) (Store.retains_addAttempt ha)
  | scored id score hs =>
    refine hw.elsewhere ?_ ?_
    · simpa [hs] using hw.keyed
    · rw [hs]
      exact Store.retains_setScore w.store id score
  | other hs =>
    refine hw.elsewhere ?_ (Store.retains_of_attempts hs)
    rw [hs]
    exact hw.keyed

theorem Sound.run (hw : w.Sound) {actions : List Action} (h : w.Orderly actions) :
    (w.run actions).Sound := by
  induction actions generalizing w with
  | nil => exact hw
  | cons act rest ih => exact ih (hw.next h.1) h.2

/-! ## A link is not lost -/

theorem Legal.next_linked (hw : w.Legal) (act : Action) {id p : AttemptId}
    (h : w.store.LinksTo id p) : ∃ q, (w.next act).store.LinksTo id q := by
  obtain ⟨r, hr, hp⟩ := h
  rcases hw.next_review act hr with hsame | ⟨c, -, hafter⟩
  · exact ⟨p, r, hsame, hp⟩
  · obtain ⟨r', q, hr', hq⟩ := Change.result_linked c hp
    rw [hr'] at hafter
    exact ⟨q, r', hafter, hq⟩

/-- **Whatever happens later**, a review that is linked stays linked. -/
theorem Legal.run_linked (hw : w.Legal) (later : List Action) {id p : AttemptId}
    (h : w.store.LinksTo id p) : ∃ q, (w.run later).store.LinksTo id q := by
  induction later generalizing w p with
  | nil => exact ⟨p, h⟩
  | cons act rest ih =>
    obtain ⟨q, hq⟩ := hw.next_linked act h
    exact ih (hw.next act) hq

/-! ## Prior links -/

/-- What holds of prior links: what a review is linked to comes just before its attempt; a review
that is linked stays linked, whatever happens later; along links the number of the attempt falls,
and no chain of them comes back to where it started; and an attempt tracked with nobody in between
is left, while its review is pending, with the prior attempt that is found. -/
structure PriorLinks (w : World) : Prop where
  anchored (id : AttemptId) (r : Review) : w.store.review? id = .ok (some r) →
    r.attemptId = id ∧ w.store.Anchored r
  kept (later : List Action) (id p : AttemptId) : w.store.LinksTo id p →
    ∃ q, (w.run later).store.LinksTo id q
  falls (id p : AttemptId) (r r' : Review) : Relation.TransGen w.store.LinksTo id p →
    w.store.review? id = .ok (some r) → w.store.review? p = .ok (some r') →
      r'.attemptNumber < r.attemptNumber
  acyclic (id : AttemptId) : ¬ Relation.TransGen w.store.LinksTo id id
  fresh (o : Occasion) (a : Attempt) (t : Transition) (s' : Store) (r : Review) (p : AttemptId) :
    w.store.track o a = .ok (t, s') → s'.review? a.id = .ok (some r) → r.state = .pending →
      w.store.priorAttempt? a = .ok (some p) → r.priorAttemptId = some p

theorem Sound.priorLinks (hw : w.Sound) : w.PriorLinks where
  anchored id r hr := ⟨Store.attemptId_of_review? hr, hw.anchored id r hr⟩
  kept later _ _ h := hw.legal.run_linked later h
  falls id p r r' h hr hr' := by
    obtain ⟨a, b, ha, hb, hlt⟩ := Store.number_lt_of_chain hw.anchored h
    obtain ⟨a', ha', hnumber, -⟩ := hw.anchored id r hr
    obtain ⟨b', hb', hnumber', -⟩ := hw.anchored p r' hr'
    rw [Store.attemptId_of_review? hr, ha] at ha'
    rw [Store.attemptId_of_review? hr', hb] at hb'
    cases ha'
    cases hb'
    rw [← hnumber, ← hnumber']
    exact hlt
  acyclic := Store.not_cycle hw.anchored
  fresh _ _ _ _ _ _ h hr hpending hp := Store.track_prior h hr hpending hp

/-- **Prior links are sound** in every state that an orderly run leads to from an empty queue, in
whatever order the workers make their calls and whatever they have read before. -/
theorem prior_links_sound (hs : s.queue = []) (hk : (s.attempts.map (·.id)).Nodup)
    {actions : List Action} (ho : (start s).Orderly actions) :
    ((start s).run actions).PriorLinks :=
  ((sound_start hs hk).run ho).priorLinks

/-- A resit that a grader has decided about, before the first sitting is known. -/
def resat : Store :=
  { Sample.decided none with attempts := [.ofAttempt (Sample.attempt 42 2 none)] }

/-- The grader starts a review without a prior attempt. The administrator finds the first sitting,
and then another one is added under the same number; the grader links to that, and the
administrator's call to write comes last. -/
def staleLink : List Action :=
  [.enter ⟨7, 1700100000, Sample.graderRole⟩ (Sample.attempt 42 2 none),
    .enter ⟨2, 1700100001, Sample.graderRole⟩ (Sample.attempt 42 2 none),
    .enter ⟨7, 1700100002, Sample.graderRole⟩ (Sample.attempt 42 2 none),
    .call 0, .call 0, .call 0, .call 0, .call 0,
    .elsewhere fun s =>
      { s with attempts := s.attempts ++ [.ofAttempt (Sample.attempt 41 1 none)] },
    .call 1, .call 1, .call 1, .call 1,
    .elsewhere (·.setScore 41 (some 4)),
    .elsewhere fun s =>
      { s with attempts := s.attempts ++ [.ofAttempt (Sample.attempt 43 1 none)] },
    .call 2, .call 2, .call 2, .call 2, .call 2,
    .call 1]

theorem prior_links_sound_stale :
    ((start resat).run staleLink).store.LinksTo 42 41 ∧
      ((start resat).run staleLink).history.map (·.transition) =
        [.start (some 7) none, .relink 43, .relink 41] ∧
      ((start resat).run staleLink).PriorLinks := by
  have hreview : ((start resat).run staleLink).store.review? 42 = .ok (some
      { attemptId := 42, priorAttemptId := some 41, assignee := some 7, attemptNumber := 2,
        state := .pending, timeStart := 1700100000, timeFinish := none }) :=
    Except.ok_of_toOption (by decide +kernel)
  refine ⟨⟨_, hreview, rfl⟩, by decide +kernel,
    prior_links_sound rfl (by decide +kernel) ?_⟩
  simp only [Orderly, staleLink]
  exact ⟨.enter _ ⟨none, rfl⟩, .enter _ ⟨none, rfl⟩, .enter _ ⟨none, rfl⟩,
    .call 0, .call 0, .call 0, .call 0, .call 0, .added _ (if_neg (by decide +kernel)),
    .call 1, .call 1, .call 1, .call 1, .scored 41 (some 4) rfl,
    .added _ (if_neg (by decide +kernel)),
    .call 2, .call 2, .call 2, .call 2, .call 2, .call 1, trivial⟩

end World

end GradeRelay
