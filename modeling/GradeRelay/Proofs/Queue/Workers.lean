import GradeRelay.Proofs.Footprint
import GradeRelay.Proofs.Queue.Change
import GradeRelay.Proofs.Sample
/-!
# Workers at the queue

Several workers track attempts at the same time. A worker makes its calls to the store one by one,
in the order of `Store.track`; between any two of them other workers may make theirs, and every
table but the queue may be rewritten from elsewhere. What a worker has read may therefore be stale
by the time it writes.

* `Worker.alone_eq_track`: a worker that nobody disturbs does what `Store.track` does;
* `World.Legal.next`: one call keeps the history of every review legal;
* **`World.history_legal`**: from an empty queue on, it is legal under every order of calls.
-/

namespace GradeRelay

/-- How far a worker has come, with what it has been told so far. -/
inductive Stage where
  | entered
  | read (review : Option Review)
  | judged (review : Option Review) (hasDecision : Bool)
  | asked (review : Option Review) (hasDecision byGrader : Bool)
  | observed (review : Option Review) (obs : Observation)
  | returned (t : Transition)
  | failed (f : StoreFault)

/-- A worker brings the review of one attempt up to date. -/
structure Worker where
  occasion : Occasion
  attempt : Attempt
  stage : Stage

namespace Worker

/-- One call to the store. -/
def step (k : Worker) (s : Store) : Worker × Store :=
  match k.stage with
  | .entered =>
    match s.review? k.attempt.id with
    | .ok review => ({ k with stage := .read review }, s)
    | .error f => ({ k with stage := .failed f }, s)
  | .read review =>
    ({ k with stage := .judged review (s.sitting k.attempt).firstDecided?.isSome }, s)
  | .judged review hasDecision =>
    let byGrader := s.hasRole k.occasion.actor k.occasion.graderRole
    ({ k with stage := .asked review hasDecision byGrader }, s)
  | .asked review hasDecision byGrader =>
    match s.priorAttempt? k.attempt with
    | .ok prior =>
      let obs : Observation :=
        { actor := k.occasion.actor, byGrader, hasDecision,
          scored := k.attempt.score.isSome, prior }
      ({ k with stage := .observed review obs }, s)
    | .error f => ({ k with stage := .failed f }, s)
  | .observed review obs =>
    match s.applyTransition k.occasion.now k.attempt (.next review obs) with
    | (true, s) => ({ k with stage := .returned (.next review obs) }, s)
    | (false, s) => ({ k with stage := .returned .unchanged }, s)
  | .returned _ => (k, s)
  | .failed _ => (k, s)

/-- The worker's calls with nobody in between. -/
def alone (k : Worker) (s : Store) : Nat → Worker × Store
  | 0 => (k, s)
  | n + 1 => (k.step s).1.alone (k.step s).2 n

/-- **Five calls of an undisturbed worker** track the attempt. -/
theorem alone_eq_track (o : Occasion) (a : Attempt) (s : Store) :
    alone ⟨o, a, .entered⟩ s 5 =
      match s.track o a with
      | .ok (t, s') => (⟨o, a, .returned t⟩, s')
      | .error f => (⟨o, a, .failed f⟩, s) := by
  unfold Store.track Store.observation
  cases hr : s.review? a.id with
  | error f => simp [alone, step, hr, bind, Except.bind]
  | ok review =>
    cases hp : s.priorAttempt? a with
    | error f => simp [alone, step, hr, hp, bind, Except.bind]
    | ok prior =>
      simp only [alone, step, hr, hp, bind, Except.bind, pure, Except.pure]
      generalize s.applyTransition o.now a _ = written
      rcases written with ⟨_ | _, s'⟩ <;> rfl

/-- The change that a worker has returned. -/
def change? (k : Worker) : Option Change :=
  match k.stage with
  | .returned .unchanged => none
  | .returned t => some ⟨k.attempt, k.occasion.now, t⟩
  | _ => none

/-- **What a call does**: it leaves the queue and the change returned as they are, or it is the
write that the worker returns. -/
theorem step_cases {k k' : Worker} {s s' : Store} (h : k.step s = (k', s')) :
    (k'.change? = k.change? ∧ s'.queue = s.queue) ∨
      (k.change? = none ∧ ∃ t, k'.change? = some ⟨k.attempt, k.occasion.now, t⟩ ∧
        s.applyTransition k.occasion.now k.attempt t = (true, s')) := by
  unfold step at h
  cases hk : k.stage with
  | entered =>
    simp only [hk] at h
    split at h <;> cases h <;> exact .inl ⟨by simp only [change?, hk], rfl⟩
  | read review =>
    simp only [hk] at h
    cases h
    exact .inl ⟨by simp only [change?, hk], rfl⟩
  | judged review hasDecision =>
    simp only [hk] at h
    cases h
    exact .inl ⟨by simp only [change?, hk], rfl⟩
  | asked review hasDecision byGrader =>
    simp only [hk] at h
    split at h <;> cases h <;> exact .inl ⟨by simp only [change?, hk], rfl⟩
  | observed review obs =>
    simp only [hk] at h
    split at h
    · next s₁ hw =>
      cases h
      refine .inr ⟨by simp only [change?, hk], .next review obs, ?_, hw⟩
      -- a write that takes place is none of no change
      cases ht : Transition.next review obs with
      | unchanged =>
        rw [ht] at hw
        cases hw
      | _ => rfl
    · next s₁ hw =>
      cases h
      exact .inl ⟨by simp only [change?, hk], Store.applyTransition_false hw⟩
  | returned t =>
    simp only [hk] at h
    cases h
    exact .inl ⟨rfl, rfl⟩
  | failed f =>
    simp only [hk] at h
    cases h
    exact .inl ⟨rfl, rfl⟩

end Worker

/-! ## Several workers -/

/-- The store, the workers in the order in which they entered, and the changes that they have
returned in the order of their writes. -/
structure World where
  store : Store
  workers : List Worker
  history : List Change

/-- What may happen next: a worker enters, a worker makes a call, or every table but the queue is
rewritten from elsewhere. -/
inductive Action where
  | enter (o : Occasion) (a : Attempt)
  | call (i : Nat)
  | elsewhere (rewrite : Store → Store)

namespace World

/-- Nobody has entered. -/
def start (s : Store) : World := ⟨s, [], []⟩

/-- The world after an action. A call adds to the history the change that it is the first to
return. -/
def next (w : World) : Action → World
  | .enter o a => { w with workers := w.workers ++ [⟨o, a, .entered⟩] }
  | .call i =>
    match w.workers[i]? with
    | none => w
    | some k =>
      let (k', s) := k.step w.store
      { store := s
        workers := w.workers.set i k'
        history := w.history ++ if k.change?.isSome then [] else k'.change?.toList }
  | .elsewhere rewrite => { w with store := { rewrite w.store with queue := w.store.queue } }

/-- The world after actions in a row. -/
def run (w : World) (actions : List Action) : World := actions.foldl next w

@[simp]
theorem run_append (w : World) (earlier later : List Action) :
    w.run (earlier ++ later) = (w.run earlier).run later :=
  List.foldl_append

/-- The changes returned by workers, by worker. -/
def returned (w : World) : List Change := w.workers.filterMap Worker.change?

/-- The changes of one attempt, in the order of their writes. -/
def changesOf (w : World) (id : AttemptId) : List Change :=
  w.history.filter fun c => c.attempt.id = id

end World

namespace World

variable {w : World} {s : Store}

/-- **What an action does**: it leaves the queue, the history and the changes returned as they are,
or one worker's write takes place and is returned. -/
theorem next_cases (w : World) (act : Action) :
    ((w.next act).store.queue = w.store.queue ∧ (w.next act).history = w.history ∧
        (w.next act).returned = w.returned) ∨
      ∃ c : Change, w.store.applyTransition c.now c.attempt c.transition =
          (true, (w.next act).store) ∧
        (w.next act).history = w.history ++ [c] ∧
        (w.next act).returned.Perm (w.returned ++ [c]) := by
  cases act with
  | enter o a =>
    refine .inl ⟨rfl, rfl, ?_⟩
    simp [returned, next, Worker.change?]
  | elsewhere rewrite => exact .inl ⟨rfl, rfl, rfl⟩
  | call i =>
    cases hi : w.workers[i]? with
    | none => exact .inl (by simp only [next, hi, and_self])
    | some k =>
      rcases hk : k.step w.store with ⟨k', s'⟩
      simp only [next, hi, hk, returned]
      rcases Worker.step_cases hk with ⟨hc, hq⟩ | ⟨hn, t, hc, hw⟩
      · refine .inl ⟨hq, ?_, filterMap_set_of_eq hi hc⟩
        rw [hc]
        cases k.change? <;> simp
      · refine .inr ⟨⟨k.attempt, k.occasion.now, t⟩, hw, ?_, filterMap_set_perm hi hn hc⟩
        simp [hn, hc]

/-! ## Legal histories -/

/-- What holds of the queue at every moment: no attempt has two reviews, the history holds just the
changes that were returned, those of one attempt make up a lifecycle, and its review is what they
make one after the other. -/
structure Legal (w : World) : Prop where
  single : (w.store.queue.map (·.attemptId)).Nodup
  returned : w.returned.Perm w.history
  lifecycle (id : AttemptId) : Lifecycle ((w.changesOf id).map (·.transition))
    ((Change.replay (w.changesOf id)).map (·.state))
  stored (id : AttemptId) : w.store.review? id = .ok (Change.replay (w.changesOf id))
  timed (id : AttemptId) (r : Review) : w.store.review? id = .ok (some r) → r.Timed

theorem legal_start (hs : s.queue = []) : (start s).Legal := by
  have hnone : ∀ id, s.review? id = .ok none := fun id => by rw [Store.review?, hs]; rfl
  refine ⟨by simp [start, hs], .refl _, fun id => .untracked, hnone, fun id r h => ?_⟩
  rw [start, hnone] at h
  cases h

/-- **One action keeps the history legal.** -/
theorem Legal.next (hw : w.Legal) (act : Action) : (w.next act).Legal := by
  rcases next_cases w act with ⟨hq, hh, hr⟩ | ⟨c, hc, hh, hr⟩
  · have hreview : ∀ id, (w.next act).store.review? id = w.store.review? id := fun id => by
      rw [Store.review?, hq, ← Store.review?]
    have hof : ∀ id, (w.next act).changesOf id = w.changesOf id := fun id => by
      rw [changesOf, hh, ← changesOf]
    refine ⟨hq ▸ hw.single, hr ▸ hh ▸ hw.returned, fun id => ?_, fun id => ?_, fun id r h => ?_⟩
    · rw [hof]
      exact hw.lifecycle id
    · rw [hof, hreview]
      exact hw.stored id
    · rw [hreview] at h
      exact hw.timed id r h
  · -- the write finds the review that the changes so far have made
    obtain ⟨hfits, hself, hother, hsingle⟩ :=
      Store.applyTransition_true hw.single (hw.stored c.attempt.id) hc
    have hof : (w.next act).changesOf c.attempt.id = w.changesOf c.attempt.id ++ [c] := by
      simp [changesOf, hh]
    have hof' : ∀ id, id ≠ c.attempt.id → (w.next act).changesOf id = w.changesOf id := by
      intro id hid
      simp [changesOf, hh, Ne.symm hid]
    refine ⟨hsingle, hr.trans (hh ▸ hw.returned.append_right _), fun id => ?_, fun id => ?_,
      fun id r h => ?_⟩
    · by_cases hid : id = c.attempt.id
      · subst hid
        rw [hof, Change.replay_concat, List.map_append]
        exact (hw.lifecycle _).concat hfits
      · rw [hof' id hid]
        exact hw.lifecycle id
    · by_cases hid : id = c.attempt.id
      · subst hid
        rw [hof, Change.replay_concat]
        exact hself
      · rw [hof' id hid, hother id hid]
        exact hw.stored id
    · by_cases hid : id = c.attempt.id
      · subst hid
        rw [hself] at h
        refine Change.result_timed (fun r' hr' => hw.timed c.attempt.id r' ?_) (Except.ok.inj h)
        rw [hw.stored, hr']
      · rw [hother id hid] at h
        exact hw.timed id r h

theorem Legal.run (hw : w.Legal) (actions : List Action) : (w.run actions).Legal := by
  induction actions generalizing w with
  | nil => exact hw
  | cons act rest ih => exact ih (hw.next act)

/-! ## What later actions may do to a review -/

theorem Legal.next_review (hw : w.Legal) (act : Action) {id : AttemptId} {r : Review}
    (h : w.store.review? id = .ok (some r)) : (w.next act).store.review? id = .ok (some r) ∨
      ∃ c : Change, c.transition.Fits (some r) ∧
        (w.next act).store.review? id = .ok (c.result (some r)) := by
  rcases next_cases w act with ⟨hq, -, -⟩ | ⟨c, hc, -, -⟩
  · left
    rw [Store.review?, hq, ← Store.review?]
    exact h
  · by_cases hid : id = c.attempt.id
    · subst hid
      obtain ⟨hfits, hself, -, -⟩ := Store.applyTransition_true hw.single h hc
      exact .inr ⟨c, hfits, hself⟩
    · obtain ⟨-, -, hother, -⟩ :=
        Store.applyTransition_true hw.single (hw.stored c.attempt.id) hc
      exact .inl ((hother id hid).trans h)

theorem Legal.next_evolves (hw : w.Legal) (act : Action) {id : AttemptId} {r : Review}
    (h : w.store.review? id = .ok (some r)) :
    ∃ r', (w.next act).store.review? id = .ok (some r') ∧ r.Evolves r' := by
  rcases hw.next_review act h with hsame | ⟨c, hfits, hafter⟩
  · exact ⟨r, hsame, .refl r⟩
  · obtain ⟨r', hr', he⟩ := Change.result_evolves hfits
    exact ⟨r', hafter.trans (congrArg _ hr'), he⟩

theorem Legal.run_evolves (hw : w.Legal) (later : List Action) {id : AttemptId} {r : Review}
    (h : w.store.review? id = .ok (some r)) :
    ∃ r', (w.run later).store.review? id = .ok (some r') ∧ r.Evolves r' := by
  induction later generalizing w r with
  | nil => exact ⟨r, h, .refl r⟩
  | cons act rest ih =>
    obtain ⟨r₁, h₁, he₁⟩ := hw.next_evolves act h
    obtain ⟨r', h', he'⟩ := ih (hw.next act) h₁
    exact ⟨r', h', he₁.trans he'⟩

/-! ## Workers that change nothing -/

theorem change?_next (act : Action) {i : Nat} {k : Worker} {c : Change}
    (hi : w.workers[i]? = some k) (hc : k.change? = some c) :
    ∃ k', (w.next act).workers[i]? = some k' ∧ k'.change? = some c := by
  cases act with
  | enter o a =>
    refine ⟨k, ?_, hc⟩
    have hlt := (List.getElem?_eq_some_iff.1 hi).1
    rw [next, List.getElem?_append_left hlt, hi]
  | elsewhere rewrite => exact ⟨k, hi, hc⟩
  | call j =>
    cases hj : w.workers[j]? with
    | none => exact ⟨k, by simp only [next, hj, hi], hc⟩
    | some k₁ =>
      rcases hk : k₁.step w.store with ⟨k', s'⟩
      simp only [next, hj, hk]
      by_cases hij : j = i
      · subst hij
        obtain rfl : k₁ = k := Option.some.inj (hj.symm.trans hi)
        refine ⟨k', List.getElem?_set_self (List.getElem?_eq_some_iff.1 hi).1, ?_⟩
        rcases Worker.step_cases hk with ⟨hsame, -⟩ | ⟨hnone, -⟩
        · rw [hsame, hc]
        · rw [hnone] at hc
          cases hc
      · exact ⟨k, by rw [List.getElem?_set_ne hij, hi], hc⟩

theorem change?_run (later : List Action) {i : Nat} {k : Worker} {c : Change}
    (hi : w.workers[i]? = some k) (hc : k.change? = some c) :
    ∃ k', (w.run later).workers[i]? = some k' ∧ k'.change? = some c := by
  induction later generalizing w k with
  | nil => exact ⟨k, hi, hc⟩
  | cons act rest ih =>
    obtain ⟨k₁, h₁, hc₁⟩ := change?_next act hi hc
    exact ih h₁ hc₁

theorem call_queue {i : Nat} (h : ∀ k c, (w.next (.call i)).workers[i]? = some k →
    k.change? ≠ some c) : (w.next (.call i)).store.queue = w.store.queue := by
  cases hi : w.workers[i]? with
  | none => simp only [next, hi]
  | some k =>
    rcases hk : k.step w.store with ⟨k', s'⟩
    simp only [next, hi, hk] at h ⊢
    rcases Worker.step_cases hk with ⟨-, hq⟩ | ⟨-, t, hc, -⟩
    · exact hq
    · exact absurd hc (h k' _ (List.getElem?_set_self (List.getElem?_eq_some_iff.1 hi).1))

/-- **The history of the queue is legal under every order of calls.** From an empty queue on, it
is legal at every moment; from then on a review only evolves; and no call of a worker that returns
without a change has touched the queue. -/
theorem history_legal (hs : s.queue = []) (actions : List Action) :
    ((start s).run actions).Legal ∧
      (∀ later id r, ((start s).run actions).store.review? id = .ok (some r) →
        ∃ r', ((start s).run (actions ++ later)).store.review? id = .ok (some r') ∧
          r.Evolves r') ∧
      ∀ earlier i later k, actions = earlier ++ .call i :: later →
        ((start s).run actions).workers[i]? = some k → k.stage = .returned .unchanged →
          ((start s).run (earlier ++ [.call i])).store.queue =
            ((start s).run earlier).store.queue := by
  have hlegal := (legal_start hs).run actions
  refine ⟨hlegal, fun later id r h => ?_, fun earlier i later k hsplit hi hk => ?_⟩
  · simpa using hlegal.run_evolves later h
  · rw [run_append]
    refine call_queue fun k₁ c h₁ hc₁ => ?_
    -- a change returned by that call would still be there at the end
    rw [hsplit, run_append] at hi
    obtain ⟨k', hk', hc'⟩ := change?_run later h₁ hc₁
    obtain rfl : k = k' := Option.some.inj (hi.symm.trans hk')
    rw [Worker.change?, hk] at hc'
    cases hc'

/-- The grader and the administrator both find the attempt without a review; the grader's call to
write comes first. -/
def race : List Action :=
  [.enter ⟨7, 1700100000, Sample.graderRole⟩ (Sample.attempt 42 1 none),
    .enter ⟨2, 1700100001, Sample.graderRole⟩ (Sample.attempt 42 1 none),
    .call 0, .call 1, .call 0, .call 1, .call 0, .call 1, .call 0, .call 1, .call 0, .call 1]

theorem history_legal_race :
    ((start (Sample.decided none)).run race).Legal ∧
      ((start (Sample.decided none)).run race).history.map (·.transition) =
        [.start (some 7) none] :=
  ⟨(history_legal (s := Sample.decided none) rfl race).1, by decide +kernel⟩

end World

end GradeRelay
