import GradeRelay.Proofs.Queue.Change
import GradeRelay.Proofs.Redelivery.Retries
import GradeRelay.Proofs.Resit.Raising
import GradeRelay.Proofs.Resit.Rows
/-!
# The reach of an event

However the handling of an event ends, what it may have written is about one attempt: the review of
that attempt, the allowance of its learner at its assessment, carried steps on its questions with
the notes on these steps, and retries that name it. Everything else is as it was, row by row.

* `Upserted`: a table in which the rows under one key were rewritten, or one was added;
* `track_reach`, `grantResit_reach`, `takeOver_reach`: what each part of the books writes, and
  where;
* `keepBooks_reach`, `followUp_reach`: the books, whether or not they could be brought up to date,
  and the deliveries after them;
* **`handle_reach`**: the reach of an event, by its kind.
-/

namespace GradeRelay

/-! ## Rows under one key -/

/-- The rows under one key are rewritten and stay under it, or one is added where there was none. -/
inductive Upserted {α κ : Type} (key : α → κ) (k : κ) (l : List α) : List α → Prop where
  | rewritten (f : α → α) (keeps : ∀ x, key (f x) = key x) (others : ∀ x, key x ≠ k → f x = x) :
    Upserted key k l (l.map f)
  | added (x : α) (own : key x = k) (free : ∀ y ∈ l, key y ≠ k) : Upserted key k l (l ++ [x])

namespace Upserted

variable {α κ : Type} {key : α → κ} {k : κ} {l l' : List α}

theorem refl (key : α → κ) (k : κ) (l : List α) : Upserted key k l l := by
  have h : Upserted key k l (l.map id) := .rewritten id (fun _ => rfl) fun _ _ => rfl
  rwa [List.map_id] at h

/-- **Who looks for a row under another key** finds the same one. -/
theorem find?_eq (h : Upserted key k l l') {p : α → Bool} {k' : κ} (hne : k' ≠ k)
    (hp : ∀ x, p x = true ↔ key x = k') : l'.find? p = l.find? p := by
  cases h with
  | rewritten f keeps others =>
    have htest : p ∘ f = p := by
      funext x
      rw [Function.comp_apply, Bool.eq_iff_iff, hp, hp, keeps]
    rw [List.find?_map, htest]
    cases hfound : l.find? p with
    | none => rfl
    | some x =>
      have hx : key x = k' := (hp x).1 (List.find?_some hfound)
      rw [Option.map_some, others x (hx.symm ▸ hne)]
  | added x own free =>
    have hno : p x = false := Bool.eq_false_iff.2 fun hx => hne (((hp x).1 hx).symm.trans own)
    rw [List.find?_append, List.find?_singleton, hno, if_neg Bool.false_ne_true, Option.or_none]

end Upserted

namespace Store

variable {s s' : Store} {o : Occasion} {a : Attempt} {d : Dossier} {e : Event}
  {kind : Event.Kind} {assessment : Assessment} {cs : List CarriedStep}

/-! ## The parts of the books -/

theorem applyTransition_upserted (now : Timestamp) (t : Transition) :
    Upserted ReviewRow.attemptId a.id s.queue (s.applyTransition now a t).2.queue := by
  cases t with
  | start assignee prior =>
    simp only [applyTransition, startReview]
    split
    · exact .refl _ _ _
    · next hfree =>
      refine .added _ rfl fun row hrow heq => hfree ?_
      exact List.any_eq_true.2 ⟨row, hrow, decide_eq_true heq⟩
  | finish who =>
    refine .rewritten _ (finishRow_key a.id who now) fun row hne => if_neg fun hpending => hne ?_
    exact ReviewRow.attemptId_of_isPendingFor hpending
  | relink prior =>
    refine .rewritten _ (relinkRow_key a.id prior) fun row hne => if_neg fun hstale => hne ?_
    exact ReviewRow.attemptId_of_isPendingFor (Bool.and_eq_true_iff.1 hstale).1
  | unchanged => exact .refl _ _ _

theorem track_reach {t : Transition} (h : s.track o a = .ok (t, s')) :
    s' = { s with queue := s'.queue } ∧
      Upserted ReviewRow.attemptId a.id s.queue s'.queue := by
  refine ⟨track_footprint h, ?_⟩
  obtain ⟨review, obs, -, -, ⟨hw, -⟩ | ⟨hw, -⟩⟩ := track_ok h
  · have := applyTransition_upserted (s := s) (a := a) o.now (.next review obs)
    rwa [hw] at this
  · have := applyTransition_upserted (s := s) (a := a) o.now (.next review obs)
    rwa [hw] at this

theorem raiseAllowance_upserted (s : Store) (assessmentId : AssessmentId) (learnerId : UserId)
    (n : Ordinal) : Upserted Allowance.pair (assessmentId, learnerId) s.allowances
      (s.raiseAllowance assessmentId learnerId n).2.allowances := by
  unfold raiseAllowance Allowance.Change.request
  cases hal : s.allowance? assessmentId learnerId with
  | none =>
    refine .added _ rfl fun al hmem hpair => ?_
    exact List.find?_eq_none.1 hal al hmem (Allowance.isFor_iff.2 hpair)
  | some al =>
    simp only [Option.map_some]
    by_cases hlt : al.permitted < n
    · rw [if_pos hlt]
      refine .rewritten _ (fun al => ?_) fun al hne => if_neg fun hfor => hne ?_
      · split <;> rfl
      · exact Allowance.isFor_iff.1 hfor
    · rw [if_neg hlt]
      exact .refl _ _ _

theorem grantResit_reach {change : Option Allowance.Change}
    (h : s.grantResit assessment a = .ok (change, s')) :
    s' = { s with allowances := s'.allowances } ∧
      Upserted Allowance.pair (assessment.id, a.learnerId) s.allowances s'.allowances := by
  refine ⟨grantResit_footprint h, ?_⟩
  unfold grantResit at h
  split at h
  · split at h
    · cases h
    · cases h
      exact raiseAllowance_upserted s _ _ _
  · cases h
    exact .refl _ _ _

/-- Steps were added on questions of an attempt, under new numbers, and notes on these steps. -/
def StepsAdded (s : Store) (a : Attempt) (s' : Store) : Prop :=
  ∃ steps notes, s'.steps = s.steps ++ steps ∧ s'.notes = s.notes ++ notes ∧
    (∀ st ∈ steps, (∃ q ∈ s.questions, q.usageId = a.usageId ∧ q.id = st.questionAttemptId) ∧
      ∀ old ∈ s.steps, old.id < st.id) ∧
    ∀ row ∈ notes, ∃ st ∈ steps, st.id = row.stepId

theorem stepsAdded_of_eq (hs : s'.steps = s.steps) (hn : s'.notes = s.notes) :
    s.StepsAdded a s' :=
  ⟨[], [], by rw [hs, List.append_nil], by rw [hn, List.append_nil], fun _ h => (nomatch h),
    fun _ h => (nomatch h)⟩

theorem enter_added (s : Store) (cs : List CarriedStep) :
    ∃ steps notes, (s.enter cs).steps = s.steps ++ steps ∧
      (s.enter cs).notes = s.notes ++ notes ∧
      (∀ st ∈ steps, (∃ c ∈ cs, c.questionAttemptId = st.questionAttemptId) ∧
        ∀ old ∈ s.steps, old.id < st.id) ∧
      ∀ row ∈ notes, ∃ st ∈ steps, st.id = row.stepId := by
  induction cs generalizing s with
  | nil =>
    exact ⟨[], [], (List.append_nil _).symm, (List.append_nil _).symm, fun _ h => (nomatch h),
      fun _ h => (nomatch h)⟩
  | cons c rest ih =>
    obtain ⟨steps, notes, hsteps, hnotes, hnew, hplaced⟩ := ih (s.addCarriedStep c)
    let row := c.row (freshId (s.steps.map (·.id)))
    refine ⟨row :: steps, (c.notes.map fun note => ⟨row.id, note⟩) ++ notes, ?_, ?_,
      List.forall_mem_cons.2 ⟨⟨⟨c, List.mem_cons_self, rfl⟩, fun old hold => ?_⟩,
        fun st hst => ?_⟩, fun note hnote => ?_⟩
    · rw [enter_cons, hsteps, addCarriedStep_eq, List.append_assoc, List.singleton_append]
    · rw [enter_cons, hnotes, addCarriedStep_eq, List.append_assoc]
      rfl
    · exact lt_freshId (List.mem_map_of_mem hold)
    · obtain ⟨⟨c', hc', hid⟩, habove⟩ := hnew st hst
      exact ⟨⟨c', List.mem_cons_of_mem _ hc', hid⟩,
        fun old hold => habove old (List.mem_append_left _ hold)⟩
    · rcases List.mem_append.1 hnote with hnote | hnote
      · obtain ⟨_, -, rfl⟩ := List.mem_map.1 hnote
        exact ⟨row, List.mem_cons_self, rfl⟩
      · obtain ⟨st, hst, hid⟩ := hplaced note hnote
        exact ⟨st, List.mem_cons_of_mem _ hst, hid⟩

theorem takeOver_reach {n : Nat} (h : s.takeOver o assessment a = .ok (n, s')) :
    s' = { s with steps := s'.steps, notes := s'.notes } ∧ s.StepsAdded a s' := by
  refine ⟨takeOver_footprint h, ?_⟩
  obtain ⟨cs, hcs, -, rfl⟩ := takeOver_enter h
  obtain ⟨steps, notes, hsteps, hnotes, hnew, hplaced⟩ := enter_added s cs
  refine ⟨steps, notes, hsteps, hnotes, fun st hst => ?_, hplaced⟩
  obtain ⟨⟨c, hc, hid⟩, habove⟩ := hnew st hst
  obtain ⟨q, hq, hu, hqid⟩ := (carried?_fits hcs).2 c hc
  exact ⟨⟨q, hq, hu, hqid.trans hid⟩, habove⟩

/-! ## The reach -/

/-- What an event about an attempt may have written. Source rows are as they were. Of the queue
only the review of the attempt may have changed, of the allowances only the one of its learner at
its assessment; steps, notes and retries were only added, the steps on questions of the attempt, the
notes on these steps, the retries about the attempt and its learner. A completion writes retries
alone, a graded question no steps, a change of an attempt no allowance. -/
structure Reach (s : Store) (kind : Event.Kind) (a : Attempt) (s' : Store) : Prop where
  sources : s' = { s with queue := s'.queue, allowances := s'.allowances, steps := s'.steps,
                          notes := s'.notes, outbox := s'.outbox }
  queue : Upserted ReviewRow.attemptId a.id s.queue s'.queue
  allowances : Upserted Allowance.pair (a.assessmentId, a.learnerId) s.allowances s'.allowances
  steps : s.StepsAdded a s'
  outbox : ∃ rows, s'.outbox = s.outbox ++ rows ∧
    ∀ row ∈ rows, row.attemptId = a.id ∧ row.learnerId = a.learnerId
  completion : kind = .completionUpdated → s' = { s with outbox := s'.outbox }
  marking : kind = .questionGraded → s'.steps = s.steps ∧ s'.notes = s.notes
  change : kind = .attemptUpdated → s'.allowances = s.allowances

theorem Reach.refl (s : Store) (kind : Event.Kind) (a : Attempt) : s.Reach kind a s where
  sources := rfl
  queue := .refl _ _ _
  allowances := .refl _ _ _
  steps := stepsAdded_of_eq rfl rfl
  outbox := ⟨[], (List.append_nil _).symm, fun _ h => (nomatch h)⟩
  completion _ := rfl
  marking _ := ⟨rfl, rfl⟩
  change _ := rfl

theorem Reach.review?_eq (h : s.Reach kind a s') {id : AttemptId} (hne : id ≠ a.id) :
    s'.review? id = s.review? id := by
  rw [review?, review?, h.queue.find?_eq hne fun _ => decide_eq_true_iff]

theorem Reach.allowance?_eq (h : s.Reach kind a s') {assessmentId : AssessmentId}
    {learnerId : UserId} (hne : (assessmentId, learnerId) ≠ (a.assessmentId, a.learnerId)) :
    s'.allowance? assessmentId learnerId = s.allowance? assessmentId learnerId :=
  h.allowances.find?_eq hne fun _ => Allowance.isFor_iff

/-- **The books of an event** reach its attempt alone, also where a fault left them half kept. -/
theorem keepBooks_reach (hid : d.assessment.id = d.attempt.assessmentId) :
    s.Reach kind d.attempt (s.keepBooks o kind d).2 := by
  cases kind with
  | questionGraded =>
    simp only [keepBooks]
    split
    · exact .refl _ _ _
    · next change s₁ hg =>
      obtain ⟨hs₁, hal⟩ := grantResit_reach hg
      rw [hid] at hal
      -- the table that was written stands as a variable from here on
      generalize s₁.allowances = allowances at hs₁ hal
      subst hs₁
      split
      · exact { Reach.refl s _ _ with sources := rfl, allowances := hal,
                                      completion := by rintro ⟨⟩, change := by rintro ⟨⟩ }
      · next t s₂ ht =>
        obtain ⟨hs₂, hq⟩ := track_reach ht
        generalize s₂.queue = queue at hs₂ hq
        subst hs₂
        exact { Reach.refl s _ _ with sources := rfl, queue := hq, allowances := hal,
                                      completion := by rintro ⟨⟩, change := by rintro ⟨⟩ }
  | attemptUpdated =>
    simp only [keepBooks]
    split
    · exact .refl _ _ _
    · next t s₁ ht =>
      obtain ⟨hs₁, hq⟩ := track_reach ht
      generalize s₁.queue = queue at hs₁ hq
      subst hs₁
      split
      · exact { Reach.refl s _ _ with sources := rfl, queue := hq,
                                      completion := by rintro ⟨⟩ }
      · next n s₂ hn =>
        obtain ⟨hs₂, hst⟩ := takeOver_reach hn
        have hst' : s.StepsAdded d.attempt s₂ := hst
        rw [hs₂] at hst' ⊢
        exact { Reach.refl s _ _ with sources := rfl, queue := hq, steps := hst',
                                      completion := by rintro ⟨⟩, marking := by rintro ⟨⟩ }
  | completionUpdated => exact .refl _ _ _

/-! ## The whole event -/

variable {transport : Transport} {role : Int} {raw : Json} {actor : Option UserId}
  {now : Timestamp}

theorem followUp_reach (hg : s.gather e = .ok d) :
    s.Reach e.kind d.attempt (s.followUp transport o e d).store := by
  obtain ⟨-, hsubject, hassessment, -, -⟩ := gather_eq_ok_iff.1 hg
  have hid : d.assessment.id = d.attempt.assessmentId := by
    simpa using List.find?_some hassessment
  have hbooks : s.Reach e.kind d.attempt (s.keepBooks o e.kind d).2 := keepBooks_reach hid
  obtain ⟨outbox, hs, hkept⟩ := followUp_store s transport o e d
  obtain ⟨rows, hrows, hkeys, -⟩ := hkept.distinct
  obtain ⟨old, hold, hnames⟩ := hbooks.outbox
  rw [hs]
  refine { hbooks with
    sources := ?_, outbox := ⟨old ++ rows, ?_, fun row hrow => ?_⟩, completion := fun h => ?_ }
  · rw [hbooks.sources]
  · rw [hrows, hold, List.append_assoc]
  · rcases List.mem_append.1 hrow with hrow | hrow
    · exact hnames row hrow
    · obtain ⟨-, resource, hlearner, -, -, hattempt, -⟩ := hkeys row hrow
      refine ⟨hattempt, hlearner.trans ?_⟩
      rw [hsubject]
      exact gather_learner hg
  · rw [hbooks.completion h]

/-- **The reach of an event.** Whatever the store holds and however the handling of an event ends,
the store is as it was, or the event's rows were gathered and what was written is within the reach
of its attempt, the one that a report names. The reviews of all other attempts and the allowances
of all other pairs are read as before. -/
theorem handle_reach (s : Store) (transport : Transport) (role : Int) (raw : Json)
    (actor : Option UserId) (now : Timestamp) :
    (s.handle transport role raw actor now).store = s ∨
      ∃ e d, Event.ofJson raw now = .ok e ∧ s.gather e = .ok d ∧
        s.Reach e.kind d.attempt (s.handle transport role raw actor now).store ∧
        (∀ report, (s.handle transport role raw actor now).result = .ok report →
          report.attemptId = some d.attempt.id) ∧
        (∀ id, id ≠ d.attempt.id →
          (s.handle transport role raw actor now).store.review? id = s.review? id) ∧
        ∀ assessmentId learnerId,
          (assessmentId, learnerId) ≠ (d.attempt.assessmentId, d.attempt.learnerId) →
            (s.handle transport role raw actor now).store.allowance? assessmentId learnerId =
              s.allowance? assessmentId learnerId := by
  rcases handle_cases s transport role raw actor now with ⟨result, hend, -⟩ | ⟨e, d, he, hg, -, hf⟩
  · exact .inl (by rw [hend])
  · rw [hf]
    have hreach : s.Reach e.kind d.attempt
        (s.followUp transport ⟨(actor.or e.actor).getD e.subject, now, role⟩ e d).store :=
      followUp_reach hg
    refine .inr ⟨e, d, he, hg, hreach, fun report h => ?_, fun id hne => hreach.review?_eq hne,
      fun assessmentId learnerId hne => hreach.allowance?_eq hne⟩
    obtain ⟨b, s₁, -, ⟨reason, -, hend⟩ | ⟨ns, -, -, hend⟩⟩ := followUp_ok h
    · rw [hend] at h
      cases h
      rfl
    · rw [hend] at h
      cases h
      rfl

end Store

end GradeRelay
