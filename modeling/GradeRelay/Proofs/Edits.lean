import GradeRelay.Proofs.Queue.Change
import GradeRelay.Proofs.Resit.Raising
/-!
# Edits of tables

What an event does to the queue and to the allowances is an edit: some rows are rewritten where they
stand, and some are added behind. An edit that keeps to rows of one kind does not show in the rows
of another, and two edits that keep to different kinds may be made in either order: only the rows
added come in another order then.

* `Edit.Within`, `Edit.find?_apply`: edits of rows of one kind, and what others find;
* **`Edit.comm`**: two edits in either order;
* `Rearranged`: tables that are the same but for the order of the last rows;
* `track_eq`, `raiseAllowance_eq`: the edits that the books are kept by.
-/

namespace GradeRelay

/-- A change of a table: its rows are rewritten where they stand, and others are added behind. -/
structure Edit (α : Type) where
  rewrite : α → α := id
  added : List α := []

namespace Edit

variable {α : Type}

/-- The table after an edit. -/
def apply (e : Edit α) (l : List α) : List α := l.map e.rewrite ++ e.added

@[simp]
theorem apply_nothing (l : List α) : ({} : Edit α).apply l = l := by
  rw [apply, List.map_id, List.append_nil]

/-- The edit keeps to its own rows: it leaves the others as they are, and makes no row that is not
its own. -/
structure Within (e : Edit α) (own : α → Prop) : Prop where
  others : ∀ x, ¬ own x → e.rewrite x = x
  stays : ∀ x, own x → own (e.rewrite x)
  adds : ∀ x ∈ e.added, own x

theorem within_nothing (own : α → Prop) : ({} : Edit α).Within own :=
  ⟨fun _ _ => rfl, fun _ h => h, fun _ h => (nomatch h)⟩

variable {e e' : Edit α} {own own' : α → Prop} {p : α → Bool}

theorem find?_eq_none_of_own {l : List α} (hp : ∀ x, p x = true → ¬ own x) (hl : ∀ x ∈ l, own x) :
    l.find? p = none :=
  List.find?_eq_none.2 fun x hx hpx => hp x hpx (hl x hx)

/-- **An edit of its own rows** does not show to who looks for others. -/
theorem find?_apply (h : e.Within own) (hp : ∀ x, p x = true → ¬ own x) (l : List α) :
    (e.apply l).find? p = l.find? p := by
  have htest : p ∘ e.rewrite = p := by
    funext x
    by_cases hx : own x
    · have hno : ∀ y, own y → p y = false := fun y hy => Bool.eq_false_iff.2 fun hpy => hp y hpy hy
      rw [Function.comp_apply, hno x hx, hno _ (h.stays x hx)]
    · rw [Function.comp_apply, h.others x hx]
  rw [apply, List.find?_append, find?_eq_none_of_own hp h.adds, Option.or_none, List.find?_map,
    htest]
  cases hfound : l.find? p with
  | none => rfl
  | some x => rw [Option.map_some, h.others x (hp x (List.find?_some hfound))]

theorem map_added (h : e.Within own) {l : List α} (hl : ∀ x ∈ l, ¬ own x) :
    l.map e.rewrite = l := by
  have hid : l.map e.rewrite = l.map id := List.map_congr_left fun x hx => h.others x (hl x hx)
  rw [hid, List.map_id]

/-- **Two edits in either order** rewrite the same rows in the same way, and add the same rows in
another order. -/
theorem comm (h : e.Within own) (h' : e'.Within own') (hd : ∀ x, own x → ¬ own' x) (l : List α) :
    ∃ kept, kept.length = l.length ∧ e'.apply (e.apply l) = kept ++ (e.added ++ e'.added) ∧
      e.apply (e'.apply l) = kept ++ (e'.added ++ e.added) := by
  have hsame : e.rewrite ∘ e'.rewrite = e'.rewrite ∘ e.rewrite := by
    funext x
    rw [Function.comp_apply, Function.comp_apply]
    by_cases hx : own x
    · rw [h'.others x (hd x hx), h'.others _ (hd _ (h.stays x hx))]
    · by_cases hx' : own' x
      · rw [h.others x hx, h.others _ fun hy => hd _ hy (h'.stays x hx')]
      · rw [h'.others x hx', h.others x hx, h'.others x hx']
  refine ⟨l.map (e'.rewrite ∘ e.rewrite), List.length_map _, ?_, ?_⟩
  · rw [apply, apply, List.map_append, List.map_map, map_added h' fun x hx => hd x (h.adds x hx),
      List.append_assoc]
  · rw [apply, apply, List.map_append, List.map_map, hsame,
      map_added h fun x hx hown => hd x hown (h'.adds x hx), List.append_assoc]

theorem find?_comm (h : e.Within own) (h' : e'.Within own') (hd : ∀ x, own x → ¬ own' x)
    (hp : (∀ x, p x = true → ¬ own x) ∨ ∀ x, p x = true → ¬ own' x) (l : List α) :
    (e.apply (e'.apply l)).find? p = (e'.apply (e.apply l)).find? p := by
  obtain ⟨kept, -, hl, hl'⟩ := comm h h' hd l
  simp only [hl, hl', List.find?_append]
  rcases hp with hp | hp
  · rw [find?_eq_none_of_own hp h.adds, Option.or_none, Option.none_or]
  · rw [find?_eq_none_of_own hp h'.adds, Option.or_none, Option.none_or]

end Edit

/-- Tables that begin with the same rows, so many of them, and go on with the same rows in some
order, seen in a way that leaves their numbers out. -/
def Rearranged {α : Type} (n : Nat) (view : α → α) (l l' : List α) : Prop :=
  ∃ kept added added', kept.length = n ∧ l = kept ++ added ∧ l' = kept ++ added' ∧
    (added.map view).Perm (added'.map view)

theorem Edit.rearranged {α : Type} {e e' : Edit α} {own own' : α → Prop} (h : e.Within own)
    (h' : e'.Within own') (hd : ∀ x, own x → ¬ own' x) (l : List α) :
    Rearranged l.length id (e'.apply (e.apply l)) (e.apply (e'.apply l)) := by
  obtain ⟨kept, hn, hl, hl'⟩ := comm h h' hd l
  exact ⟨kept, _, _, hn, hl, hl', List.perm_append_comm.map id⟩

/-! ## The queue -/

/-- The edit of the queue that a change of a review comes to. -/
def Change.edit (c : Change) : Edit ReviewRow :=
  match c.transition with
  | .start assignee prior =>
    { added := [.ofReview
        { attemptId := c.attempt.id, priorAttemptId := prior, assignee,
          attemptNumber := c.attempt.number, state := .pending, timeStart := c.now,
          timeFinish := none }] }
  | .finish who =>
    { rewrite := fun row =>
        if row.isPendingFor c.attempt.id then
          { row with assignee := some who, state := Review.State.finished.code,
                     timeFinish := some c.now }
        else row }
  | .relink prior =>
    { rewrite := fun row =>
        if row.isPendingFor c.attempt.id && row.priorAttemptId != some prior then
          { row with priorAttemptId := some prior }
        else row }
  | .unchanged => {}

theorem Change.edit_within {c : Change} {own : AttemptId → Prop} (h : own c.attempt.id) :
    c.edit.Within fun row => own row.attemptId := by
  unfold edit
  split
  · refine ⟨fun _ _ => rfl, fun _ hrow => hrow, fun row hrow => ?_⟩
    obtain rfl := List.mem_singleton.1 hrow
    exact h
  · refine ⟨fun row hrow => if_neg fun hpend => hrow ?_, fun row hrow => ?_, fun _ h => (nomatch h)⟩
    · rw [ReviewRow.attemptId_of_isPendingFor hpend]
      exact h
    · dsimp only
      rw [Store.finishRow_key]
      exact hrow
  · refine ⟨fun row hrow => if_neg fun hstale => hrow ?_, fun row hrow => ?_,
      fun _ h => (nomatch h)⟩
    · rw [ReviewRow.attemptId_of_isPendingFor (Bool.and_eq_true_iff.1 hstale).1]
      exact h
    · dsimp only
      rw [Store.relinkRow_key]
      exact hrow
  · exact Edit.within_nothing _

namespace Store

variable {s : Store} {o : Occasion} {a : Attempt}

theorem applyTransition_edit {now : Timestamp} {t : Transition}
    (h : (s.applyTransition now a t).1 = true) : s.applyTransition now a t =
      (true, { s with queue := (Change.edit ⟨a, now, t⟩).apply s.queue }) := by
  cases t with
  | start assignee prior =>
    simp only [applyTransition, startReview] at h ⊢
    split
    · next hany =>
      rw [if_pos hany] at h
      cases h
    · simp only [Change.edit, Edit.apply, List.map_id]
  | finish who =>
    simp only [applyTransition, finishReview] at h ⊢
    rw [h]
    simp only [Change.edit, Edit.apply, List.append_nil]
  | relink prior =>
    simp only [applyTransition, relinkReview] at h ⊢
    rw [h]
    simp only [Change.edit, Edit.apply, List.append_nil]
  | unchanged => cases h

/-- **Tracking an attempt** makes the edit that the stored review and the observation call for. -/
theorem track_eq {review : Option Review} {obs : Observation} (hr : s.review? a.id = .ok review)
    (ho : s.observation o a = .ok obs) : s.track o a = .ok (.next review obs,
      { s with queue := (Change.edit ⟨a, o.now, .next review obs⟩).apply s.queue }) := by
  unfold track
  rw [hr, ho]
  simp only [bind, Except.bind]
  rcases Transition.next_fits review obs with hn | hf
  · simp only [hn, applyTransition, Change.edit, Edit.apply_nothing]
    rfl
  · rw [applyTransition_edit (applyTransition_of_fits o.now hr hf).1]
    rfl

end Store

/-! ## The allowances -/

/-- The edit of the allowances that the answer to a request comes to. -/
def Allowance.Change.edit (assessmentId : AssessmentId) (learnerId : UserId) :
    Allowance.Change → Edit Allowance
  | .created permitted => { added := [{ assessmentId, learnerId, permitted }] }
  | .raised _ permitted =>
    { rewrite := fun al =>
        if al.isFor assessmentId learnerId then { al with permitted } else al }
  | .unchanged _ => {}

theorem Allowance.Change.edit_within {assessmentId : AssessmentId} {learnerId : UserId}
    {own : UserId → Prop} (h : own learnerId) (change : Allowance.Change) :
    (change.edit assessmentId learnerId).Within fun al => own al.learnerId := by
  cases change with
  | created permitted =>
    refine ⟨fun _ _ => rfl, fun _ hal => hal, fun al hal => ?_⟩
    obtain rfl := List.mem_singleton.1 hal
    exact h
  | raised was permitted =>
    refine ⟨fun al hal => if_neg fun hfor => hal ?_, fun al hal => ?_, fun _ h => (nomatch h)⟩
    · cases Allowance.isFor_iff.1 hfor
      exact h
    · simp only [edit]
      split <;> exact hal
  | unchanged n => exact Edit.within_nothing _

theorem Store.raiseAllowance_eq (s : Store) (assessmentId : AssessmentId) (learnerId : UserId)
    (n : Ordinal) : s.raiseAllowance assessmentId learnerId n =
      ((s.raiseAllowance assessmentId learnerId n).1,
        { s with allowances := ((s.raiseAllowance assessmentId learnerId n).1.edit assessmentId
            learnerId).apply s.allowances }) := by
  unfold Store.raiseAllowance
  dsimp only
  split <;> next h =>
    rw [h]
    simp only [Allowance.Change.edit, Edit.apply, List.map_id, List.append_nil]

end GradeRelay
