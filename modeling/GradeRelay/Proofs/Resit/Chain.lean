import GradeRelay.Proofs.Resit.Rows
/-!
# Chains of resits

A learner who sits an assessment again and again has each resit take over from the one before. What
a grader remarked on the first sitting is copied from sitting to sitting, and every copy is read
back before it is copied again.

* `Takeover.notes_eq_remarks`: what is noted on a carried step, in terms of the notes of the
  accepted one;
* `Takeover.notes_notes`: a copy of the notes is copied as they were;
* `takeOver_onto`: one link of the chain;
* `takeOverAll_stepsOf`: questions of other attempts are left alone;
* **`remarks_survive`**: every resit of a chain ends with one acceptance, and with the remarks of
  the first sitting.
-/

namespace GradeRelay

/-! ## The notes of a carried step -/

/-- What was noted last under a name. -/
def NotedStep.lastValue? (ns : NotedStep) (name : String) : Option String :=
  ((ns.notes.filter fun note => note.name = name).getLast?).map (·.value)

theorem NotedStep.map_value_note? (ns : NotedStep) (name : String) :
    (ns.note? name).map (·.value) = ns.lastValue? name := by
  rw [note?, lastValue?, List.getLast?_eq_head?_reverse, ← List.filter_reverse, List.head?_filter]

theorem NotedStep.name_of_note? {ns : NotedStep} {name : String} {note : Note}
    (h : ns.note? name = some note) : note.name = name :=
  of_decide_eq_true (List.find?_some h :)

namespace Takeover

/-- What is noted on a resit about an accepted answer: nothing unless the grader made a remark, else
the remark, how it is marked up, the mark and the greatest mark. -/
def remarks (w : NotedStep) : List Note :=
  match w.lastValue? "-comment" with
  | none => []
  | some remark =>
    [⟨"-comment", remark⟩, ⟨"-commentformat", (w.lastValue? "-commentformat").getD "1"⟩,
      ⟨"-mark", (w.lastValue? "-mark").getD "1"⟩,
      ⟨"-maxmark", (w.lastValue? "-maxmark").getD "1"⟩]

/-- **The notes of a carried step** are what is to be noted about the accepted one. -/
theorem notes_eq_remarks (w : NotedStep) : notes w = remarks w := by
  have hvalue := w.map_value_note? Note.comment
  unfold notes remarks
  cases hnote : w.note? Note.comment with
  | none =>
    rw [hnote, Option.map_none] at hvalue
    rw [← Note.comment, ← hvalue]
  | some note =>
    rw [hnote, Option.map_some] at hvalue
    have hname := NotedStep.name_of_note? hnote
    rw [← Note.comment, ← hvalue]
    simp only [List.map_cons, List.map_nil, NotedStep.map_value_note?]
    rw [← hname]
    rfl

theorem notes_notes {w w' : NotedStep} (h : w'.notes = notes w) : notes w' = notes w := by
  rw [notes_eq_remarks] at h ⊢
  rw [notes_eq_remarks]
  cases hremark : w.lastValue? "-comment" with
  | none =>
    have hnil : remarks w = [] := by rw [remarks, hremark]
    rw [hnil] at h ⊢
    rw [remarks, NotedStep.lastValue?, h]
    rfl
  | some remark =>
    have hfour : w'.notes = [⟨"-comment", remark⟩,
        ⟨"-commentformat", (w.lastValue? "-commentformat").getD "1"⟩,
        ⟨"-mark", (w.lastValue? "-mark").getD "1"⟩,
        ⟨"-maxmark", (w.lastValue? "-maxmark").getD "1"⟩] := by
      rw [h, remarks, hremark]
    rw [← h, hfour]
    -- each of the four names is there once
    have hcomment : w'.lastValue? "-comment" = some remark := by
      simp [NotedStep.lastValue?, hfour]
    have hformat : w'.lastValue? "-commentformat" =
        some ((w.lastValue? "-commentformat").getD "1") := by
      simp [NotedStep.lastValue?, hfour]
    have hmark : w'.lastValue? "-mark" = some ((w.lastValue? "-mark").getD "1") := by
      simp [NotedStep.lastValue?, hfour]
    have hmax : w'.lastValue? "-maxmark" = some ((w.lastValue? "-maxmark").getD "1") := by
      simp [NotedStep.lastValue?, hfour]
    rw [remarks, hcomment, hformat, hmark, hmax]
    rfl

end Takeover

namespace Store

variable {s s' : Store} {o : Occasion} {assessment : Assessment} {a p : Attempt} {n : Nat}
  {cs : List CarriedStep} {q : Question} {questionId : Int}

/-! ## Attempts and questions that stand alone -/

/-- The attempt's row is the only one of its learner, assessment and number. -/
def OnlyRow (s : Store) (a : Attempt) : Prop :=
  ∃ r, (s.attempts.filter fun r => r.assessmentId = a.assessmentId && r.learnerId = a.learnerId &&
    r.number = a.number.toInt) = [r] ∧ r.read = .ok a

/-- The question is asked once in the attempt, and graded by hand. -/
def AskedOnce (s : Store) (a : Attempt) (questionId : Int) (q : Question) : Prop :=
  (s.questions.filter fun q => q.usageId = a.usageId && q.questionId = questionId) = [q] ∧
    q.isManual = true

theorem OnlyRow.attemptNumbered? (h : s.OnlyRow a) :
    s.attemptNumbered? a.assessmentId a.learnerId a.number false = .ok (some a) := by
  obtain ⟨r, hrow, hread⟩ := h
  unfold Store.attemptNumbered?
  simp only [Bool.not_false, Bool.true_or, Bool.and_true]
  rw [hrow]
  show r.read.map some = .ok (some a)
  rw [hread]
  rfl

theorem AskedOnce.mem_iff (h : s.AskedOnce a questionId q) {q' : Question} :
    q' ∈ s.questions ∧ q'.usageId = a.usageId ∧ q'.questionId = questionId ↔ q' = q := by
  have hiff : q' ∈ (s.questions.filter fun q => q.usageId = a.usageId &&
      q.questionId = questionId) ↔ q' = q := by
    rw [h.1, List.mem_singleton]
  rwa [List.mem_filter, Bool.and_eq_true, decide_eq_true_eq, decide_eq_true_eq] at hiff

theorem AskedOnce.history? (h : s.AskedOnce a questionId q) :
    (s.sitting a).history? questionId = some ⟨q, s.stepsOf q.id⟩ := by
  obtain ⟨hq, hu, hid⟩ := h.mem_iff.2 rfl
  have hmem : ⟨q, s.stepsOf q.id⟩ ∈ (s.sitting a).questions := mem_questions_sitting.2 ⟨hq, hu, rfl⟩
  cases hfound : (s.sitting a).history? questionId with
  | none =>
    have hnone := List.find?_eq_none.1 hfound _ hmem
    exact absurd (decide_eq_true hid) hnone
  | some found =>
    obtain ⟨hfmem, hfid⟩ := of_history? hfound
    obtain ⟨hfq, hfu, hfs⟩ := mem_questions_sitting.1 hfmem
    have hsame : found.question = q := h.mem_iff.1 ⟨hfq, hfu, hfid⟩
    rw [hsame] at hfs
    exact congrArg some (QuestionHistory.ext hsame hfs)

end Store

/-- A step accepts the answer with full marks, as the learner's own and with the given notes. -/
structure NotedStep.IsAcceptance (ns : NotedStep) (learnerId : UserId) (notes : List Note) :
    Prop where
  accepted : ns.step.state = .accepted
  full : ns.step.fraction = some 1.0
  own : ns.step.userId = learnerId
  noted : ns.notes = notes

/-- A question waits: no grader has accepted an answer yet, and the latest step waits for
grading. -/
def QuestionHistory.Awaits (q : QuestionHistory) : Prop :=
  q.reached .accepted = false ∧ q.lastStep?.map (·.step.state) = some .needsGrading

instance (q : QuestionHistory) : Decidable q.Awaits := inferInstanceAs (Decidable (_ ∧ _))

namespace Store

/-! ## One link of the chain -/

variable {s s' : Store} {o : Occasion} {assessment : Assessment} {a p : Attempt} {n : Nat}
  {cs : List CarriedStep} {q q₀ : Question} {questionId : Int} {w : NotedStep}

theorem takeOver_stepsOf (hk : s.Keyed) (hp : s.NotesPlaced)
    (h : s.takeOver o assessment a = .ok (n, s')) (hq : q ∈ s.questions)
    (hu : q.usageId ≠ a.usageId) : s'.stepsOf q.id = s.stepsOf q.id := by
  obtain ⟨cs, hcs, -, rfl⟩ := takeOver_enter h
  obtain ⟨hfits, hasked⟩ := carried?_fits hcs
  refine stepsOf_enter_of_ne hp hfits fun c hc hid => ?_
  obtain ⟨q', hq', hu', hid'⟩ := hasked c hc
  have hsame : q' = q := hk.eq hq' hq (hid'.trans hid)
  rw [hsame] at hu'
  exact hu hu'

theorem predecessor?_of_onlyRow (hd : assessment.isDeferred = true) (hrow : s.OnlyRow p)
    (hsame : a.assessmentId = p.assessmentId ∧ a.learnerId = p.learnerId) (hstart : 1 ≤ p.number)
    (hnext : a.number.toNat = p.number.toNat + 1) : s.predecessor? assessment a = .ok (some p) := by
  have hone : (1 : Ordinal).toNat = 1 := rfl
  rw [UInt32.le_iff_toNat_le, hone] at hstart
  have hrepeat : a.isRepeat = true := by
    rw [Attempt.isRepeat, decide_eq_true_eq, UInt32.lt_iff_toNat_lt, hone]
    omega
  have hnumber : a.number - 1 = p.number := by
    have hle : (1 : Ordinal) ≤ a.number := by
      rw [UInt32.le_iff_toNat_le, hone]
      omega
    rw [← UInt32.toNat_inj, UInt32.toNat_sub_of_le _ _ hle, hone]
    omega
  rw [predecessor?, hrepeat, hd, hnumber, hsame.1, hsame.2]
  exact hrow.attemptNumbered?

/-- Where a question asked once waits on a resit and is accepted on the sitting before, a grade is
carried to it, with the notes of the most recent acceptance. -/
theorem carried?_onto (hk : s.Keyed) (hpre : s.predecessor? assessment a = .ok (some p))
    (hq₀ : s.AskedOnce p questionId q₀) (hq : s.AskedOnce a questionId q)
    (hw : QuestionHistory.lastStepIn? ⟨q₀, s.stepsOf q₀.id⟩ .accepted = some w)
    (hwait : QuestionHistory.Awaits ⟨q, s.stepsOf q.id⟩) (h : s.carried? o assessment a = .ok cs) :
    ∃ c ∈ cs, c.questionAttemptId = q.id ∧ c.state = .accepted ∧ c.fraction = 1.0 ∧
      c.userId = a.learnerId ∧ c.notes = Takeover.notes w := by
  obtain ⟨hopen, hwait⟩ := hwait
  obtain ⟨v, hlast, hstate⟩ := Option.map_eq_some_iff.1 hwait
  obtain ⟨hq₀mem, hu₀, hid₀⟩ := hq₀.mem_iff.2 rfl
  obtain ⟨hqmem, hu, hid⟩ := hq.mem_iff.2 rfl
  have hprior : ⟨q₀, s.stepsOf q₀.id⟩ ∈ (s.sitting p).questions :=
    mem_questions_sitting.2 ⟨hq₀mem, hu₀, rfl⟩
  have hcurrent : ⟨q, s.stepsOf q.id⟩ ∈ (s.sitting a).questions :=
    mem_questions_sitting.2 ⟨hqmem, hu, rfl⟩
  have hlink : (⟨w, ⟨q, s.stepsOf q.id⟩, v⟩ : Takeover.Link) ∈ s.links p a := by
    refine List.mem_filterMap.2 ⟨_, hprior, Takeover.link?_eq_some_iff.2 ⟨hq₀.2, hw, ?_, hopen,
      hlast, hstate⟩⟩
    rw [hid₀]
    exact hq.history?
  rw [carried?, hpre] at h
  dsimp only at h
  split at h
  · cases h
  · next planned hplan =>
    cases h
    obtain ⟨c₀, hc₀, hc₀id⟩ := (Takeover.plan_mem hplan).2 _ hlink
    have hfree : s.hasStepIn c₀.questionAttemptId .accepted = false := by
      rw [hc₀id, ← Bool.not_eq_true, ← reached_accepted_iff hcurrent, hopen]
      exact Bool.false_ne_true
    obtain ⟨c, hc, hcid⟩ :=
      @CarriedStep.firsts_complete (s.hasStepIn · .accepted) planned c₀ hc₀ hfree
    have hcq : c.questionAttemptId = q.id := hcid.trans hc₀id
    obtain ⟨l, hl, hstep⟩ := (mapM_eq_some_mem hplan).1 c ((CarriedStep.firsts_sublist _ _).mem hc)
    obtain ⟨sequence, -, rfl⟩ := Option.map_eq_some_iff.1 hstep
    -- the step answers the one link there is to the question
    obtain ⟨prior, hpm, hpl⟩ := List.mem_filterMap.1 hl
    obtain ⟨-, haccepted, hfirst, -⟩ := Takeover.link?_eq_some_iff.1 hpl
    obtain ⟨hlm, hlid⟩ := of_history? hfirst
    have hlq : l.current.question = q := hk.eq (mem_questions_sitting.1 hlm).1 hqmem hcq
    obtain ⟨hpq, hpu, hps⟩ := mem_questions_sitting.1 hpm
    have hprior₀ : prior.question = q₀ :=
      hq₀.mem_iff.1 ⟨hpq, hpu, by rw [← hlid, hlq, hid]⟩
    rw [hprior₀] at hps
    rw [QuestionHistory.ext (y := ⟨q₀, s.stepsOf q₀.id⟩) hprior₀ hps, hw] at haccepted
    rw [Option.some.inj haccepted]
    exact ⟨_, hc, hcq, rfl, rfl, rfl, rfl⟩

/-- **One link of the chain.** A question that waits on a resit and is accepted on the sitting
before has one step more once grades are taken over, with the notes of the most recent
acceptance. -/
theorem takeOver_onto (hk : s.Keyed) (hp : s.NotesPlaced)
    (hpre : s.predecessor? assessment a = .ok (some p)) (hq₀ : s.AskedOnce p questionId q₀)
    (hq : s.AskedOnce a questionId q)
    (hw : QuestionHistory.lastStepIn? ⟨q₀, s.stepsOf q₀.id⟩ .accepted = some w)
    (hwait : QuestionHistory.Awaits ⟨q, s.stepsOf q.id⟩)
    (h : s.takeOver o assessment a = .ok (n, s')) :
    ∃ ns, s'.stepsOf q.id = s.stepsOf q.id ++ [ns] ∧
      ns.IsAcceptance a.learnerId (Takeover.notes w) := by
  have hfull : Score.stored 1.0 = some 1.0 := by decide +kernel
  obtain ⟨cs, hcs, -, rfl⟩ := takeOver_enter h
  have hfits := (carried?_fits hcs).1
  obtain ⟨c, hc, hcid, hstate, hfraction, huser, hnotes⟩ :=
    carried?_onto hk hpre hq₀ hq hw hwait hcs
  obtain ⟨new, hsteps, hnew⟩ := stepsOf_enter hp hfits q.id
  rw [← hcid, filter_key_eq_singleton hfits.once hc, List.map_singleton] at hnew
  obtain ⟨ns, rfl, hns⟩ := List.map_eq_singleton_iff.1 hnew
  refine ⟨ns, hsteps, ?_, ?_, ?_, ?_⟩
  · have hsame : ns.step.state = (c.row 0).state := congrArg (·.step.state) hns
    rw [hsame]
    exact Step.stored_state_eq_accepted_iff.2 (congrArg StepState.tag hstate)
  · have hsame : ns.step.fraction = (some c.fraction).bind Score.stored :=
      congrArg (·.step.fraction) hns
    rw [hsame, hfraction]
    exact hfull
  · have hsame : ns.step.userId = c.userId := congrArg (·.step.userId) hns
    rw [hsame, huser]
  · have hsame : ns.notes = c.notes := congrArg (·.notes) hns
    rw [hsame, hnotes]

/-! ## The chain -/

/-- Takes grades over onto one attempt after the other. -/
def takeOverAll (s : Store) (assessment : Assessment) (turns : List (Occasion × Attempt)) :
    Except Fault Store :=
  turns.foldlM (fun s turn => (s.takeOver turn.1 assessment turn.2).map (·.2)) s

/-- Sittings of one learner, numbered in turn, each with a row and with questions of its own. One
question is asked once in each, and waits in all but the first. -/
structure ResitChain (s : Store) (questionId : Int) (first : Attempt) (later : List Attempt) :
    Prop where
  start : 1 ≤ first.number
  numbered : (first :: later).IsChain fun a b => b.number.toNat = a.number.toNat + 1
  learner : ∀ a ∈ later, a.assessmentId = first.assessmentId ∧ a.learnerId = first.learnerId
  row : ∀ a ∈ first :: later, s.OnlyRow a
  apart : ((first :: later).map (·.usageId)).Nodup
  asked : ∀ a ∈ first :: later, ∃ q, s.AskedOnce a questionId q
  waiting : ∀ a ∈ later, ∀ q ∈ (s.sitting a).history? questionId, q.Awaits

variable {turns : List (Occasion × Attempt)} {turn : Occasion × Attempt} {first : Attempt}
  {later : List Attempt}

theorem takeOverAll_cons (h : s.takeOverAll assessment (turn :: turns) = .ok s') :
    ∃ n s₁, s.takeOver turn.1 assessment turn.2 = .ok (n, s₁) ∧
      s₁.takeOverAll assessment turns = .ok s' := by
  rw [takeOverAll, List.foldlM_cons] at h
  obtain ⟨s₁, h₁, h⟩ := Except.bind_eq_ok_iff.1 h
  cases hturn : s.takeOver turn.1 assessment turn.2 with
  | error f =>
    rw [hturn] at h₁
    cases h₁
  | ok r =>
    rw [hturn] at h₁
    cases h₁
    exact ⟨r.1, r.2, rfl, h⟩

theorem NotesPlaced.takeOver (hp : s.NotesPlaced) (h : s.takeOver o assessment a = .ok (n, s')) :
    s'.NotesPlaced := by
  obtain ⟨cs, -, -, rfl⟩ := takeOver_enter h
  exact hp.enter cs

theorem takeOverAll_stepsOf (hk : s.Keyed) (hp : s.NotesPlaced)
    (h : s.takeOverAll assessment turns = .ok s') (hq : q ∈ s.questions)
    (hu : ∀ turn ∈ turns, q.usageId ≠ turn.2.usageId) :
    s'.questions = s.questions ∧ s'.stepsOf q.id = s.stepsOf q.id := by
  induction turns generalizing s with
  | nil =>
    cases h
    exact ⟨rfl, rfl⟩
  | cons turn rest ih =>
    obtain ⟨hturn, hrest⟩ := List.forall_mem_cons.1 hu
    obtain ⟨n, s₁, h₁, h⟩ := takeOverAll_cons h
    have hquestions : s₁.questions = s.questions := by rw [takeOver_footprint h₁]
    have hk₁ : s₁.Keyed := hk.evolves (.elsewhere hquestions)
    obtain ⟨hq', hs'⟩ := ih hk₁ (hp.takeOver h₁) h (hquestions ▸ hq) hrest
    exact ⟨hq'.trans hquestions, hs'.trans (takeOver_stepsOf hk hp h₁ hq hturn)⟩

theorem AskedOnce.congr (h : s.AskedOnce a questionId q) (hq : s'.questions = s.questions) :
    s'.AskedOnce a questionId q := by
  rw [AskedOnce, hq]
  exact h

/-- **What is left of a chain** once grades were taken over onto its second sitting. -/
theorem ResitChain.next (hc : s.ResitChain questionId first (a :: later)) (hk : s.Keyed)
    (hp : s.NotesPlaced) (h : s.takeOver o assessment a = .ok (n, s')) :
    s'.ResitChain questionId a later := by
  have hfoot := takeOver_footprint h
  have hquestions : s'.questions = s.questions := by rw [hfoot]
  obtain ⟨hnumber, hnumbered⟩ := List.isChain_cons_cons.1 hc.numbered
  obtain ⟨-, hapart⟩ := List.nodup_cons.1 hc.apart
  obtain ⟨hout, -⟩ := List.nodup_cons.1 hapart
  have hstart := hc.start
  refine ⟨?_, hnumbered, fun b hb => ?_, fun b hb => ?_, hapart, fun b hb => ?_,
    fun b hb q hq => ?_⟩
  · rw [UInt32.le_iff_toNat_le] at hstart ⊢
    omega
  · obtain ⟨has, hal⟩ := hc.learner a List.mem_cons_self
    obtain ⟨hbs, hbl⟩ := hc.learner b (List.mem_cons_of_mem _ hb)
    exact ⟨hbs.trans has.symm, hbl.trans hal.symm⟩
  · have hrow := hc.row b (List.mem_cons_of_mem _ hb)
    rw [OnlyRow, hfoot]
    exact hrow
  · obtain ⟨q, hq⟩ := hc.asked b (List.mem_cons_of_mem _ hb)
    exact ⟨q, hq.congr hquestions⟩
  · obtain ⟨q₁, hq₁⟩ := hc.asked b (List.mem_cons_of_mem _ (List.mem_cons_of_mem _ hb))
    obtain ⟨hmem, hu, -⟩ := hq₁.mem_iff.2 rfl
    have hne : q₁.usageId ≠ a.usageId := by
      intro heq
      have hin : b.usageId ∈ later.map (·.usageId) := List.mem_map_of_mem hb
      rw [← hu, heq] at hin
      exact hout hin
    rw [(hq₁.congr hquestions).history?, takeOver_stepsOf hk hp h hmem hne, ← hq₁.history?] at hq
    exact hc.waiting b (List.mem_cons_of_mem _ hb) q hq

/-- No question of the attempt has used up its sequence numbers. -/
def HasRoom (s : Store) (a : Attempt) : Prop :=
  ∀ q ∈ (s.sitting a).questions, ∀ v ∈ q.lastStep?, v.step.sequence ≠ Ordinal.greatest

theorem HasRoom.plan (h : s.HasRoom a) (predecessor : Sitting) (now : Timestamp) :
    ∃ cs, Takeover.plan predecessor (s.sitting a) now = some cs := by
  refine mapM_total fun l hl => ?_
  obtain ⟨prior, -, hlink⟩ := List.mem_filterMap.1 hl
  obtain ⟨-, -, hcurrent, -, hlast, -⟩ := Takeover.link?_eq_some_iff.1 hlink
  have hroom := h l.current (of_history? hcurrent).1 l.awaiting hlast
  rw [Takeover.step?, Ordinal.next?, if_neg hroom]
  exact ⟨_, rfl⟩

theorem HasRoom.takeOver {b : Attempt} (hr : s.HasRoom b) (hk : s.Keyed) (hp : s.NotesPlaced)
    (h : s.takeOver o assessment a = .ok (n, s')) (hne : b.usageId ≠ a.usageId) : s'.HasRoom b := by
  intro q hq v hv
  obtain ⟨hmem, hu, hs⟩ := mem_questions_sitting.1 hq
  have hquestions : s'.questions = s.questions := by rw [takeOver_footprint h]
  rw [hquestions] at hmem
  rw [takeOver_stepsOf hk hp h hmem (hu ▸ hne)] at hs
  exact hr q (mem_questions_sitting.2 ⟨hmem, hu, hs⟩) v hv

/-- **Along a chain** every takeover succeeds while there are sequence numbers left. -/
theorem takeOverAll_total (hk : s.Keyed) (hp : s.NotesPlaced) (hd : assessment.isDeferred = true)
    (hc : s.ResitChain questionId first (turns.map (·.2)))
    (hr : ∀ a ∈ turns.map (·.2), s.HasRoom a) : ∃ s', s.takeOverAll assessment turns = .ok s' := by
  induction turns generalizing s first with
  | nil => exact ⟨s, rfl⟩
  | cons turn rest ih =>
    obtain ⟨o, a⟩ := turn
    obtain ⟨hroom, hrest⟩ := List.forall_mem_cons.1 hr
    have hpre := predecessor?_of_onlyRow hd (hc.row first List.mem_cons_self)
      (hc.learner a List.mem_cons_self) hc.start (List.isChain_cons_cons.1 hc.numbered).1
    obtain ⟨cs, hplan⟩ := hroom.plan (s.sitting first) o.now
    have h₁ : s.takeOver o assessment a = .ok (s.addCarriedSteps cs) := by
      rw [takeOver_eq, hpre]
      simp only [hplan]
    have hk₁ : (s.addCarriedSteps cs).2.Keyed :=
      hk.evolves (.elsewhere (by rw [takeOver_footprint h₁]))
    obtain ⟨hout, -⟩ := List.nodup_cons.1 (List.nodup_cons.1 hc.apart).2
    obtain ⟨s', h⟩ := ih hk₁ (hp.takeOver h₁) (hc.next hk hp h₁) fun b hb => by
      refine (hrest b hb).takeOver hk hp h₁ fun heq => hout ?_
      have hin : b.usageId ∈ (rest.map (·.2)).map (·.usageId) := List.mem_map_of_mem hb
      rw [heq] at hin
      exact hin
    refine ⟨s', ?_⟩
    rw [takeOverAll, List.foldlM_cons, h₁]
    exact h

/-- **Grades and remarks survive any chain of resits.** Where the first sitting of a chain has an
accepted answer to a question that waits on all later ones, each of these ends with one acceptance,
of full marks and the learner's own, and with the remarks that were made on the first sitting. -/
theorem remarks_survive (hk : s.Keyed) (hp : s.NotesPlaced) (hd : assessment.isDeferred = true)
    (hc : s.ResitChain questionId first (turns.map (·.2))) {q₁ : QuestionHistory}
    (hq₁ : (s.sitting first).history? questionId = some q₁)
    (hw : q₁.lastStepIn? .accepted = some w) (h : s.takeOverAll assessment turns = .ok s') :
    ∀ a ∈ turns.map (·.2), ∃ q ns, (s'.sitting a).history? questionId = some q ∧
      (q.steps.filter fun st => st.step.state = .accepted) = [ns] ∧
        ns.IsAcceptance first.learnerId (Takeover.remarks w) := by
  induction turns generalizing s first q₁ w with
  | nil => exact fun a ha => (nomatch ha)
  | cons turn rest ih =>
    obtain ⟨o, a⟩ := turn
    obtain ⟨n, s₁, h₁, hrest⟩ := takeOverAll_cons h
    have hfoot := takeOver_footprint h₁
    have hquestions : s₁.questions = s.questions := by rw [hfoot]
    have hk₁ : s₁.Keyed := hk.evolves (.elsewhere hquestions)
    have hp₁ := hp.takeOver h₁
    have hc₁ := hc.next hk hp h₁
    obtain ⟨q₀, hq₀⟩ := hc.asked first List.mem_cons_self
    obtain ⟨q, hq⟩ := hc.asked a (List.mem_cons_of_mem _ List.mem_cons_self)
    have hpre := predecessor?_of_onlyRow hd (hc.row first List.mem_cons_self)
      (hc.learner a List.mem_cons_self) hc.start (List.isChain_cons_cons.1 hc.numbered).1
    have hwait := hc.waiting a List.mem_cons_self _ hq.history?
    rw [hq₀.history?] at hq₁
    obtain rfl := Option.some.inj hq₁
    obtain ⟨ns, hsteps, hcarried⟩ := takeOver_onto hk hp hpre hq₀ hq hw hwait h₁
    -- the new step is the only acceptance of the resit
    have hone : ((s₁.stepsOf q.id).filter fun st => st.step.state = .accepted) = [ns] := by
      have hnone : ((s.stepsOf q.id).filter fun st => st.step.state = .accepted) = [] :=
        List.filter_eq_nil_iff.2 fun st hst => List.any_eq_false.1 hwait.1 st hst
      rw [hsteps, List.filter_append, hnone, List.nil_append,
        List.filter_cons, if_pos (decide_eq_true hcarried.accepted), List.filter_nil]
    have hlast : QuestionHistory.lastStepIn? ⟨q, s₁.stepsOf q.id⟩ .accepted = some ns := by
      rw [QuestionHistory.lastStepIn?, hone]
      rfl
    have hlearner := (hc.learner a List.mem_cons_self).2
    have hremarks : Takeover.remarks ns = Takeover.remarks w := by
      rw [← Takeover.notes_eq_remarks, ← Takeover.notes_eq_remarks]
      exact Takeover.notes_notes hcarried.noted
    intro b hb
    rcases List.mem_cons.1 hb with rfl | hb
    · -- later takeovers are onto other attempts
      obtain ⟨hmem, hu, -⟩ := hq.mem_iff.2 rfl
      have hothers : ∀ turn ∈ rest, q.usageId ≠ turn.2.usageId := by
        intro turn hturn heq
        have hin : turn.2.usageId ∈ (rest.map (·.2)).map (·.usageId) :=
          List.mem_map_of_mem (List.mem_map_of_mem hturn)
        rw [← heq, hu] at hin
        exact (List.nodup_cons.1 (List.nodup_cons.1 hc.apart).2).1 hin
      obtain ⟨hq', hs'⟩ := takeOverAll_stepsOf hk₁ hp₁ hrest (hquestions ▸ hmem) hothers
      refine ⟨_, ns, (hq.congr (hq'.trans hquestions)).history?, ?_, ?_⟩
      · dsimp only
        rw [hs', hone]
      · rw [← Takeover.notes_eq_remarks, ← hlearner]
        exact hcarried
    · have hlater := ih hk₁ hp₁ hc₁ (hq.congr hquestions).history? hlast hrest b hb
      rw [hremarks, hlearner] at hlater
      exact hlater

/-- Three sittings, the first with a remark that the grader made twice. -/
def satThrice : Store :=
  { Sample.people with
    assessments := [Sample.assessment "Written Assessment" .deferredFeedback]
    attempts := [.ofAttempt (Sample.attempt 41 1 none), .ofAttempt (Sample.attempt 42 2 none),
      .ofAttempt (Sample.attempt 43 3 none)]
    questions := [Sample.question 411 410 7 1, Sample.question 421 420 7 1,
      Sample.question 431 430 7 1]
    steps := [Sample.step 3 411 2 .accepted 1700099300,
      Sample.step 4201 421 1 .needsGrading 1700099900,
      Sample.step 4301 431 1 .needsGrading 1700199900]
    notes := [⟨3, ⟨"-comment", "good"⟩⟩, ⟨3, ⟨"-mark", "8"⟩⟩, ⟨3, ⟨"-comment", "very good"⟩⟩] }

/-- The two resits, each handed in by the learner. -/
def resits : List (Occasion × Attempt) :=
  [(⟨3, 1700100000, Sample.graderRole⟩, Sample.attempt 42 2 none),
    (⟨3, 1700200000, Sample.graderRole⟩, Sample.attempt 43 3 none)]

theorem satThrice_chain :
    satThrice.ResitChain 7 (Sample.attempt 41 1 none) (resits.map (·.2)) where
  start := by decide
  numbered := .cons_cons rfl (.cons_cons rfl (.singleton _))
  learner := by decide
  row := by
    simp only [resits, List.map_cons, List.map_nil, List.forall_mem_cons]
    exact ⟨⟨.ofAttempt (Sample.attempt 41 1 none), rfl, rfl⟩,
      ⟨.ofAttempt (Sample.attempt 42 2 none), rfl, rfl⟩,
      ⟨.ofAttempt (Sample.attempt 43 3 none), rfl, rfl⟩, fun _ h => nomatch h⟩
  apart := by decide
  asked := by
    simp only [resits, List.map_cons, List.map_nil, List.forall_mem_cons]
    exact ⟨⟨Sample.question 411 410 7 1, by unfold AskedOnce; decide⟩,
      ⟨Sample.question 421 420 7 1, by unfold AskedOnce; decide⟩,
      ⟨Sample.question 431 430 7 1, by unfold AskedOnce; decide⟩, fun _ h => nomatch h⟩
  waiting := by decide +kernel

theorem remarks_survive_satThrice :
    ∃ s', satThrice.takeOverAll (Sample.assessment "Written Assessment" .deferredFeedback) resits =
        .ok s' ∧
      ∀ a ∈ resits.map (·.2), ∃ q ns, (s'.sitting a).history? 7 = some q ∧
        (q.steps.filter fun st => st.step.state = .accepted) = [ns] ∧
          ns.IsAcceptance 3 [⟨"-comment", "very good"⟩, ⟨"-commentformat", "1"⟩, ⟨"-mark", "8"⟩,
            ⟨"-maxmark", "1"⟩] := by
  have hkeyed : satThrice.Keyed := by unfold Keyed; decide
  have hplaced : satThrice.NotesPlaced := by unfold NotesPlaced; decide
  have hroom : ∀ a ∈ resits.map (·.2), satThrice.HasRoom a := by unfold HasRoom; decide +kernel
  have hrun : ∃ s', satThrice.takeOverAll
      (Sample.assessment "Written Assessment" .deferredFeedback) resits = .ok s' :=
    takeOverAll_total hkeyed hplaced (by decide) satThrice_chain hroom
  obtain ⟨s', h⟩ := hrun
  have hfirst : (((satThrice.sitting (Sample.attempt 41 1 none)).history? 7).bind fun q =>
      (q.lastStepIn? .accepted).map Takeover.remarks) = some [⟨"-comment", "very good"⟩,
        ⟨"-commentformat", "1"⟩, ⟨"-mark", "8"⟩, ⟨"-maxmark", "1"⟩] := by decide +kernel
  obtain ⟨q₁, hq₁, hfirst⟩ := Option.bind_eq_some_iff.1 hfirst
  obtain ⟨w, hw, hremarks⟩ := Option.map_eq_some_iff.1 hfirst
  refine ⟨s', h, ?_⟩
  rw [← hremarks]
  exact remarks_survive hkeyed hplaced (by decide) satThrice_chain hq₁ hw h

end Store

end GradeRelay
