import GradeRelay.Proofs.Gate
import GradeRelay.Proofs.Stripping
/-!
# Notes on credit

For a learner and an assessment of a course at most one note on credit is kept, the last. Whether it
counts is decided by what is left of it after the plain spaces at its beginning: something must be
left, and it must not begin with NUL. External ids are known in another way, by a character that is
not white space.

* `hasCredit_putCredit`, `hasCredit_putCredits`: one note after the other, the last one decides;
* **`credit_of_last_note`**: which notes withhold a completion, and which of them say something;
* `not_creditFollowsText_tab`: a note of white space can withhold one, and a note with text can
  fail to.
-/

namespace GradeRelay

/-! ## What a note says -/

/-- What stands after the plain spaces at the beginning of a text. -/
def Text.afterSpaces (text : String) : List Char := text.toList.dropWhile (· = ' ')

/-- A note counts as credit: it goes on after plain spaces, and not with NUL. -/
def CountsAsCredit (note : String) : Prop :=
  ∃ c rest, Text.afterSpaces note = c :: rest ∧ c ≠ '\x00'

/-- A text says something: it has a character that is not white space. -/
def SaysSomething (text : String) : Prop := ∃ c ∈ text.toList, Text.isBlank c = false

theorem Store.isCreditNote_iff {note : String} :
    isCreditNote note = true ↔ CountsAsCredit note := by
  unfold isCreditNote CountsAsCredit Text.afterSpaces
  cases h : note.toList.dropWhile (· = ' ') with
  | nil =>
    have hnone : Text.strip (· = ' ') note.toList = [] := by rw [Text.strip, h]; rfl
    rw [hnone]
    refine iff_of_false (by decide) ?_
    rintro ⟨c, rest, heq, -⟩
    exact List.cons_ne_nil c rest heq.symm
  | cons c rest =>
    obtain ⟨kept, hkept⟩ := Text.strip_eq_cons h
    rw [hkept]
    by_cases hc : c = '\x00'
    · subst hc
      rw [List.takeWhile_cons_of_neg (by decide)]
      refine iff_of_false (by decide) ?_
      rintro ⟨c', rest', heq, hne⟩
      exact hne (List.cons.inj heq).1.symm
    · rw [List.takeWhile_cons_of_pos (by simpa using hc)]
      exact iff_of_true rfl ⟨c, rest, rfl, hc⟩

/-- **A note counts just when it says something**, unless what follows its plain spaces begins with
NUL or is nothing but white space. -/
theorem countsAsCredit_iff_saysSomething {note : String} :
    (CountsAsCredit note ↔ SaysSomething note) ↔
    ∀ c rest, Text.afterSpaces note = c :: rest →
      c ≠ '\x00' ∧ ∃ v ∈ c :: rest, Text.isBlank v = false := by
  have hsplit := List.takeWhile_append_dropWhile (p := (· = ' ')) (l := note.toList)
  have hlead : ∀ c ∈ note.toList.takeWhile (· = ' '), Text.isBlank c = true := by
    intro c hc
    obtain rfl : c = ' ' := of_decide_eq_true (List.all_eq_true.1 List.all_takeWhile c hc)
    rfl
  have hvisible : SaysSomething note ↔ ∃ v ∈ Text.afterSpaces note, Text.isBlank v = false := by
    unfold SaysSomething Text.afterSpaces
    constructor
    · rintro ⟨c, hc, hblank⟩
      rw [← hsplit, List.mem_append] at hc
      rcases hc with hc | hc
      · exact absurd (hlead c hc) (Bool.eq_false_iff.1 hblank)
      · exact ⟨c, hc, hblank⟩
    · rintro ⟨c, hc, hblank⟩
      exact ⟨c, (List.dropWhile_sublist _).subset hc, hblank⟩
  rw [hvisible, CountsAsCredit]
  cases Text.afterSpaces note with
  | nil => exact iff_of_true (iff_of_false nofun nofun) nofun
  | cons c rest =>
    constructor
    · intro h c' rest' heq
      obtain ⟨rfl, rfl⟩ := List.cons.inj heq
      by_cases hc : c = '\x00'
      · subst hc
        obtain ⟨_, _, he, hne⟩ := h.2 ⟨'\x00', List.mem_cons_self, rfl⟩
        exact absurd (List.cons.inj he).1.symm hne
      · exact ⟨hc, h.1 ⟨c, rest, rfl, hc⟩⟩
    · intro h
      obtain ⟨hc, hv⟩ := h c rest rfl
      exact iff_of_true ⟨c, rest, rfl, hc⟩ hv

/-! ## One note after the other -/

/-- The row is about a learner and an assessment of a course. -/
def CreditRow.IsAbout (r : CreditRow) (courseId : CourseId) (assessmentId : AssessmentId)
    (learnerId : UserId) : Prop :=
  r.courseId = courseId ∧ r.assessmentId = assessmentId ∧ r.learnerId = learnerId

instance (r : CreditRow) (courseId : CourseId) (assessmentId : AssessmentId) (learnerId : UserId) :
    Decidable (r.IsAbout courseId assessmentId learnerId) :=
  inferInstanceAs (Decidable (_ ∧ _ ∧ _))

/-- The note is the last one of a list about a learner and an assessment of a course. -/
def LastNote (notes : List CreditRow) (courseId : CourseId) (assessmentId : AssessmentId)
    (learnerId : UserId) (note : String) : Prop :=
  ∃ before r after, notes = before ++ r :: after ∧ r.IsAbout courseId assessmentId learnerId ∧
    r.note = note ∧ ∀ later ∈ after, ¬ later.IsAbout courseId assessmentId learnerId

section LastNote

variable {notes : List CreditRow} {courseId : CourseId} {assessmentId : AssessmentId}
  {learnerId : UserId} {note : String}

theorem not_lastNote_nil : ¬ LastNote [] courseId assessmentId learnerId note := by
  rintro ⟨before, r, after, h, -⟩
  exact List.append_ne_nil_of_right_ne_nil _ (List.cons_ne_nil _ _) h.symm

theorem lastNote_cons {r : CreditRow} :
    LastNote (r :: notes) courseId assessmentId learnerId note ↔
      LastNote notes courseId assessmentId learnerId note ∨
        r.IsAbout courseId assessmentId learnerId ∧ r.note = note ∧
          ∀ later ∈ notes, ¬ later.IsAbout courseId assessmentId learnerId := by
  constructor
  · rintro ⟨before, r', after, h, habout, hnote, hlater⟩
    cases before with
    | nil =>
      obtain ⟨rfl, rfl⟩ := List.cons.inj h
      exact .inr ⟨habout, hnote, hlater⟩
    | cons first before =>
      exact .inl ⟨before, r', after, (List.cons.inj h).2, habout, hnote, hlater⟩
  · rintro (⟨before, r', after, rfl, habout, hnote, hlater⟩ | ⟨habout, hnote, hlater⟩)
    · exact ⟨r :: before, r', after, rfl, habout, hnote, hlater⟩
    · exact ⟨[], r, notes, rfl, habout, hnote, hlater⟩

end LastNote

namespace Store

variable {s : Store} {courseId : CourseId} {assessmentId : AssessmentId} {learnerId : UserId}

theorem hasCredit_iff : s.hasCredit courseId assessmentId learnerId = true ↔
    ∃ r ∈ s.credits, r.IsAbout courseId assessmentId learnerId ∧ CountsAsCredit r.note := by
  unfold hasCredit CreditRow.IsAbout
  simp only [List.any_eq_true, Bool.and_eq_true, decide_eq_true_eq, isCreditNote_iff, and_assoc]

theorem mem_credits_putCredit {r row : CreditRow} :
    row ∈ (s.putCredit r.courseId r.assessmentId r.learnerId r.note).credits ↔
      row = r ∨ row ∈ s.credits ∧ ¬ row.IsAbout r.courseId r.assessmentId r.learnerId := by
  have hnew : ∀ c : CreditRow, c.IsAbout r.courseId r.assessmentId r.learnerId →
      { c with note := r.note } = r := by
    rintro ⟨_, _, _, _⟩ ⟨rfl, rfl, rfl⟩
    rfl
  unfold putCredit
  extract_lets isRow
  split
  next h =>
    obtain ⟨old, hold, hrow⟩ := List.any_eq_true.1 h
    simp only [List.mem_map]
    constructor
    · rintro ⟨c, hc, rfl⟩
      split
      next hrow => exact .inl (hnew c (of_decide_eq_true hrow))
      next hrow => exact .inr ⟨hc, fun hrow' => hrow (decide_eq_true hrow')⟩
    · rintro (rfl | ⟨hrow, hne⟩)
      · exact ⟨old, hold, (if_pos hrow).trans (hnew old (of_decide_eq_true hrow))⟩
      · exact ⟨row, hrow, if_neg fun h => hne (of_decide_eq_true h)⟩
  next h =>
    have hnone : ∀ c ∈ s.credits, ¬ c.IsAbout r.courseId r.assessmentId r.learnerId :=
      fun c hc habout => h (List.any_eq_true.2 ⟨c, hc, decide_eq_true habout⟩)
    simp only [List.mem_append, List.mem_singleton]
    exact ⟨fun hrow => hrow.symm.imp_right fun hrow => ⟨hrow, hnone _ hrow⟩,
      fun hrow => hrow.symm.imp_left And.left⟩

theorem hasCredit_putCredit {r : CreditRow} :
    (s.putCredit r.courseId r.assessmentId r.learnerId r.note).hasCredit courseId assessmentId
        learnerId = true ↔
      if r.IsAbout courseId assessmentId learnerId then CountsAsCredit r.note
      else s.hasCredit courseId assessmentId learnerId = true := by
  simp only [hasCredit_iff, mem_credits_putCredit]
  split
  next hr =>
    obtain ⟨rfl, rfl, rfl⟩ := hr
    constructor
    · rintro ⟨row, rfl | ⟨-, hne⟩, habout, hcounts⟩
      · exact hcounts
      · exact absurd habout hne
    · exact fun hcounts => ⟨r, .inl rfl, ⟨rfl, rfl, rfl⟩, hcounts⟩
  next hr =>
    constructor
    · rintro ⟨row, rfl | ⟨hrow, -⟩, habout, hcounts⟩
      · exact absurd habout hr
      · exact ⟨row, hrow, habout, hcounts⟩
    · rintro ⟨row, hrow, habout, hcounts⟩
      refine ⟨row, .inr ⟨hrow, fun hsame => hr ?_⟩, habout, hcounts⟩
      exact ⟨hsame.1.symm.trans habout.1, hsame.2.1.symm.trans habout.2.1,
        hsame.2.2.symm.trans habout.2.2⟩

/-- Keeps notes on credit, one after the other. -/
def putCredits (s : Store) (notes : List CreditRow) : Store :=
  notes.foldl (fun s r => s.putCredit r.courseId r.assessmentId r.learnerId r.note) s

/-- **The last of the notes decides**; where there is none, what was kept before does. -/
theorem hasCredit_putCredits (s : Store) (notes : List CreditRow) :
    (s.putCredits notes).hasCredit courseId assessmentId learnerId = true ↔
      (∃ note, LastNote notes courseId assessmentId learnerId note ∧ CountsAsCredit note) ∨
        (∀ r ∈ notes, ¬ r.IsAbout courseId assessmentId learnerId) ∧
          s.hasCredit courseId assessmentId learnerId = true := by
  induction notes generalizing s with
  | nil => simp [putCredits, not_lastNote_nil]
  | cons r notes ih =>
    rw [putCredits, List.foldl_cons, ← putCredits, ih, hasCredit_putCredit]
    simp only [lastNote_cons, List.forall_mem_cons]
    grind

end Store

/-! ## Completions that are withheld -/

namespace Store

variable {s : Store}

theorem completionRefusal?_credit_iff {d : Dossier} :
    s.completionRefusal? d = some .priorLearningCredit ↔
      SaysSomething d.learner.externalId ∧ SaysSomething d.course.externalId ∧
        s.hasCredit d.course.id d.assessment.id d.learner.id = true := by
  unfold completionRefusal? SaysSomething
  rw [← Text.isBlankText_eq_false_iff, ← Text.isBlankText_eq_false_iff]
  cases Text.isBlankText d.learner.externalId <;> cases Text.isBlankText d.course.externalId <;>
    cases s.hasCredit d.course.id d.assessment.id d.learner.id <;> cases d.assessment.isDeferred <;>
    simp

/-- **Which notes withhold a completion.** Whatever notes were kept for learners and assessments,
from none on, a learner has credit exactly when the last note for the learner and the assessment of
the course counts. A completion of a learner and a course that are known outside is withheld for
credit just then, and none is passed on. A note counts exactly when it says something, as an
external id must do, unless what follows the plain spaces at its beginning begins with NUL or is
only white space. -/
theorem credit_of_last_note (s : Store) (notes : List CreditRow) :
    (∀ courseId assessmentId learnerId,
      (({ s with credits := [] } : Store).putCredits notes).hasCredit courseId assessmentId
          learnerId = true ↔
        ∃ note, LastNote notes courseId assessmentId learnerId note ∧ CountsAsCredit note) ∧
    (∀ d : Dossier,
      (({ s with credits := [] } : Store).putCredits notes).completionRefusal? d =
          some .priorLearningCredit ↔
        SaysSomething d.learner.externalId ∧ SaysSomething d.course.externalId ∧
          ∃ note, LastNote notes d.course.id d.assessment.id d.learner.id note ∧
            CountsAsCredit note) ∧
    (∀ d : Dossier, ¬ ((({ s with credits := [] } : Store).putCredits notes).PassesOn d ∧
      ∃ note, LastNote notes d.course.id d.assessment.id d.learner.id note ∧
        CountsAsCredit note)) ∧
    ∀ note : String, (CountsAsCredit note ↔ SaysSomething note) ↔
      ∀ c rest, Text.afterSpaces note = c :: rest →
        c ≠ '\x00' ∧ ∃ v ∈ c :: rest, Text.isBlank v = false := by
  have hlast : ∀ courseId assessmentId learnerId,
      (({ s with credits := [] } : Store).putCredits notes).hasCredit courseId assessmentId
          learnerId = true ↔
        ∃ note, LastNote notes courseId assessmentId learnerId note ∧ CountsAsCredit note := by
    intro courseId assessmentId learnerId
    rw [hasCredit_putCredits, hasCredit_iff]
    exact or_iff_left fun ⟨_, _, hr, _⟩ => nomatch hr
  refine ⟨hlast, fun d => ?_, fun d ⟨hpasses, hnote⟩ => ?_, fun note =>
    countsAsCredit_iff_saysSomething⟩
  · rw [completionRefusal?_credit_iff, hlast]
  · have hnone := hpasses.uncredited
    rw [(hlast _ _ _).2 hnote] at hnone
    cases hnone

/-- Credit comes just from last notes that say something. -/
def CreditFollowsText (notes : List CreditRow) : Prop :=
  ∀ courseId assessmentId learnerId,
    (({} : Store).putCredits notes).hasCredit courseId assessmentId learnerId = true ↔
      ∃ note, LastNote notes courseId assessmentId learnerId note ∧ SaysSomething note

/-- A tab alone gives credit, and a text after NUL gives none. -/
theorem not_creditFollowsText_tab :
    ¬ CreditFollowsText [⟨9, 5, 3, "\t"⟩] ∧ ¬ CreditFollowsText [⟨9, 5, 3, "\x00seen"⟩] := by
  refine ⟨fun h => ?_, fun h => ?_⟩
  · obtain ⟨note, hlast, c, hc, hblank⟩ := (h 9 5 3).1 (by decide +kernel)
    rcases lastNote_cons.1 hlast with hlast | ⟨-, rfl, -⟩
    · exact not_lastNote_nil hlast
    · obtain rfl : c = '\t' := by simpa using hc
      exact absurd hblank (by decide)
  · have hcredit := (h 9 5 3).2 ⟨_, ⟨[], _, [], rfl, ⟨rfl, rfl, rfl⟩, rfl, List.forall_mem_nil _⟩,
      's', by decide +kernel, by decide⟩
    exact absurd hcredit (by decide +kernel)

end Store

end GradeRelay
