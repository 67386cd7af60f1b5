import Mathlib.Data.List.Forall2
import GradeRelay.Proofs.Events.Validation
/-!
# Identifiers as integers and as texts

Some platforms send an identifier as an integer and others as its text, with a sign, zeros in front
or white space around it. It makes no difference, whichever of an event's identifiers are sent as
texts, and the faults of an event are the same ones too.

* `Event.identifier?_spelledOut`: an integer and its texts hold the same identifier;
* `Event.Varied.get?`: what is looked up in two objects that differ in some of their members;
* `Event.ofJson_congr`: what an event is made of;
* **`Event.ofJson_respelled`**: writing identifiers out as texts changes nothing.
-/

namespace GradeRelay.Event

open Identifier

/-! ## Writing out -/

/-- The second value is a text of the integer that the first one is. -/
inductive SpelledOut : Json → Json → Prop where
  | text {n : Int} {word : List Char} {s : String} : Fits n → Writes n word →
    Pads s.toList word → SpelledOut (.int n) (.string s)

/-- The second value is the first, or has its members in their order, some of them varied in a way
that their names allow. -/
inductive Varied (vary : String → Json → Json → Prop) : Json → Json → Prop where
  | same (v : Json) : Varied vary v v
  | object {ms ms' : List (String × Json)} :
    List.Forall₂ (fun m m' => m'.1 = m.1 ∧ (m'.2 = m.2 ∨ vary m.1 m.2 m'.2)) ms ms' →
    Varied vary (.object ms) (.object ms')

/-- The names whose values are read as identifiers. -/
def idNames : List String :=
  ["userid", "relateduserid", "courseid", "objectid", "contextid", "timecreated"]

/-- The other data of an event, with the identifier of the attempt written out or not. -/
def OtherRespelled : Json → Json → Prop :=
  Varied fun name v v' => name = "attemptid" ∧ SpelledOut v v'

/-- A raw event with some of its identifiers written out. -/
def Respelled : Json → Json → Prop :=
  Varied fun name v v' =>
    (name ∈ idNames ∧ SpelledOut v v') ∨ (name = "other" ∧ OtherRespelled v v')

/-! ## What is read -/

variable {vary : String → Json → Json → Prop} {raw raw' v v' : Json} {now : Timestamp}

/-- **An integer and its texts** hold the same identifier. -/
theorem identifier?_spelledOut (h : SpelledOut v v') : identifier? v' = identifier? v := by
  cases h with
  | text hfits hwrites hpads =>
    rw [identifier?_eq_some_iff.2 (.text hpads hwrites.spells hfits)]
    exact (identifier?_eq_some_iff.2 (.integer hfits)).symm

theorem Varied.get? (h : Varied vary raw raw') (key : String) :
    Option.Rel (fun v v' => v' = v ∨ vary key v v') (raw.get? key) (raw'.get? key) := by
  cases h with
  | same =>
    cases raw.get? key with
    | none => exact .none
    | some v => exact .some (.inl rfl)
  | object hmembers =>
    simp only [Json.get?]
    induction hmembers with
    | nil => exact .none
    | @cons m m' _ _ hm _ ih =>
      obtain ⟨name, v⟩ := m
      obtain ⟨name', v'⟩ := m'
      obtain ⟨hname, hv⟩ : name' = name ∧ (v' = v ∨ vary name v v') := hm
      subst hname
      simp only [List.lookup_cons]
      by_cases hkey : key = name'
      · subst hkey
        simp only [beq_self_eq_true]
        exact .some hv
      · simp only [beq_eq_false_iff_ne.2 hkey]
        exact ih

theorem Varied.identifier? (h : Varied vary v v') : identifier? v' = identifier? v := by
  cases h <;> rfl

theorem Varied.isGiven (h : Varied vary v v') : Json.isGiven (some v') = Json.isGiven (some v) := by
  cases h <;> rfl

theorem SpelledOut.isGiven (h : SpelledOut v v') :
    Json.isGiven (some v') = Json.isGiven (some v) := by
  cases h
  rfl

theorem Varied.read {β : Type} (h : Varied vary raw raw') {key : String} (f : Option Json → β)
    (hf : ∀ v v', vary key v v' → f (some v') = f (some v)) :
    f (raw'.get? key) = f (raw.get? key) := by
  have hrel := h.get? key
  generalize raw.get? key = o, raw'.get? key = o' at hrel ⊢
  cases hrel with
  | none => rfl
  | some hv =>
    rcases hv with rfl | hv
    · rfl
    · exact hf _ _ hv

theorem OtherRespelled.idAt (h : OtherRespelled raw raw') :
    idAt raw' "attemptid" = idAt raw "attemptid" :=
  h.read (fun o => o.bind Event.identifier?) fun _ _ hv => identifier?_spelledOut hv.2

section

variable (h : Respelled raw raw')

include h

theorem Respelled.nameOf : nameOf raw' = nameOf raw := by
  refine Varied.read h (fun o => (o.bind Json.text?).getD "") fun v v' hv => ?_
  rcases hv with ⟨hname, -⟩ | ⟨hname, -⟩ <;> exact absurd hname (by decide)

theorem Respelled.isGiven (key : String) :
    Json.isGiven (raw'.get? key) = Json.isGiven (raw.get? key) := by
  refine Varied.read h Json.isGiven fun v v' hv => ?_
  rcases hv with ⟨-, hv⟩ | ⟨-, hv⟩
  · exact hv.isGiven
  · exact Varied.isGiven hv

theorem Respelled.idAt (key : String) : idAt raw' key = idAt raw key := by
  refine Varied.read h (fun o => o.bind Event.identifier?) fun v v' hv => ?_
  rcases hv with ⟨-, hv⟩ | ⟨-, hv⟩
  · exact identifier?_spelledOut hv
  -- the other data are an object, and no object holds an identifier
  · exact Varied.identifier? hv

theorem Respelled.otherAttempt : otherAttempt raw' = otherAttempt raw := by
  refine Varied.read h (fun o => o.bind fun v => Event.idAt v "attemptid") fun v v' hv => ?_
  rcases hv with ⟨hname, -⟩ | ⟨-, hv⟩
  · exact absurd hname (by decide)
  · exact hv.idAt

end

/-! ## What becomes of it -/

/-- **What an event is made of**: its name, which of its keys are given, and the identifiers that
its values hold. -/
theorem ofJson_congr (hname : nameOf raw' = nameOf raw)
    (hgiven : ∀ key, Json.isGiven (raw'.get? key) = Json.isGiven (raw.get? key))
    (hid : ∀ key, idAt raw' key = idAt raw key) (hother : otherAttempt raw' = otherAttempt raw) :
    ofJson raw' now = ofJson raw now := by
  have hmissing (kind : Kind) : missingKeys kind raw' = missingKeys kind raw := by
    simp only [missingKeys, hgiven, hid, hother]
  have htarget (kind : Kind) : targetOf? kind raw' = targetOf? kind raw := by
    simp only [targetOf?, hid, hother]
  have htime : timeOf raw' now = timeOf raw now := by
    simp only [timeOf, hid]
  simp only [ofJson, hname, hmissing, hid, htarget, htime]

/-- **Identifiers may be written out as texts**, any of them: the event that is read is the same, or
the refusal is. -/
theorem ofJson_respelled (h : Respelled raw raw') (now : Timestamp) :
    ofJson raw' now = ofJson raw now :=
  ofJson_congr h.nameOf h.isGiven h.idAt h.otherAttempt

/-- A marking with the greatest and the least number there are. -/
def markedByNumbers : Json :=
  .object [("eventname", .string "\\mod_quiz\\event\\question_manually_graded"),
    ("userid", .int (-9223372036854775808)), ("relateduserid", .int 9223372036854775807),
    ("courseid", .int 9), ("objectid", .int 42), ("contextid", .int 501),
    ("timecreated", .int 1700000000), ("other", .object [("attemptid", .int (-42))])]

/-- The same marking with all but two of its numbers written out. -/
def markedByTexts : Json :=
  .object [("eventname", .string "\\mod_quiz\\event\\question_manually_graded"),
    ("userid", .string "\u2003-009223372036854775808"),
    ("relateduserid", .string "+9223372036854775807\u3000"), ("courseid", .string "\t009\n"),
    ("objectid", .int 42), ("contextid", .int 501), ("timecreated", .string "1700000000"),
    ("other", .object [("attemptid", .string " -042\u00a0")])]

/-- What both say. -/
def markedAtLimits : Event where
  kind := .questionGraded
  actor := some (-9223372036854775808)
  subject := 9223372036854775807
  courseId := 9
  target := .attempt (-42)
  occurredAt := 1700000000

theorem ofJson_respelled_limits : Respelled markedByNumbers markedByTexts ∧
    ofJson markedByNumbers 1700000999 = .ok markedAtLimits ∧
    ofJson markedByTexts 1700000999 = .ok markedAtLimits := by
  have htext {n : Int} {s : String} {word : List Char} (lead trail : List Char)
      (hfits : inRange n = true) (hwrites : Writes n word) (hs : s.toList = lead ++ word ++ trail)
      (hlead : lead.all Text.isBlank = true) (htrail : trail.all Text.isBlank = true) :
      SpelledOut (.int n) (.string s) :=
    .text (inRange_iff.1 hfits) hwrites
      ⟨lead, trail, hs, List.all_eq_true.1 hlead, List.all_eq_true.1 htrail⟩
  have hleast : SpelledOut (.int (-9223372036854775808)) (.string "\u2003-009223372036854775808") :=
    htext ['\u2003'] [] rfl (.minus 9223372036854775808 2) (by decide +kernel) rfl rfl
  have hgreatest : SpelledOut (.int 9223372036854775807) (.string "+9223372036854775807\u3000") :=
    htext [] ['\u3000'] rfl (.plus 9223372036854775807 0) (by decide +kernel) rfl rfl
  have hcourse : SpelledOut (.int 9) (.string "\t009\n") :=
    htext ['\t'] ['\n'] rfl (.unsigned 9 2) (by decide +kernel) rfl rfl
  have htime : SpelledOut (.int 1700000000) (.string "1700000000") :=
    htext [] [] rfl (.unsigned 1700000000 0) (by decide +kernel) rfl rfl
  have hattempt : SpelledOut (.int (-42)) (.string " -042\u00a0") :=
    htext [' '] ['\u00a0'] rfl (.minus 42 1) (by decide +kernel) rfl rfl
  have hother : OtherRespelled (.object [("attemptid", .int (-42))])
      (.object [("attemptid", .string " -042\u00a0")]) :=
    .object (.cons ⟨rfl, .inr ⟨rfl, hattempt⟩⟩ .nil)
  have h : Respelled markedByNumbers markedByTexts :=
    .object (.cons ⟨rfl, .inl rfl⟩ (.cons ⟨rfl, .inr (.inl ⟨by decide, hleast⟩)⟩
      (.cons ⟨rfl, .inr (.inl ⟨by decide, hgreatest⟩)⟩
      (.cons ⟨rfl, .inr (.inl ⟨by decide, hcourse⟩)⟩ (.cons ⟨rfl, .inl rfl⟩ (.cons ⟨rfl, .inl rfl⟩
      (.cons ⟨rfl, .inr (.inl ⟨by decide, htime⟩)⟩
        (.cons ⟨rfl, .inr (.inr ⟨rfl, hother⟩)⟩ .nil))))))))
  have hread : ofJson markedByNumbers 1700000999 = .ok markedAtLimits :=
    rfl
  exact ⟨h, hread, (ofJson_respelled h 1700000999).trans hread⟩

end GradeRelay.Event
