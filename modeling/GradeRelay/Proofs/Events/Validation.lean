import GradeRelay.Proofs.Events.Identifiers
import GradeRelay.Proofs.Lists
/-!
# Which events are accepted

A raw event announces its kind by the last part of its name, and a kind asks for the keys of the
learner, the course, the object and the context, for a time, and, when a question was graded, for
the attempt among the event's other data. Each of these is said here by what the raw event holds,
whatever order the keys are looked at in.

* `Event.Kind.shortName_eq_iff`, `Event.nameOf_eq_iff`: the name that an event announces itself by;
* `Event.mem_missingKeys_iff`, `Event.missingKeys_nodup`: the keys that are named as faults;
* **`Event.ofJson_validated`**: which events are accepted, what is read from them, and what is said
  of the others.
-/

namespace GradeRelay.Event

/-! ## The name of an event -/

/-- The characters that divide the parts of a name. -/
def IsSeparator (c : Char) : Prop := c = '\\' ∨ c = '/'

/-- What follows the last separator of a name; the whole of a name without one. -/
structure LastPart (name part : String) : Prop where
  undivided : ∀ c ∈ part.toList, ¬ IsSeparator c
  ending : name = part ∨
    ∃ before sep, IsSeparator sep ∧ name.toList = before ++ sep :: part.toList

theorem divides_eq_false_iff {c : Char} :
    (c != '\\' && c != '/') = false ↔ IsSeparator c := by
  simp only [IsSeparator, Bool.and_eq_false_iff, bne_eq_false_iff_eq]

theorem Kind.shortName_eq_iff {name part : String} :
    shortName name = part ↔ LastPart name part := by
  rw [shortName, ← String.toList_inj, String.toList_ofList, List.reverse_eq_iff, takeWhile_eq_iff]
  simp only [List.mem_reverse, ← Bool.not_eq_false, divides_eq_false_iff, List.reverse_inj,
    String.toList_inj]
  constructor
  · rintro ⟨hpart, rfl | ⟨sep, before, hsep, hname⟩⟩
    · exact ⟨hpart, .inl rfl⟩
    · refine ⟨hpart, .inr ⟨before.reverse, sep, hsep, ?_⟩⟩
      rw [← List.reverse_inj, hname]
      simp
  · rintro ⟨hpart, rfl | ⟨before, sep, hsep, hname⟩⟩
    · exact ⟨hpart, .inl rfl⟩
    · exact ⟨hpart, .inr ⟨sep, before.reverse, hsep, by simp [hname]⟩⟩

/-- The last parts of the names that announce a kind of event. -/
def Kind.names : Kind → List String
  | .questionGraded => ["question_manually_graded"]
  | .attemptUpdated => ["attempt_submitted", "attempt_updated", "attempt_regraded"]
  | .completionUpdated => ["course_module_completion_updated"]

theorem Kind.ofName?_eq_some_iff {name : String} {kind : Kind} :
    ofName? name = some kind ↔ shortName name ∈ kind.names := by
  simp only [ofName?]
  generalize shortName name = part
  cases kind <;> simp only [names, List.mem_cons, List.not_mem_nil, or_false] <;> grind

/-- The name of a raw event: its `eventname`, or none where that is no text. -/
inductive Named (raw : Json) : String → Prop where
  | given {name : String} : raw.get? "eventname" = some (.string name) → Named raw name
  | nameless : (∀ name, raw.get? "eventname" ≠ some (.string name)) → Named raw ""

/-- The raw event goes by a name whose last part announces the kind. -/
def Announces (raw : Json) (kind : Kind) : Prop :=
  ∃ name part, Named raw name ∧ LastPart name part ∧ part ∈ kind.names

variable {raw : Json} {now : Timestamp} {kind : Kind} {name key : String} {n : Int} {e : Event}

theorem text?_eq_some_iff {v : Json} : v.text? = some name ↔ v = .string name := by
  cases v <;> simp [Json.text?]

theorem nameOf_eq_iff : nameOf raw = name ↔ Named raw name := by
  have hread {t : String} : (raw.get? "eventname").bind Json.text? = some t ↔
      raw.get? "eventname" = some (.string t) := by
    simp only [Option.bind_eq_some_iff, text?_eq_some_iff, exists_eq_right]
  unfold nameOf
  cases hname : (raw.get? "eventname").bind Json.text? with
  | some t =>
    have hgiven := hread.1 hname
    constructor
    · rintro rfl
      exact .given hgiven
    · intro h
      cases h with
      | given h =>
        rw [hgiven] at h
        cases h
        rfl
      | nameless h => exact absurd hgiven (h t)
  | none =>
    have hnone (t : String) : raw.get? "eventname" ≠ some (.string t) := fun h => by
      rw [← hread, hname] at h
      cases h
    constructor
    · rintro rfl
      exact .nameless hnone
    · intro h
      cases h with
      | given h => exact absurd h (hnone name)
      | nameless _ => rfl

theorem announces_iff : Announces raw kind ↔ Kind.ofName? (nameOf raw) = some kind := by
  rw [Kind.ofName?_eq_some_iff]
  constructor
  · rintro ⟨name, part, hname, hpart, hmem⟩
    rwa [nameOf_eq_iff.2 hname, Kind.shortName_eq_iff.2 hpart]
  · exact fun h => ⟨_, _, nameOf_eq_iff.1 rfl, Kind.shortName_eq_iff.1 rfl, h⟩

/-! ## The keys of an event -/

/-- A key of the raw event holds an identifier. -/
def HoldsAt (raw : Json) (key : String) (n : Int) : Prop := ∃ v, raw.get? key = some v ∧ HoldsId v n

/-- The other data of the raw event hold the identifier of the graded attempt. -/
def HoldsOther (raw : Json) (n : Int) : Prop :=
  ∃ other, raw.get? "other" = some other ∧ HoldsAt other "attemptid" n

theorem idAt_eq_some_iff : idAt raw key = some n ↔ HoldsAt raw key n := by
  simp only [idAt, HoldsAt, Option.bind_eq_some_iff, identifier?_eq_some_iff]

theorem idAt_eq_none_iff : idAt raw key = none ↔ ∀ n, ¬ HoldsAt raw key n := by
  simp only [Option.eq_none_iff_forall_ne_some, ne_eq, idAt_eq_some_iff]

theorem otherAttempt_eq_some_iff : otherAttempt raw = some n ↔ HoldsOther raw n := by
  simp only [otherAttempt, HoldsOther, Option.bind_eq_some_iff, idAt_eq_some_iff]

theorem otherAttempt_eq_none_iff : otherAttempt raw = none ↔ ∀ n, ¬ HoldsOther raw n := by
  simp only [Option.eq_none_iff_forall_ne_some, ne_eq, otherAttempt_eq_some_iff]

/-- A key that an event of the kind asks for and that the raw event does not give as it should. -/
inductive AtFault (kind : Kind) (raw : Json) : String → Prop where
  | unread {key : String} : key ∈ ["relateduserid", "courseid", "objectid", "contextid"] →
    (∀ n, ¬ HoldsAt raw key n) → AtFault kind raw key
  | undated : raw.get? "timecreated" = none ∨ raw.get? "timecreated" = some .null →
    AtFault kind raw "timecreated"
  | unattempted : kind = .questionGraded → (∀ n, ¬ HoldsOther raw n) →
    AtFault kind raw "other.attemptid"

theorem isGiven_eq_false_iff {v : Option Json} :
    Json.isGiven v = false ↔ v = none ∨ v = some .null := by
  cases v with
  | none => simp [Json.isGiven]
  | some v => cases v <;> simp [Json.isGiven]

theorem idAt_eq_none_of_absent (h : Json.isGiven (raw.get? key) = false) : idAt raw key = none := by
  rcases isGiven_eq_false_iff.1 h with h | h <;> rw [idAt, h] <;> rfl

theorem mem_neededKeys_iff : key ∈ neededKeys ↔ key ∈ idKeys ∨ key = "timecreated" := by
  simp only [neededKeys, idKeys, List.mem_cons, List.not_mem_nil, or_false, or_assoc]

/-- **The keys named as faults** are just those at fault. -/
theorem mem_missingKeys_iff : key ∈ missingKeys kind raw ↔ AtFault kind raw key := by
  have habsentIff : key ∈ neededKeys.filter (fun k => !Json.isGiven (raw.get? k)) ↔
      key ∈ neededKeys ∧ Json.isGiven (raw.get? key) = false := by
    rw [List.mem_filter, Bool.not_eq_true']
  simp only [missingKeys, List.mem_append, List.mem_filter (p := fun k => _ && _),
    Bool.and_eq_true, Option.isNone_iff_eq_none, Bool.not_eq_true', ← Bool.not_eq_true,
    List.contains_iff_mem, List.mem_ite_nil_right, List.mem_singleton, decide_eq_true_eq]
  constructor
  · rintro ((habsent | ⟨hkey, hnone, -⟩) | ⟨⟨hkind, hnone⟩, rfl⟩)
    · obtain ⟨hneeded, hgiven⟩ := habsentIff.1 habsent
      rcases mem_neededKeys_iff.1 hneeded with hid | rfl
      · exact .unread hid (idAt_eq_none_iff.1 (idAt_eq_none_of_absent hgiven))
      · exact .undated (isGiven_eq_false_iff.1 hgiven)
    · exact .unread hkey (idAt_eq_none_iff.1 hnone)
    · exact .unattempted hkind (otherAttempt_eq_none_iff.1 hnone)
  · intro h
    cases h with
    | unread hkey hnone =>
      by_cases habsent : key ∈ neededKeys.filter fun k => !Json.isGiven (raw.get? k)
      · exact .inl (.inl habsent)
      · exact .inl (.inr ⟨hkey, idAt_eq_none_iff.2 hnone, habsent⟩)
    | undated habsent =>
      exact .inl (.inl (habsentIff.2
        ⟨mem_neededKeys_iff.2 (.inr rfl), isGiven_eq_false_iff.2 habsent⟩))
    | unattempted hkind hnone => exact .inr ⟨⟨hkind, otherAttempt_eq_none_iff.2 hnone⟩, rfl⟩

theorem missingKeys_nodup : (missingKeys kind raw).Nodup := by
  have hneeded : neededKeys.Nodup := by decide
  have hids : idKeys.Nodup := by decide
  unfold missingKeys
  refine List.nodup_append.2 ⟨List.nodup_append.2 ⟨hneeded.filter _, hids.filter _, ?_⟩, ?_, ?_⟩
  · rintro k habsent _ hunread rfl
    simp only [List.mem_filter, Bool.and_eq_true, Bool.not_eq_true', ← Bool.not_eq_true,
      List.contains_iff_mem] at habsent hunread
    exact hunread.2.2 habsent
  · split <;> simp
  · rintro k hk _ hother rfl
    have hneeded : k ∈ neededKeys := by
      rcases List.mem_append.1 hk with hk | hk
      · exact (List.mem_filter.1 hk).1
      · exact mem_neededKeys_iff.2 (.inl (List.mem_filter.1 hk).1)
    obtain ⟨-, hk⟩ := List.mem_ite_nil_right.1 hother
    rw [List.mem_singleton.1 hk] at hneeded
    exact absurd hneeded (by decide)

/-! ## What is read -/

/-- The row that a raw event of a kind points at. -/
inductive PointsAt (raw : Json) : Kind → Target → Prop where
  | graded {id : AttemptId} : HoldsOther raw id → PointsAt raw .questionGraded (.attempt id)
  | updated {id : AttemptId} : HoldsAt raw "objectid" id →
    PointsAt raw .attemptUpdated (.attempt id)
  | completed {id : CompletionId} : HoldsAt raw "objectid" id →
    PointsAt raw .completionUpdated (.completion id)

/-- The time of a raw event: the one it gives, if that is positive, else the time now. -/
inductive TakesPlace (raw : Json) (now : Timestamp) : Timestamp → Prop where
  | given {t : Timestamp} : HoldsAt raw "timecreated" t → 0 < t → TakesPlace raw now t
  | unknown : (∀ t, HoldsAt raw "timecreated" t → t ≤ 0) → TakesPlace raw now now

/-- The event is what the raw event says. -/
structure ReadsOff (raw : Json) (now : Timestamp) (e : Event) : Prop where
  kind : Announces raw e.kind
  subject : HoldsAt raw "relateduserid" e.subject
  course : HoldsAt raw "courseid" e.courseId
  target : PointsAt raw e.kind e.target
  actor : ∀ n, e.actor = some n ↔ HoldsAt raw "userid" n
  time : TakesPlace raw now e.occurredAt

theorem targetOf?_eq_some_iff {target : Target} :
    targetOf? kind raw = some target ↔ PointsAt raw kind target := by
  constructor
  · intro h
    cases kind <;> obtain ⟨id, hid, rfl⟩ := Option.map_eq_some_iff.1 h
    · exact .graded (otherAttempt_eq_some_iff.1 hid)
    · exact .updated (idAt_eq_some_iff.1 hid)
    · exact .completed (idAt_eq_some_iff.1 hid)
  · intro h
    cases h with
    | graded hid => exact Option.map_eq_some_iff.2 ⟨_, otherAttempt_eq_some_iff.2 hid, rfl⟩
    | updated hid => exact Option.map_eq_some_iff.2 ⟨_, idAt_eq_some_iff.2 hid, rfl⟩
    | completed hid => exact Option.map_eq_some_iff.2 ⟨_, idAt_eq_some_iff.2 hid, rfl⟩

theorem timeOf_takesPlace (raw : Json) (now : Timestamp) : TakesPlace raw now (timeOf raw now) := by
  unfold timeOf
  cases ht : (idAt raw "timecreated").filter fun t => 0 < t with
  | some t =>
    obtain ⟨hread, hpos⟩ := Option.filter_eq_some_iff.1 ht
    exact .given (idAt_eq_some_iff.1 hread) (of_decide_eq_true hpos)
  | none =>
    refine .unknown fun t hread => Int.not_lt.1 fun hpos => ?_
    exact Option.filter_eq_none_iff.1 ht t (idAt_eq_some_iff.2 hread) (decide_eq_true hpos)

/-! ## Which events are accepted -/

theorem ofJson_unsupported (h : Kind.ofName? (nameOf raw) = none) :
    ofJson raw now = .error (.unsupportedEvent (nameOf raw)) := by
  simp only [ofJson, h]

theorem ofJson_incomplete (h : Kind.ofName? (nameOf raw) = some kind)
    (hmissing : missingKeys kind raw ≠ []) :
    ofJson raw now = .error (.incompleteEvent (missingKeys kind raw)) := by
  simp only [ofJson, h]
  split
  · next hnil _ _ _ => exact absurd hnil hmissing
  · rfl

/-- **An event without a fault** is accepted as what it says. -/
theorem ofJson_complete (now : Timestamp) (h : Kind.ofName? (nameOf raw) = some kind)
    (hmissing : missingKeys kind raw = []) :
    ∃ e, ofJson raw now = .ok e ∧ ReadsOff raw now e := by
  have hsound (key : String) : ¬ AtFault kind raw key := by
    rw [← mem_missingKeys_iff, hmissing]
    exact List.not_mem_nil
  have hread (key : String)
      (hkey : key ∈ ["relateduserid", "courseid", "objectid", "contextid"]) :
      ∃ n, idAt raw key = some n :=
    Option.ne_none_iff_exists'.1 fun hnone =>
      hsound key (.unread hkey (idAt_eq_none_iff.1 hnone))
  obtain ⟨subject, hsubject⟩ := hread "relateduserid" (by decide)
  obtain ⟨courseId, hcourse⟩ := hread "courseid" (by decide)
  obtain ⟨target, htarget⟩ : ∃ target, targetOf? kind raw = some target := by
    obtain ⟨objectId, hobject⟩ := hread "objectid" (by decide)
    cases kind with
    | questionGraded =>
      obtain ⟨id, hid⟩ := Option.ne_none_iff_exists'.1 fun hnone =>
        hsound _ (.unattempted rfl (otherAttempt_eq_none_iff.1 hnone))
      exact ⟨_, Option.map_eq_some_iff.2 ⟨id, hid, rfl⟩⟩
    | attemptUpdated => exact ⟨_, Option.map_eq_some_iff.2 ⟨objectId, hobject, rfl⟩⟩
    | completionUpdated => exact ⟨_, Option.map_eq_some_iff.2 ⟨objectId, hobject, rfl⟩⟩
  refine ⟨_, by simp only [ofJson, h, hmissing, hsubject, hcourse, htarget]; rfl, ?_⟩
  exact ⟨announces_iff.2 h, idAt_eq_some_iff.1 hsubject, idAt_eq_some_iff.1 hcourse,
    targetOf?_eq_some_iff.1 htarget, fun n => idAt_eq_some_iff, timeOf_takesPlace raw now⟩

/-- **What is read from an accepted event** is what the raw event says. -/
theorem readsOff_of_ofJson (h : ofJson raw now = .ok e) : ReadsOff raw now e := by
  cases hname : Kind.ofName? (nameOf raw) with
  | none =>
    rw [ofJson_unsupported hname] at h
    cases h
  | some kind =>
    by_cases hmissing : missingKeys kind raw = []
    · obtain ⟨e', he, hread⟩ := ofJson_complete now hname hmissing
      rw [he] at h
      cases h
      exact hread
    · rw [ofJson_incomplete hname hmissing] at h
      cases h

/-- What becomes of a raw event. -/
structure Validated (raw : Json) (now : Timestamp) (result : Except Refusal Event) : Prop where
  /-- No kind goes by that name, whatever else the event holds. -/
  unsupported : ∀ name, result = .error (.unsupportedEvent name) ↔
    Named raw name ∧ ∀ kind, ¬ Announces raw kind
  /-- A kind is announced, and nothing that it asks for is at fault. -/
  accepted : (∃ e, result = .ok e) ↔
    ∃ kind, Announces raw kind ∧ ∀ key, ¬ AtFault kind raw key
  /-- A kind is announced, and something that it asks for is at fault. -/
  incomplete : (∃ keys, result = .error (.incompleteEvent keys)) ↔
    ∃ kind, Announces raw kind ∧ ∃ key, AtFault kind raw key
  /-- Each fault is named, once. -/
  faults : ∀ keys, result = .error (.incompleteEvent keys) → keys ≠ [] ∧ keys.Nodup ∧
    ∃ kind, Announces raw kind ∧ ∀ key, key ∈ keys ↔ AtFault kind raw key
  read : ∀ e, result = .ok e → ReadsOff raw now e

/-- **Which events are accepted.** -/
theorem ofJson_validated (raw : Json) (now : Timestamp) : Validated raw now (ofJson raw now) := by
  cases hname : Kind.ofName? (nameOf raw) with
  | none =>
    have hnone (kind : Kind) : ¬ Announces raw kind := by
      rw [announces_iff, hname]
      exact Option.some_ne_none kind ∘ Eq.symm
    rw [ofJson_unsupported hname]
    exact {
      unsupported := by simp [nameOf_eq_iff, hnone]
      accepted := by simp [hnone]
      incomplete := by simp [hnone]
      faults := by simp
      read := by simp }
  | some kind =>
    -- a raw event goes by one name, and that name announces one kind
    have honly {other : Kind} : Announces raw other ↔ other = kind := by
      rw [announces_iff, hname, Option.some.injEq, eq_comm]
    by_cases hmissing : missingKeys kind raw = []
    · have hsound (key : String) : ¬ AtFault kind raw key := by
        rw [← mem_missingKeys_iff, hmissing]
        exact List.not_mem_nil
      obtain ⟨e, he, hread⟩ := ofJson_complete now hname hmissing
      rw [he]
      exact {
        unsupported := by simp [honly]
        accepted := by simp [honly, hsound]
        incomplete := by simp [honly, hsound]
        faults := by simp
        read := by simpa using hread }
    · obtain ⟨key, hkey⟩ := List.exists_mem_of_ne_nil _ hmissing
      have hfault : ∃ key, AtFault kind raw key := ⟨key, mem_missingKeys_iff.1 hkey⟩
      rw [ofJson_incomplete hname hmissing]
      exact {
        unsupported := by simp [honly]
        accepted := by simpa [honly] using hfault
        incomplete := by simpa [honly] using hfault
        faults := by simp [honly, hmissing, missingKeys_nodup, mem_missingKeys_iff]
        read := by simp }

/-- The keys that are absent are named before those that hold no identifier. -/
example : ofJson (.object [("eventname", .string "attempt_regraded"), ("relateduserid", .int 3),
    ("objectid", .string "4 2"), ("contextid", .null), ("timecreated", .string "")]) 0 =
    .error (.incompleteEvent ["courseid", "contextid", "objectid"]) := rfl

end GradeRelay.Event
