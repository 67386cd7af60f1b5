import GradeRelay.Proofs.RetryTimes
/-!
# Public names

Outside an assessment goes by its public name: a copy of the written assessment by that title, in
the spelling found in its name, any other assessment by its own name. What goes by one public name
is one activity to the records service, and stands under one key in the outbox.

* `Text.mentions_iff`: when a word occurs in a text;
* `Assessment.publicName_cases`: the ways to come by a public name;
* `publicName_eq_iff`, `publicName_publicName`: which names become one, and that public names stay;
* **`publicName_merges`**: so it is with every name that is sent or kept.
-/

namespace GradeRelay

/-- The word occurs in the text. -/
def Text.Mentions (text word : String) : Prop :=
  ∃ before after, text = before ++ word ++ after

theorem Text.mentions_iff {text word : String} :
    Mentions text word ↔ occursIn word.toList text.toList = true := by
  rw [occursIn_iff]
  constructor
  · rintro ⟨before, after, rfl⟩
    exact ⟨before.toList, after.toList, by simp only [String.toList_append]⟩
  · rintro ⟨before, after, h⟩
    refine ⟨String.ofList before, String.ofList after, String.toList_injective ?_⟩
    simp only [String.toList_append, String.toList_ofList, h]

theorem Text.mentions_self (word : String) : Mentions word word :=
  ⟨"", "", by rw [String.empty_append, String.append_empty]⟩

namespace Assessment

open Text

/-- **The ways to come by a public name**: the title in its first spelling if it occurs, else in its
second if that occurs, else the name itself. -/
theorem publicName_cases (name : String) :
    (Mentions name "Written assessment" ∧ publicName name = "Written assessment") ∨
    (¬ Mentions name "Written assessment" ∧ Mentions name "Written Assessment" ∧
      publicName name = "Written Assessment") ∨
    (¬ Mentions name "Written assessment" ∧ ¬ Mentions name "Written Assessment" ∧
      publicName name = name) := by
  rw [mentions_iff, mentions_iff, publicName, writtenTitles, List.find?_cons, List.find?_cons,
    List.find?_nil]
  cases occursIn "Written assessment".toList name.toList with
  | true => exact .inl ⟨rfl, rfl⟩
  | false =>
    cases occursIn "Written Assessment".toList name.toList with
    | true => exact .inr (.inl ⟨Bool.false_ne_true, rfl, rfl⟩)
    | false => exact .inr (.inr ⟨Bool.false_ne_true, Bool.false_ne_true, rfl⟩)

/-- **Which names become one**: those with the title in its first spelling, and those that have it
in the second spelling only. -/
theorem publicName_eq_iff {a b : String} : publicName a = publicName b ↔
    a = b ∨ (Mentions a "Written assessment" ∧ Mentions b "Written assessment") ∨
      (Mentions a "Written Assessment" ∧ Mentions b "Written Assessment" ∧
        ¬ Mentions a "Written assessment" ∧ ¬ Mentions b "Written assessment") := by
  have hspellings : "Written assessment" ≠ "Written Assessment" := by decide
  have hfirst := mentions_self "Written assessment"
  have hsecond := mentions_self "Written Assessment"
  rcases publicName_cases a with ⟨ha, hpa⟩ | ⟨ha, ha', hpa⟩ | ⟨ha, ha', hpa⟩ <;>
    rcases publicName_cases b with ⟨hb, hpb⟩ | ⟨hb, hb', hpb⟩ | ⟨hb, hb', hpb⟩ <;>
    rw [hpa, hpb] <;> grind

@[simp]
theorem publicName_publicName (name : String) : publicName (publicName name) = publicName name := by
  rcases publicName_cases name with ⟨-, h⟩ | ⟨-, -, h⟩ | ⟨-, -, h⟩
  · rw [h]
    decide +kernel
  · rw [h]
    decide +kernel
  · rw [h, h]

end Assessment

/-! ## Names that are sent or kept -/

/-- The name of the assessment in the body of a notice. -/
def Notice.toldName? (n : Notice) : Option Json :=
  match n.resource with
  | .attempts => (n.toJson.get? "quiz").bind fun quiz => quiz.get? "name"
  | .activities => n.toJson.get? "activity.name"

theorem Dossier.IsNotice.toldName? {d : Dossier} {n : Notice} (h : d.IsNotice n) :
    n.toldName? = some (.string (Assessment.publicName d.assessment.name)) := by
  obtain ⟨t, assessor, hn⟩ := h
  cases hr : n.resource <;> rw [hr] at hn <;> subst hn <;> rfl

namespace Store

theorem followUp_names (s : Store) (transport : Transport) (o : Occasion) (e : Event)
    (d : Dossier) :
    (∀ n ∈ (s.followUp transport o e d).sent,
      n.toldName? = some (.string (Assessment.publicName d.assessment.name))) ∧
    ∃ rows, (s.followUp transport o e d).store.outbox = s.outbox ++ rows ∧
      ∀ row ∈ rows, row.assessmentName = Assessment.publicName d.assessment.name := by
  refine ⟨?_, ?_⟩
  · rcases followUp_cases s transport o e d with ⟨result, hend, -⟩ | ⟨report, ns, hns, hend⟩
    · rw [hend]
      exact List.forall_mem_nil _
    · rw [hend]
      exact fun n hn => ((notices_ok hns).1 n hn).toldName?
  · obtain ⟨rows, hrows, hkept⟩ := followUp_retries s transport o e d
    refine ⟨rows, hrows, fun row hrow => ?_⟩
    obtain ⟨i, n, hrow⟩ := hkept row hrow
    exact hrow.hasKey.2.2.1

open Assessment Text in
/-- **Which assessments are one activity outside.** Two names become one exactly when they are the
same, or both have the written assessment's title in its first spelling, or both have it in the
second spelling only. A public name is its own public name; and every name that the handling of an
event sends or adds to the outbox is such a one, however the handling ends. -/
theorem publicName_merges :
    (∀ a b : String, publicName a = publicName b ↔
      a = b ∨ (Mentions a "Written assessment" ∧ Mentions b "Written assessment") ∨
        (Mentions a "Written Assessment" ∧ Mentions b "Written Assessment" ∧
          ¬ Mentions a "Written assessment" ∧ ¬ Mentions b "Written assessment")) ∧
    (∀ name : String, publicName (publicName name) = publicName name) ∧
    ∀ (s : Store) (transport : Transport) (role : Int) (raw : Json) (actor : Option UserId)
      (now : Timestamp),
      (∀ n ∈ (s.handle transport role raw actor now).sent,
        ∃ name, n.toldName? = some (.string name) ∧ publicName name = name) ∧
      ∃ rows, (s.handle transport role raw actor now).store.outbox = s.outbox ++ rows ∧
        ∀ row ∈ rows, publicName row.assessmentName = row.assessmentName := by
  refine ⟨fun a b => publicName_eq_iff, publicName_publicName,
    fun s transport role raw actor now => ?_⟩
  rcases handle_cases s transport role raw actor now with ⟨result, hend, -⟩ | ⟨e, d, -, -, -, hend⟩
  · rw [hend]
    exact ⟨List.forall_mem_nil _, [], (List.append_nil _).symm, List.forall_mem_nil _⟩
  · obtain ⟨hsent, rows, hrows, hkept⟩ :=
      followUp_names s transport ⟨(actor.or e.actor).getD e.subject, now, role⟩ e d
    rw [hend]
    refine ⟨fun n hn => ⟨_, hsent n hn, by simp⟩, rows, hrows, fun row hrow => ?_⟩
    simp [hkept row hrow]

open Assessment Text in
/-- Versions of the written assessment become one, however they are numbered, but a name with both
spellings goes with the first. What is sent and kept about version 2 bears the title alone. -/
theorem publicName_merges_versions :
    (publicName "Written Assessment v2" = publicName "Final Written Assessment (2024)" ∧
      publicName "Written Assessment v2" ≠
        publicName "Written Assessment v2, was Written assessment") ∧
    (∃ n ∈ submittedOffline.sent, n.resource = .activities ∧
      ∃ name, n.toldName? = some (.string name) ∧ publicName name = name) ∧
    activityRetry ∈ submittedOffline.store.outbox ∧
      publicName activityRetry.assessmentName = activityRetry.assessmentName := by
  obtain ⟨hmerge, -, hhandle⟩ := publicName_merges
  obtain ⟨hsent, rows, hrows, hkept⟩ := hhandle reportedOnce (fun _ _ => some .timeout)
    Sample.graderRole (Sample.submission 42 3) none 1700100000
  have hadded : submittedOffline.store.outbox = reportedOnce.outbox ++ [activityRetry] := by
    decide +kernel
  have hactivity : submittedOffline.sent[1]?.map Notice.resource = some .activities := by
    decide +kernel
  have hsecond : ¬ Mentions "Written Assessment v2" "Written assessment" := by
    rw [mentions_iff]
    decide +kernel
  have hlast : ¬ Mentions "Final Written Assessment (2024)" "Written assessment" := by
    rw [mentions_iff]
    decide +kernel
  have hboth : Mentions "Written Assessment v2, was Written assessment" "Written assessment" :=
    ⟨"Written Assessment v2, was ", "", by decide +kernel⟩
  refine ⟨⟨?_, fun h => ?_⟩, ?_, ?_⟩
  · exact (hmerge _ _).2 (.inr (.inr ⟨⟨"", " v2", by decide +kernel⟩,
      ⟨"Final ", " (2024)", by decide +kernel⟩, hsecond, hlast⟩))
  · rcases (hmerge _ _).1 h with h | ⟨h, -⟩ | ⟨-, -, -, h⟩
    · exact absurd h (by decide +kernel)
    · exact hsecond h
    · exact h hboth
  · obtain ⟨n, hn, hresource⟩ := Option.map_eq_some_iff.1 hactivity
    have hmem : n ∈ submittedOffline.sent := List.mem_of_getElem? hn
    exact ⟨n, hmem, hresource, hsent n hmem⟩
  · have hnew : rows = [activityRetry] := List.append_cancel_left (hrows.symm.trans hadded)
    rw [hnew] at hkept
    exact ⟨by rw [hadded]; exact List.mem_append_right _ List.mem_cons_self,
      hkept _ List.mem_cons_self⟩

end Store

end GradeRelay
