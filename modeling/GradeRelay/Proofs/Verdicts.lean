import GradeRelay.Proofs.Delivery
import GradeRelay.Proofs.Resit.Raising
/-!
# Verdicts and resits

Whether an activity is reported as passed and whether an attempt earns a resit are decided apart, by
two comparisons of the same score with the same maximum: a score passes that is close to the
maximum, and one earns a resit that is neither close to it nor reaches it. So no score does both. A
score well above the maximum does neither.

* `Dossier.activityNotice_verdict`: a notice says throughout what the score comes to;
* `earnsResit_iff`: what earns a resit;
* `handle_activity`: where a notice of an activity comes from;
* **`passed_or_resit`**: nobody is passed and given a resit by one event;
* **`failure_leaves_resit`**: a failure leaves a resit when its score is below the maximum;
* `not_failureLeavesResit_aboveMaximum`: a failure with a score above it leaves none.
-/

namespace GradeRelay

/-! ## What a notice says -/

/-- The body says throughout that the activity was passed, and when. -/
structure ActivityNotice.SaysPassed (n : ActivityNotice) : Prop where
  complete : n.toJson.get? "lmscomplete" = some (.string "True")
  verdict : n.toJson.get? "supervisorstatus" = some (.int Verdict.passed.code)
  date : n.toJson.get? "lmscompletedate" = some (.int n.modified)

/-- The body says throughout that the activity was failed. -/
structure ActivityNotice.SaysFailed (n : ActivityNotice) : Prop where
  complete : n.toJson.get? "lmscomplete" = some (.string "False")
  verdict : n.toJson.get? "supervisorstatus" = some (.int Verdict.failed.code)
  date : n.toJson.get? "lmscompletedate" = some .null

theorem ActivityNotice.SaysPassed.not_saysFailed {n : ActivityNotice} (h : n.SaysPassed) :
    ¬ n.SaysFailed := by
  intro hf
  have hcodes := h.verdict.symm.trans hf.verdict
  simp [Json.int, Verdict.code] at hcodes

theorem ActivityNotice.not_saysFailed (n : ActivityNotice) (h : n.complete = true) :
    ¬ n.SaysFailed := by
  intro hf
  have hcomplete : n.toJson.get? "lmscomplete" =
      some (.string (if n.complete then "True" else "False")) := rfl
  rw [h, if_pos rfl, hf.complete] at hcomplete
  simp at hcomplete

theorem ActivityNotice.not_saysPassed (n : ActivityNotice) (h : n.complete = false) :
    ¬ n.SaysPassed := by
  intro hp
  have hcomplete : n.toJson.get? "lmscomplete" =
      some (.string (if n.complete then "True" else "False")) := rfl
  rw [h, if_neg Bool.false_ne_true, hp.complete] at hcomplete
  simp at hcomplete

namespace Dossier

variable {d : Dossier} {n : ActivityNotice}

/-- **A notice says throughout** what the score comes to. -/
theorem activityNotice_verdict (d : Dossier) (completedAt : Timestamp) (assessor : Option String) :
    if d.isPassed then (d.activityNotice completedAt assessor).SaysPassed
    else (d.activityNotice completedAt assessor).SaysFailed := by
  have hcomplete : (d.activityNotice completedAt assessor).toJson.get? "lmscomplete" =
      some (.string (if d.isPassed then "True" else "False")) := rfl
  have hverdict : (d.activityNotice completedAt assessor).toJson.get? "supervisorstatus" =
      some (.int (if d.isPassed then Verdict.passed else Verdict.failed).code) := rfl
  have hdate : (d.activityNotice completedAt assessor).toJson.get? "lmscompletedate" =
      some (Json.optional Json.int (if d.isPassed then some completedAt else none)) := rfl
  by_cases hp : d.isPassed = true
  · rw [if_pos hp] at hcomplete hverdict hdate ⊢
    exact ⟨hcomplete, hverdict, hdate⟩
  · rw [if_neg hp] at hcomplete hverdict hdate ⊢
    exact ⟨hcomplete, hverdict, hdate⟩

theorem IsNotice.verdict (h : d.IsNotice (.activity n)) :
    (d.isPassed = true ∧ n.SaysPassed) ∨ (d.isPassed = false ∧ n.SaysFailed) := by
  obtain ⟨completedAt, assessor, hn⟩ := h
  obtain rfl : n = d.activityNotice completedAt assessor := Notice.activity.inj hn
  have hsaid := d.activityNotice_verdict completedAt assessor
  cases hp : d.isPassed with
  | true => exact .inl ⟨rfl, by simpa [hp] using hsaid⟩
  | false => exact .inr ⟨rfl, by simpa [hp] using hsaid⟩

end Dossier

namespace Store

variable {s s' : Store} {o : Occasion} {kind : Event.Kind} {d : Dossier} {b : BookChanges}
  {transport : Transport} {role : Int} {raw : Json} {actor : Option UserId} {now : Timestamp}
  {report : Report} {n : ActivityNotice}

/-! ## What earns a resit -/

theorem earnsResit_iff {assessment : Assessment} {a : Attempt} :
    s.earnsResit assessment a = true ↔ assessment.isDeferred = true ∧ ∃ score,
      a.score = some score ∧ assessment.isFull score = false ∧ ¬ assessment.maxScore ≤ score ∧
        s.isCompleted assessment.id a.learnerId = false := by
  unfold earnsResit
  cases a.score with
  | none => simp
  | some score => simp [and_assoc]

theorem not_earnsResit_of_isPassed (hp : d.isPassed = true) :
    ¬ s.earnsResit d.assessment d.attempt = true := by
  intro hearns
  obtain ⟨-, score, hscore, hfull, -⟩ := earnsResit_iff.1 hearns
  rw [Dossier.isPassed, hscore, Option.any_some, hfull] at hp
  cases hp

theorem keepBooks_allowances (hn : ¬ s.earnsResit d.assessment d.attempt = true)
    (h : s.keepBooks o kind d = (.ok b, s')) :
    b.allowance = none ∧ s'.allowances = s.allowances := by
  have hk := keepBooks_ok h
  cases kind with
  | questionGraded =>
    obtain ⟨change, s₁, t, hg, ht, rfl⟩ := hk
    rw [grantResit, if_neg hn] at hg
    cases hg
    exact ⟨rfl, by rw [track_footprint ht]⟩
  | attemptUpdated =>
    obtain ⟨t, s₁, carried, ht, hcarried, rfl⟩ := hk
    exact ⟨rfl, by rw [takeOver_footprint hcarried, track_footprint ht]⟩
  | completionUpdated =>
    obtain ⟨rfl, rfl⟩ := hk
    exact ⟨rfl, rfl⟩

/-! ## Where a notice comes from -/

/-- **A notice of an activity** is written from the rows that were gathered, once the books were
kept for them; after that the outbox alone is written to. -/
theorem handle_activity (h : (s.handle transport role raw actor now).result = .ok report)
    (hn : .activity n ∈ (s.handle transport role raw actor now).sent) :
    ∃ e d b s₁ outbox, Event.ofJson raw now = .ok e ∧ s.gather e = .ok d ∧
      s.keepBooks ⟨(actor.or e.actor).getD e.subject, now, role⟩ e.kind d = (.ok b, s₁) ∧
      report.allowance = b.allowance ∧
      (s.handle transport role raw actor now).store = { s₁ with outbox := outbox } ∧
      d.IsNotice (.activity n) := by
  rcases handle_ends h with ⟨_, _, _, -, hskip⟩ |
    ⟨e, d, b, s₁, he, hg, -, hb, ⟨-, -, hskip⟩ | ⟨ns, -, hns, rfl, hend⟩⟩
  · rw [hskip] at hn
    cases hn
  · rw [hskip] at hn
    cases hn
  · obtain ⟨outbox, hs, -⟩ := handOverAll_kept transport now d s₁ [] ns
    rw [hend] at hn ⊢
    exact ⟨e, d, b, s₁, outbox, he, hg, hb, rfl, hs, (notices_ok hns).1 _ hn⟩

theorem handle_verdict (h : (s.handle transport role raw actor now).result = .ok report)
    (hn : .activity n ∈ (s.handle transport role raw actor now).sent) :
    n.SaysPassed ∨ n.SaysFailed := by
  obtain ⟨_, d, _, _, _, -, -, -, -, -, hnotice⟩ := handle_activity h hn
  exact hnotice.verdict.imp And.right And.right

/-- **Nobody is passed and given a resit by one event.** Every notice of an activity says throughout
that it was passed, or throughout that it was failed. Where an event says anything of an allowance,
all that it sends says failed; where it sends a notice that says passed, it leaves the allowances as
they were. -/
theorem passed_or_resit (h : (s.handle transport role raw actor now).result = .ok report) :
    (∀ n, .activity n ∈ (s.handle transport role raw actor now).sent →
      n.SaysPassed ∨ n.SaysFailed) ∧
    (report.allowance ≠ none →
      ∀ n, .activity n ∈ (s.handle transport role raw actor now).sent → n.SaysFailed) ∧
    ∀ n, .activity n ∈ (s.handle transport role raw actor now).sent → n.SaysPassed →
      (s.handle transport role raw actor now).store.allowances = s.allowances := by
  refine ⟨fun n hn => handle_verdict h hn, fun hchange n hn => ?_, fun n hn hsaid => ?_⟩
  · obtain ⟨e, d, b, s₁, _, -, -, hb, hallowance, -, hnotice⟩ := handle_activity h hn
    rcases hnotice.verdict with ⟨hp, -⟩ | ⟨-, hfailed⟩
    · have hnone := (keepBooks_allowances (not_earnsResit_of_isPassed hp) hb).1
      exact absurd (hallowance.trans hnone) hchange
    · exact hfailed
  · obtain ⟨e, d, b, s₁, outbox, -, -, hb, -, hs, hnotice⟩ := handle_activity h hn
    rcases hnotice.verdict with ⟨hp, -⟩ | ⟨-, hfailed⟩
    · rw [hs]
      exact (keepBooks_allowances (not_earnsResit_of_isPassed hp) hb).2
    · exact absurd hfailed hsaid.not_saysFailed

/-- A quiz with deferred feedback, sat once with the given score. -/
def satOnce (score : Float) : Store :=
  { Sample.people with
    assessments := [Sample.assessment "Quiz" .deferredFeedback]
    attempts := [.ofAttempt (Sample.attempt 42 1 (some score))] }

/-- A question of that attempt is graded, and every delivery arrives. -/
def marked (score : Float) : Handled :=
  (satOnce score).handle (fun _ _ => none) Sample.graderRole (Sample.marking 42 7) none 1700100000

/-- What is reported then, with what became of the allowance. -/
def markedReport (allowance : Option Allowance.Change) : Report where
  kind := some .questionGraded
  attemptId := some 42
  queue := some .unchanged
  allowance := allowance
  handovers := [⟨.activities, .delivered⟩]

/-- Some notice of an activity was sent, complete or not as given. -/
def sentActivity (handled : Handled) (complete : Bool) : Bool :=
  handled.sent.any fun
    | .activity n => n.complete == complete
    | .attempt _ => false

theorem exists_activity {handled : Handled} {complete : Bool}
    (h : sentActivity handled complete = true) :
    ∃ n, .activity n ∈ handled.sent ∧ n.complete = complete := by
  obtain ⟨_ | n, hn, hcomplete⟩ := List.any_eq_true.1 h
  · cases hcomplete
  · exact ⟨n, hn, beq_iff_eq.1 hcomplete⟩

theorem marked_six : (marked 6).result = .ok (markedReport (some (.created 2))) ∧
    sentActivity (marked 6) false = true :=
  ⟨Except.ok_of_toOption (by decide +kernel), by decide +kernel⟩

theorem passed_or_resit_marked :
    ((marked 6).result = .ok (markedReport (some (.created 2))) ∧
      ∃ n, .activity n ∈ (marked 6).sent ∧ n.SaysFailed) ∧
    (marked 10).result = .ok (markedReport none) ∧
      (∃ n, .activity n ∈ (marked 10).sent ∧ n.SaysPassed) ∧
      (marked 10).store.allowances = (satOnce 10).allowances := by
  obtain ⟨h₆, hsent₆⟩ := marked_six
  have h₁₀ : (marked 10).result = .ok (markedReport none) :=
    Except.ok_of_toOption (by decide +kernel)
  obtain ⟨n₆, hn₆, -⟩ := exists_activity hsent₆
  obtain ⟨n₁₀, hn₁₀, hc₁₀⟩ : ∃ n, .activity n ∈ (marked 10).sent ∧ n.complete = true :=
    exists_activity (by decide +kernel)
  obtain ⟨hsaid, -, hkept⟩ := passed_or_resit h₁₀
  have hpass : n₁₀.SaysPassed := (hsaid n₁₀ hn₁₀).resolve_right (n₁₀.not_saysFailed hc₁₀)
  exact ⟨⟨h₆, n₆, hn₆, (passed_or_resit h₆).2.1 nofun n₆ hn₆⟩, h₁₀, ⟨n₁₀, hn₁₀, hpass⟩,
    hkept n₁₀ hn₁₀ hpass⟩

/-! ## Failures that leave a resit -/

/-- The learner of an attempt may sit the assessment once more after it. -/
def PermitsNext (s : Store) (d : Dossier) : Prop :=
  ∃ allowance, s.allowance? d.assessment.id d.attempt.learnerId = some allowance ∧
    d.attempt.number.toNat + 1 ≤ allowance.permitted.toNat

/-- A question was graded of an attempt with a score at an assessment with deferred feedback, whose
learner has no full credit, and the activity is reported as failed. -/
structure ReportsFailure (s : Store) (handled : Handled) (raw : Json) (now : Timestamp)
    (d : Dossier) (score : Float) : Prop where
  graded : ∃ e, Event.ofJson raw now = .ok e ∧ e.kind = .questionGraded ∧ s.gather e = .ok d
  unskipped : ∃ report, handled.result = .ok report ∧ report.skipped = none
  deferred : d.assessment.isDeferred = true
  scored : d.attempt.score = some score
  uncredited : s.isCompleted d.assessment.id d.attempt.learnerId = false
  failed : ∃ n, .activity n ∈ handled.sent ∧ n.SaysFailed

/-- Every failure that is reported leaves the learner a resit. -/
def FailureLeavesResit (s : Store) (handled : Handled) (raw : Json) (now : Timestamp) : Prop :=
  ∀ d score, s.ReportsFailure handled raw now d score → handled.store.PermitsNext d

theorem Granted.permitsNext (h : s.Granted d.assessment d.attempt)
    (hearns : s.earnsResit d.assessment d.attempt = true) : s.PermitsNext d := by
  obtain ⟨n, allowance, hnext, hallowance, hle⟩ := h hearns
  refine ⟨allowance, hallowance, ?_⟩
  rw [← Ordinal.next?_eq_some_iff.1 hnext]
  exact UInt32.le_iff_toNat_le.1 hle

/-- **A failure leaves a resit when its score is below the maximum.** A score that is reported as
failed though it reaches the maximum leaves the allowances as they were. -/
theorem failure_leaves_resit {score : Float}
    (h : s.ReportsFailure (s.handle transport role raw actor now) raw now d score) :
    (¬ d.assessment.maxScore ≤ score →
      (s.handle transport role raw actor now).store.PermitsNext d) ∧
    (d.assessment.maxScore ≤ score →
      (s.handle transport role raw actor now).store.allowances = s.allowances) := by
  obtain ⟨e, he, hkind, hg⟩ := h.graded
  obtain ⟨report, hreport, -⟩ := h.unskipped
  obtain ⟨n, hn, hfailed⟩ := h.failed
  obtain ⟨e', d', b, s₁, outbox, he', hg', hb, -, hs, hnotice⟩ := handle_activity hreport hn
  obtain rfl : e = e' := Except.ok.inj (he.symm.trans he')
  obtain rfl : d = d' := Except.ok.inj (hg.symm.trans hg')
  have hpassed : d.isPassed = false := by
    rcases hnotice.verdict with ⟨-, hsaid⟩ | ⟨hp, -⟩
    · exact absurd hfailed hsaid.not_saysFailed
    · exact hp
  rw [hs]
  refine ⟨fun hbelow => ?_, fun habove => ?_⟩
  · have hfull : d.assessment.isFull score = false := by
      rwa [Dossier.isPassed, h.scored, Option.any_some] at hpassed
    have hearns : s.earnsResit d.assessment d.attempt = true :=
      earnsResit_iff.2 ⟨h.deferred, score, h.scored, hfull, hbelow, h.uncredited⟩
    rw [hkind] at hb
    obtain ⟨change, s₂, t, hgrant, ht, -⟩ := keepBooks_ok hb
    -- what is earned is judged by rows that the books leave alone
    have hgranted := grantResit_granted hgrant
    have hearns₂ : s₂.earnsResit d.assessment d.attempt = true := by
      rw [grantResit_footprint hgrant]
      exact hearns
    have hnext := hgranted.permitsNext hearns₂
    rw [track_footprint ht]
    exact hnext
  · refine (keepBooks_allowances (fun hearns => ?_) hb).2
    obtain ⟨-, score', hscore, -, hbelow, -⟩ := earnsResit_iff.1 hearns
    obtain rfl : score = score' := Option.some.inj (h.scored.symm.trans hscore)
    exact hbelow habove

/-! A score below the maximum, and one above it. -/

/-- The rows of that attempt. -/
def satDossier (score : Float) : Dossier where
  attempt := Sample.attempt 42 1 (some score)
  assessment := Sample.assessment "Quiz" .deferredFeedback
  learner := Sample.user 3 "learner"
  course := { id := 9, externalId := "CRS-9", shortName := "FA101",
              fullName := "First Aid Fundamentals" }

theorem reportsFailure_marked {score : Float} {allowance : Option Allowance.Change}
    (hstored : Score.stored score = some score)
    (hreport : (marked score).result = .ok (markedReport allowance))
    (hfailed : sentActivity (marked score) false = true) :
    (satOnce score).ReportsFailure (marked score) (Sample.marking 42 7) 1700100000
      (satDossier score) score := by
  have hevent : Event.ofJson (Sample.marking 42 7) 1700100000 =
      .ok ⟨.questionGraded, some 7, 3, 9, .attempt 42, 1700000000⟩ :=
    Except.ok_of_toOption (by decide +kernel)
  have hattempt : (satOnce score).attempt? 42 = .ok (some (Sample.attempt 42 1 (some score))) := by
    have hrow := AttemptRow.read_ofAttempt (Sample.attempt 42 1 (some score))
    simp only [Sample.attempt, Option.bind_some, hstored] at hrow
    exact congrArg (Except.map some) hrow
  obtain ⟨n, hn, hcomplete⟩ := exists_activity hfailed
  exact {
    graded := ⟨_, hevent, rfl, gather_eq_ok_iff.2 ⟨hattempt, rfl, rfl, rfl, rfl⟩⟩
    unskipped := ⟨_, hreport, rfl⟩
    deferred := rfl
    scored := rfl
    uncredited := rfl
    failed := ⟨n, hn, (handle_verdict hreport hn).resolve_left (n.not_saysPassed hcomplete)⟩ }

theorem failure_leaves_resit_belowMaximum :
    (satOnce 6).ReportsFailure (marked 6) (Sample.marking 42 7) 1700100000 (satDossier 6) 6 ∧
      (marked 6).store.PermitsNext (satDossier 6) := by
  obtain ⟨hreport, hsent⟩ := marked_six
  have h := reportsFailure_marked (by decide +kernel) hreport hsent
  exact ⟨h, (failure_leaves_resit h).1 (by decide +kernel)⟩

theorem not_failureLeavesResit_aboveMaximum :
    ¬ FailureLeavesResit (satOnce 11) (marked 11) (Sample.marking 42 7) 1700100000 := by
  intro hevery
  have hreport : (marked 11).result = .ok (markedReport none) :=
    Except.ok_of_toOption (by decide +kernel)
  have h := reportsFailure_marked (by decide +kernel) hreport (by decide +kernel)
  obtain ⟨allowance, hallowance, -⟩ := hevery _ _ h
  have hnone : (marked 11).store.allowance? 5 3 = none := by decide +kernel
  cases hnone.symm.trans hallowance

end Store

end GradeRelay
