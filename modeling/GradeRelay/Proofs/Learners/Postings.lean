import GradeRelay.Proofs.Attempts
import GradeRelay.Proofs.Edits
import GradeRelay.Proofs.Events.Validation
import GradeRelay.Proofs.Queue.Tracking
import GradeRelay.Proofs.Redelivery.Retries
import GradeRelay.Proofs.Resit.Rows
/-!
# What one event posts

An event reads the rows of its subject and writes rows of its subject. What it writes can be told
apart from the store that it is written to: edits of the queue and of the allowances, steps carried,
and retries. Any other store in which the subject finds the same leads to the same report, and the
same is posted to it.

* `Posting`, `Store.post`: what an event writes, and how it changes a store;
* `SameFor`: two stores in which one learner finds the same;
* `Belongs`: a posting keeps to the rows of one learner;
* `grantResit_posting`, `track_posting`, `takeOver_posting`: the parts of the books;
* `keepBooks_posting`, `handOverAll_posting`: the books as a whole, and the deliveries;
* **`handle_posting`**: an event posts to every store in which its subject finds the same.
-/

namespace GradeRelay

/-- What an event writes: edits of the queue and the allowances, and the steps and retries that get
new rows. -/
structure Posting where
  reviews : Edit ReviewRow := {}
  allowances : Edit Allowance := {}
  carried : List CarriedStep := []
  retries : List Retry := []

/-- Adds retries to an outbox, each under a new number. -/
def fileRetries (outbox : List RetryRow) (rs : List Retry) : List RetryRow :=
  rs.foldl (fun rows r => rows ++ [.ofRetry (freshId (rows.map (·.id))) r]) outbox

/-- A retry's row without its number. -/
def RetryRow.unnumbered (row : RetryRow) : RetryRow := { row with id := 0 }

theorem fileRetries_cons (outbox : List RetryRow) (r : Retry) (rs : List Retry) :
    fileRetries outbox (r :: rs) =
      fileRetries (outbox ++ [.ofRetry (freshId (outbox.map (·.id))) r]) rs := rfl

theorem fileRetries_append (outbox : List RetryRow) (rs rs' : List Retry) :
    fileRetries outbox (rs ++ rs') = fileRetries (fileRetries outbox rs) rs' := List.foldl_append

theorem fileRetries_eq (outbox : List RetryRow) (rs : List Retry) :
    ∃ added, fileRetries outbox rs = outbox ++ added ∧
      added.map RetryRow.unnumbered = rs.map (RetryRow.ofRetry 0) := by
  induction rs generalizing outbox with
  | nil => exact ⟨[], (List.append_nil _).symm, rfl⟩
  | cons r rest ih =>
    obtain ⟨added, hadded, hrows⟩ := ih (outbox ++ [.ofRetry (freshId (outbox.map (·.id))) r])
    refine ⟨.ofRetry (freshId (outbox.map (·.id))) r :: added, ?_, ?_⟩
    · rw [fileRetries_cons, hadded, List.append_assoc, List.singleton_append]
    · rw [List.map_cons, hrows]
      rfl

@[simp]
theorem taken_fileRetries {outbox : List RetryRow} {rs : List Retry} {k : Retry.Key} :
    Taken (fileRetries outbox rs) k ↔
      Taken outbox k ∨ ∃ r ∈ rs, r.status = .pending ∧ r.key = k := by
  induction rs generalizing outbox with
  | nil => simp [fileRetries]
  | cons r rest ih =>
    have hfirst : ∀ id, Taken [.ofRetry id r] k ↔ r.status = .pending ∧ r.key = k := by
      intro id
      rw [Taken, List.exists_mem_cons_iff]
      simp only [List.not_mem_nil, false_and, exists_false, or_false]
      refine and_congr_right fun _ => ⟨fun h => ?_, fun h => h ▸ RetryRow.hasKey_ofRetry id r⟩
      obtain ⟨hlearner, hcourse, hname, hattempt, htag⟩ := h
      have hresource : r.resource = k.resource := Resource.tag_injective htag
      cases k
      cases hlearner
      cases hcourse
      cases hname
      cases hattempt
      cases hresource
      rfl
    rw [fileRetries_cons, ih, taken_append, hfirst, or_assoc, List.exists_mem_cons_iff]

namespace Store

variable {s s' t : Store} {who : Option UserId} {a p : Attempt} {o : Occasion}
  {assessment : Assessment} {d : Dossier} {e : Event} {report : Report} {transport : Transport}
  {now : Timestamp} {role : Int} {raw : Json} {actor : Option UserId} {kind : Event.Kind}

/-- The store after a posting: each table with the rows that are filed in it. -/
def post (s : Store) (p : Posting) : Store :=
  { s with
    queue := p.reviews.apply s.queue
    allowances := p.allowances.apply s.allowances
    steps := (s.enter p.carried).steps
    notes := (s.enter p.carried).notes
    outbox := fileRetries s.outbox p.retries }

@[simp]
theorem post_nothing (s : Store) : s.post {} = s := by
  unfold post
  simp only [Edit.apply_nothing]
  rfl

/-! ## What a learner finds -/

/-- The attempt is that of a row. -/
def HasRow (s : Store) (a : Attempt) : Prop := ∃ r ∈ s.attempts, r.read = .ok a

/-- The attempt under the number is the learner's. -/
def Owns (s : Store) (who : Option UserId) (id : AttemptId) : Prop :=
  ∃ a, s.attempt? id = .ok (some a) ∧ who = some a.learnerId

/-- The question is put in an attempt of the learner. -/
def Asks (s : Store) (who : Option UserId) (q : Question) : Prop :=
  q ∈ s.questions ∧ ∃ r ∈ s.attempts, r.usageId = q.usageId ∧ who = some r.learnerId

/-- Two stores hold the same source rows, and one learner finds the same in both: the reviews of the
own attempts, the own allowances, the steps on the own questions, and which retries are pending. -/
structure SameFor (who : Option UserId) (s t : Store) : Prop where
  sources : t = { s with queue := t.queue, allowances := t.allowances, steps := t.steps,
                         notes := t.notes, outbox := t.outbox }
  reviews : ∀ id, s.Owns who id → t.review? id = s.review? id
  allowances : ∀ u, who = some u → ∀ assessmentId,
    t.allowance? assessmentId u = s.allowance? assessmentId u
  steps : ∀ q, s.Asks who q → t.stepsOf q.id = s.stepsOf q.id
  taken : ∀ k : Retry.Key, who = some k.learnerId → (Taken t.outbox k ↔ Taken s.outbox k)

/-- A posting keeps to the rows of one learner, and fits the store. -/
structure Belongs (s : Store) (who : Option UserId) (p : Posting) : Prop where
  reviews : p.reviews.Within fun row => s.Owns who row.attemptId
  allowances : p.allowances.Within fun al => who = some al.learnerId
  fits : s.Fits p.carried
  asked : ∀ c ∈ p.carried, ∃ q, s.Asks who q ∧ q.id = c.questionAttemptId
  retries : ∀ r ∈ p.retries, who = some r.learnerId

theorem belongs_nothing (s : Store) (who : Option UserId) : s.Belongs who {} :=
  ⟨Edit.within_nothing _, Edit.within_nothing _, fits_nil s, fun _ h => (nomatch h),
    fun _ h => (nomatch h)⟩

theorem SameFor.refl (who : Option UserId) (s : Store) : s.SameFor who s :=
  ⟨rfl, fun _ _ => rfl, fun _ _ _ => rfl, fun _ _ => rfl, fun _ _ => Iff.rfl⟩

theorem SameFor.symm (h : s.SameFor who t) : t.SameFor who s := by
  have hsources := h.sources
  have howns : ∀ id, t.Owns who id → s.Owns who id := fun id hid => by
    rw [hsources] at hid
    exact hid
  have hasks : ∀ q, t.Asks who q → s.Asks who q := fun q hq => by
    rw [hsources] at hq
    exact hq
  exact ⟨by rw [hsources], fun id hid => (h.reviews id (howns id hid)).symm,
    fun u hu id => (h.allowances u hu id).symm, fun q hq => (h.steps q (hasks q hq)).symm,
    fun k hk => (h.taken k hk).symm⟩

/-! ## Attempts and their rows -/

theorem hasRow_of_attempt? {id : AttemptId} (h : s.attempt? id = .ok (some a)) : s.HasRow a := by
  obtain ⟨r, hr, hread⟩ := readAttempt_ok h
  exact ⟨r, List.mem_of_find?_eq_some hr, hread⟩

theorem HasRow.asks {q : Question} (ha : s.HasRow a) (hw : who = some a.learnerId)
    (hq : q ∈ s.questions) (hu : q.usageId = a.usageId) : s.Asks who q := by
  obtain ⟨r, hr, hread⟩ := ha
  obtain ⟨-, hlearner, husage⟩ := AttemptRow.read_ok hread
  exact ⟨hq, r, hr, by rw [hu, husage], by rw [hw, hlearner]⟩

theorem of_predecessor? (h : s.predecessor? assessment a = .ok (some p)) :
    s.HasRow p ∧ p.learnerId = a.learnerId := by
  unfold predecessor? at h
  split at h
  · obtain ⟨r, hr, hread⟩ := readAttempt_ok h
    obtain ⟨hmem, htest⟩ := List.mem_filter.1 (mem_of_latest? hr)
    simp only [Bool.and_eq_true, decide_eq_true_eq] at htest
    exact ⟨⟨r, hmem, hread⟩, (AttemptRow.read_ok hread).2.1.trans htest.1.1.2⟩
  · cases h

/-! ## What is read is the same -/

theorem SameFor.sitting_eq (h : s.SameFor who t) (ha : s.HasRow a) (hw : who = some a.learnerId) :
    t.sitting a = s.sitting a := by
  have hquestions : t.questions = s.questions := by rw [h.sources]
  unfold sitting
  rw [hquestions]
  congr 1
  refine List.map_congr_left fun q hq => ?_
  rw [List.mem_mergeSort, List.mem_filter, decide_eq_true_eq] at hq
  rw [h.steps q (ha.asks hw hq.1 hq.2)]

theorem SameFor.observation_eq (h : s.SameFor who t) (ha : s.HasRow a)
    (hw : who = some a.learnerId) (o : Occasion) : t.observation o a = s.observation o a := by
  have hsitting := h.sitting_eq ha hw
  unfold observation
  rw [hsitting, h.sources]
  rfl

theorem SameFor.carried?_eq (h : s.SameFor who t) (ha : s.HasRow a) (hw : who = some a.learnerId)
    (o : Occasion) (assessment : Assessment) :
    t.carried? o assessment a = s.carried? o assessment a := by
  have hpre : t.predecessor? assessment a = s.predecessor? assessment a := by
    rw [h.sources]
    rfl
  rw [carried?, carried?, hpre]
  cases hp : s.predecessor? assessment a with
  | error f => rfl
  | ok before =>
    cases before with
    | none => rfl
    | some p =>
      obtain ⟨hprow, hlearner⟩ := of_predecessor? hp
      dsimp only
      rw [h.sitting_eq ha hw, h.sitting_eq hprow (by rw [hw, hlearner])]
      cases hplan : Takeover.plan (s.sitting p) (s.sitting a) o.now with
      | none => rfl
      | some cs =>
        refine congrArg Except.ok (CarriedStep.firsts_congr fun c hc => ?_)
        -- each step planned is on a question of the attempt
        obtain ⟨l, hl, hid, -⟩ := (Takeover.plan_mem hplan).1 c hc
        obtain ⟨hq, hu⟩ := question_of_link hl
        have hsteps := h.steps _ (ha.asks hw hq hu)
        rw [Bool.eq_iff_iff, hasStepIn_accepted_iff_stepsOf, hasStepIn_accepted_iff_stepsOf, hid,
          hsteps]

/-! ## The books -/

theorem review?_enter (s : Store) (cs : List CarriedStep) (id : AttemptId) :
    (s.enter cs).review? id = s.review? id := by
  rw [enter_footprint]
  rfl

theorem grantResit_posting {change : Option Allowance.Change} (hw : who = some a.learnerId)
    (h : s.grantResit assessment a = .ok (change, s')) :
    ∃ e : Edit Allowance, (e.Within fun al => who = some al.learnerId) ∧ ∀ t, s.SameFor who t →
      t.grantResit assessment a = .ok (change, { t with allowances := e.apply t.allowances }) := by
  have hearns : ∀ t, s.SameFor who t → t.earnsResit assessment a = s.earnsResit assessment a := by
    intro t ht
    rw [ht.sources]
    rfl
  unfold grantResit at h
  split at h
  · next he =>
    split at h
    · cases h
    · next n hn =>
      cases h
      refine ⟨(s.raiseAllowance assessment.id a.learnerId n).1.edit assessment.id a.learnerId,
        @Allowance.Change.edit_within _ _ (fun u => who = some u) hw _, fun t ht => ?_⟩
      have hsame : (t.raiseAllowance assessment.id a.learnerId n).1 =
          (s.raiseAllowance assessment.id a.learnerId n).1 := by
        simp only [raiseAllowance, ht.allowances _ hw]
      simp only [grantResit, hearns t ht, he, if_true, hn]
      rw [raiseAllowance_eq, hsame]
      rfl
  · next he =>
    cases h
    refine ⟨{}, Edit.within_nothing _, fun t ht => ?_⟩
    simp only [grantResit, hearns t ht, he, Edit.apply_nothing]
    rfl

theorem track_reads {tr : Transition} (h : s.track o a = .ok (tr, s')) :
    ∃ review obs, s.review? a.id = .ok review ∧ s.observation o a = .ok obs ∧
      tr = .next review obs ∧
      s' = { s with queue := (Change.edit ⟨a, o.now, tr⟩).apply s.queue } ∧
      s'.review? a.id = .ok (Change.result ⟨a, o.now, tr⟩ review) := by
  obtain ⟨review, obs, hr, ho, rfl, hafter, -⟩ := track_result h
  rw [track_eq hr ho] at h
  cases h
  exact ⟨review, obs, hr, ho, rfl, rfl, hafter⟩

theorem track_posting {tr : Transition} (h : s.track o a = .ok (tr, s'))
    (hreview : t.review? a.id = s.review? a.id) (hobs : t.observation o a = s.observation o a) :
    ∃ t', t.track o a = .ok (tr, t') ∧
      t' = { t with queue := (Change.edit ⟨a, o.now, tr⟩).apply t.queue } ∧
      t'.review? a.id = s'.review? a.id := by
  obtain ⟨review, obs, hr, ho, rfl, -, hafter⟩ := track_reads h
  rw [← hreview] at hr
  rw [← hobs] at ho
  have ht := track_eq hr ho
  obtain ⟨review', obs', hr', ho', -, -, hafter'⟩ := track_reads ht
  rw [hr] at hr'
  cases hr'
  exact ⟨_, ht, rfl, hafter'.trans hafter.symm⟩

/-- **Grades are taken over** by the same steps on the learner's own questions, whatever stands in
the queue. -/
theorem takeOver_posting {n : Nat} {queue : List ReviewRow} (hw : who = some a.learnerId)
    (ha : s.HasRow a) (h : ({ s with queue } : Store).takeOver o assessment a = .ok (n, s')) :
    ∃ cs, s.Fits cs ∧ (∀ c ∈ cs, ∃ q, s.Asks who q ∧ q.id = c.questionAttemptId) ∧
      s'.queue = queue ∧ ∀ t queue, s.SameFor who t →
        ({ t with queue } : Store).takeOver o assessment a =
          .ok (n, ({ t with queue } : Store).enter cs) := by
  obtain ⟨cs, hcs, rfl, rfl⟩ := takeOver_enter h
  have hcarried : s.carried? o assessment a = .ok cs := hcs
  obtain ⟨hfits, hasked⟩ := carried?_fits hcarried
  refine ⟨cs, hfits, fun c hc => ?_, by rw [enter_footprint], fun t queue ht => ?_⟩
  · obtain ⟨q, hq, hu, hid⟩ := hasked c hc
    exact ⟨q, ha.asks hw hq hu, hid⟩
  · have htcarried : ({ t with queue } : Store).carried? o assessment a = .ok cs :=
      (ht.carried?_eq ha hw o assessment).trans hcarried
    rw [takeOver_eq_enter, htcarried]
    rfl

/-- **The books are kept** by a posting of the learner's own, whatever else the store holds. -/
theorem keepBooks_posting {b : BookChanges} (hw : who = some d.attempt.learnerId)
    (ha : kind ≠ .completionUpdated → s.attempt? d.attempt.id = .ok (some d.attempt))
    (h : s.keepBooks o kind d = (.ok b, s')) :
    ∃ p : Posting, p.retries = [] ∧ s.Belongs who p ∧ ∀ t, s.SameFor who t →
      t.keepBooks o kind d = (.ok b, t.post p) ∧
        (kind ≠ .completionUpdated →
          (t.post p).review? d.attempt.id = s'.review? d.attempt.id) := by
  have hb := keepBooks_ok h
  cases kind with
  | questionGraded =>
    have hfound := ha (by decide)
    obtain ⟨change, s₁, tr, hgrant, htrack, rfl⟩ := hb
    obtain ⟨e, he, hgrants⟩ := grantResit_posting hw hgrant
    have hs₁ := hgrants s (.refl who s)
    rw [hgrant] at hs₁
    obtain rfl := (Prod.mk.inj (Except.ok.inj hs₁)).2
    refine ⟨{ reviews := Change.edit ⟨d.attempt, o.now, tr⟩, allowances := e }, rfl,
      ⟨?_, he, fits_nil s, fun _ h => absurd h List.not_mem_nil,
        fun _ h => absurd h List.not_mem_nil⟩, fun t ht => ?_⟩
    · exact @Change.edit_within _ (s.Owns who) ⟨_, hfound, hw⟩
    · obtain ⟨t', ht', hstore, hreview⟩ :=
        track_posting (t := { t with allowances := e.apply t.allowances }) htrack
          (ht.reviews _ ⟨_, hfound, hw⟩) (ht.observation_eq (hasRow_of_attempt? hfound) hw o)
      have hpost : t' = t.post { reviews := Change.edit ⟨d.attempt, o.now, tr⟩, allowances := e } :=
        hstore
      refine ⟨?_, fun _ => hpost ▸ hreview⟩
      simp only [keepBooks, hgrants t ht, ht', hpost]
  | attemptUpdated =>
    have hfound := ha (by decide)
    have hrow := hasRow_of_attempt? hfound
    obtain ⟨tr, s₁, n, htrack, htake, rfl⟩ := hb
    obtain ⟨-, -, -, -, -, hs₁, -⟩ := track_reads htrack
    have hqueue : s₁.queue = (Change.edit ⟨d.attempt, o.now, tr⟩).apply s.queue := by rw [hs₁]
    rw [hs₁] at htake
    obtain ⟨cs, hfits, hasked, hlast, htakes⟩ := takeOver_posting hw hrow htake
    refine ⟨{ reviews := Change.edit ⟨d.attempt, o.now, tr⟩, carried := cs }, rfl,
      ⟨?_, Edit.within_nothing _, hfits, hasked,
        fun _ h => absurd h List.not_mem_nil⟩, fun t ht => ?_⟩
    · exact @Change.edit_within _ (s.Owns who) ⟨_, hfound, hw⟩
    · obtain ⟨t', ht', hstore, hreview⟩ := track_posting htrack (ht.reviews _ ⟨_, hfound, hw⟩)
        (ht.observation_eq hrow hw o)
      have htake' := htakes t ((Change.edit ⟨d.attempt, o.now, tr⟩).apply t.queue) ht
      rw [← hstore] at htake'
      have hpost : t'.enter cs =
          t.post { reviews := Change.edit ⟨d.attempt, o.now, tr⟩, carried := cs } := by
        rw [hstore, enter_with_queue, enter_footprint, post, Edit.apply_nothing]
        rfl
      refine ⟨by simp only [keepBooks, ht', htake', hpost], fun _ => ?_⟩
      rw [← hpost, review?_enter, hreview]
      simp only [review?, hlast, hqueue]
  | completionUpdated =>
    obtain ⟨rfl, rfl⟩ := hb
    refine ⟨{}, rfl, belongs_nothing _ who, fun t _ => ⟨?_, fun h => absurd rfl h⟩⟩
    simp [keepBooks]

/-! ## The deliveries -/

theorem handOver_posting (transport : Transport) (now : Timestamp) (d : Dossier) (s : Store)
    (sent : List Notice) (n : Notice) : ∃ rs : List Retry, (∀ r ∈ rs, ∃ resource,
      r = d.retry now resource) ∧ ∀ t : Store, (∀ resource,
        Taken t.outbox (d.retryKey resource) ↔ Taken s.outbox (d.retryKey resource)) →
      t.handOver transport now d sent n = ((s.handOver transport now d sent n).1,
        { t with outbox := fileRetries t.outbox rs }, sent ++ [n]) := by
  cases hanswer : transport sent.length n with
  | none =>
    refine ⟨[], fun _ h => (nomatch h), fun t _ => ?_⟩
    rw [handOver_delivered hanswer, handOver_delivered hanswer]
    rfl
  | some f =>
    by_cases hs : Taken s.outbox (d.retryKey n.resource)
    · refine ⟨[], fun _ h => (nomatch h), fun t ht => ?_⟩
      rw [handOver_suppressed hanswer hs, handOver_suppressed hanswer ((ht n.resource).2 hs)]
      rfl
    · refine ⟨[d.retry now n.resource], fun r hr => ⟨_, List.mem_singleton.1 hr⟩, fun t ht => ?_⟩
      have hfree : ¬ Taken t.outbox (d.retryKey n.resource) := fun h => hs ((ht n.resource).1 h)
      rw [handOver_recorded hanswer hs, handOver_recorded hanswer hfree]
      rfl

/-- **The deliveries of a dossier** file the same retries wherever the same keys of the dossier are
taken. -/
theorem handOverAll_posting (transport : Transport) (now : Timestamp) (d : Dossier) (s : Store)
    (sent ns : List Notice) : ∃ rs : List Retry, (∀ r ∈ rs, ∃ resource,
      r = d.retry now resource) ∧ ∀ t : Store, (∀ resource,
        Taken t.outbox (d.retryKey resource) ↔ Taken s.outbox (d.retryKey resource)) →
      handOverAll transport now d t sent ns = ((handOverAll transport now d s sent ns).1,
        { t with outbox := fileRetries t.outbox rs }, sent ++ ns) := by
  induction ns generalizing s sent with
  | nil =>
    refine ⟨[], fun _ h => (nomatch h), fun t _ => ?_⟩
    rw [List.append_nil]
    rfl
  | cons n rest ih =>
    obtain ⟨first, hfirst, hone⟩ := handOver_posting transport now d s sent n
    have hs := congrArg Prod.snd (hone s fun _ => Iff.rfl)
    obtain ⟨rs, hrs, hrest⟩ :=
      ih { s with outbox := fileRetries s.outbox first } (sent ++ [n])
    refine ⟨first ++ rs, fun r hr => (List.mem_append.1 hr).elim (hfirst r) (hrs r),
      fun t ht => ?_⟩
    have hthen := hrest { t with outbox := fileRetries t.outbox first } fun resource => by
      rw [taken_fileRetries, taken_fileRetries, ht]
    simp only [handOverAll, hone t ht, hs, hthen, fileRetries_append, List.append_assoc,
      List.singleton_append]

theorem notices_congr
    (h : e.kind ≠ .completionUpdated → t.assessorOf d.attempt.id = s.assessorOf d.attempt.id) :
    t.notices now e d = s.notices now e d := by
  unfold notices
  cases hk : e.kind with
  | questionGraded | attemptUpdated =>
    rw [h (by rw [hk]; nofun)]
  | completionUpdated => rfl

/-! ## The event -/

theorem SameFor.gather_eq (h : s.SameFor who t) (e : Event) : t.gather e = s.gather e := by
  rw [h.sources]
  rfl

theorem SameFor.refusal?_eq (h : s.SameFor who t) (kind : Event.Kind) (d : Dossier) :
    t.refusal? kind d = s.refusal? kind d := by
  rw [h.sources]
  rfl

/-- **An event that is followed up** posts to every store in which its learner finds the same. -/
theorem followUp_posting (hw : who = some d.attempt.learnerId)
    (hl : d.learner.id = d.attempt.learnerId)
    (ha : e.kind ≠ .completionUpdated → s.attempt? d.attempt.id = .ok (some d.attempt))
    (h : (s.followUp transport o e d).result = .ok report) :
    ∃ p, s.Belongs who p ∧ ∀ t, s.SameFor who t → t.followUp transport o e d =
      ⟨.ok report, t.post p, (s.followUp transport o e d).sent⟩ := by
  obtain ⟨b, s₁, hb, hend⟩ := followUp_ok h
  obtain ⟨p, hretries, hp, hbooks⟩ := keepBooks_posting hw ha hb
  rcases hend with ⟨reason, hd, hend⟩ | ⟨ns, hd, hns, hend⟩
  · rw [hend] at h ⊢
    cases h
    refine ⟨p, hp, fun t ht => ?_⟩
    simp only [followUp, (hbooks t ht).1, hd]
  · rw [hend] at h ⊢
    cases h
    obtain ⟨rs, hrs, hdeliver⟩ := handOverAll_posting transport o.now d s₁ [] ns
    refine ⟨{ p with retries := rs },
      ⟨hp.reviews, hp.allowances, hp.fits, hp.asked, fun r hr => ?_⟩, fun t ht => ?_⟩
    · obtain ⟨resource, rfl⟩ := hrs r hr
      exact hw.trans (congrArg some hl.symm)
    · obtain ⟨htbooks, hreview⟩ := hbooks t ht
      have hoff : (t.post p).outbox = t.outbox := by
        rw [post, hretries]
        rfl
      have hnotices : (t.post p).notices o.now e d = .ok ns := by
        rw [← hns]
        refine notices_congr fun hk => ?_
        have husers : (t.post p).users = s₁.users := by
          rw [keepBooks_footprint hb, post, ht.sources]
        simp only [assessorOf, hreview hk, user?, husers]
      have hthen := hdeliver (t.post p) fun resource => by
        rw [hoff, keepBooks_footprint hb]
        exact ht.taken _ (hw.trans (congrArg some hl.symm))
      simp only [followUp, htbooks, hd, hnotices, hthen, hoff]
      rfl

theorem subject_of_ofJson (h : Event.ofJson raw now = .ok e) :
    Event.idAt raw "relateduserid" = some e.subject ∧
      (e.kind ≠ .completionUpdated → ∃ id, e.target = .attempt id) := by
  have hread := Event.readsOff_of_ofJson h
  refine ⟨Event.idAt_eq_some_iff.2 hread.subject, fun hk => ?_⟩
  have htarget := hread.target
  generalize e.kind = kind, e.target = target at htarget hk
  cases htarget with
  | graded | updated => exact ⟨_, rfl⟩
  | completed => exact absurd rfl hk

/-- **What one event posts.** An event that ends in a report posts rows of its subject, and ends in
the same report, with the same posted, wherever its subject finds the same. -/
theorem handle_posting (h : (s.handle transport role raw actor now).result = .ok report) :
    ∃ p, s.Belongs (Event.idAt raw "relateduserid") p ∧
      ∀ t, s.SameFor (Event.idAt raw "relateduserid") t →
        t.handle transport role raw actor now =
          ⟨.ok report, t.post p, (s.handle transport role raw actor now).sent⟩ := by
  have hskipped : ∀ report' : Report, (∀ t, s.SameFor (Event.idAt raw "relateduserid") t →
      t.handle transport role raw actor now = ⟨.ok report', t, []⟩) →
      ∃ p, s.Belongs (Event.idAt raw "relateduserid") p ∧
        ∀ t, s.SameFor (Event.idAt raw "relateduserid") t →
          t.handle transport role raw actor now =
            ⟨.ok report, t.post p, (s.handle transport role raw actor now).sent⟩ := by
    intro report' hall
    rw [hall s (.refl _ s)] at h ⊢
    cases h
    exact ⟨{}, belongs_nothing s _, fun t ht => by simp [hall t ht]⟩
  cases he : Event.ofJson raw now with
  | error reason => exact hskipped { skipped := some reason } fun t _ => by simp only [handle, he]
  | ok e =>
    obtain ⟨hsubject, htarget⟩ := subject_of_ofJson he
    cases hg : s.gather e with
    | error halt =>
      cases halt with
      | fault f => simp [handle, he, hg] at h
      | skip reason =>
        exact hskipped { kind := some e.kind, attemptId := e.namedAttempt?, skipped := some reason }
          fun t ht => by simp only [handle, he, ht.gather_eq, hg]
    | ok d =>
      cases hr : s.refusal? e.kind d with
      | some reason =>
        exact hskipped
          { kind := some e.kind, attemptId := some d.attempt.id, skipped := some reason }
          fun t ht => by simp only [handle, he, ht.gather_eq, hg, ht.refusal?_eq, hr]
      | none =>
        have hfollow : ∀ t, s.SameFor (Event.idAt raw "relateduserid") t →
            t.handle transport role raw actor now =
              t.followUp transport ⟨(actor.or e.actor).getD e.subject, now, role⟩ e d := by
          intro t ht
          simp only [handle, he, ht.gather_eq, hg, ht.refusal?_eq, hr]
        obtain ⟨hreports, howner, -, -, -⟩ := gather_eq_ok_iff.1 hg
        have hattempt : e.kind ≠ .completionUpdated →
            s.attempt? d.attempt.id = .ok (some d.attempt) := fun hk => by
          obtain ⟨id, hid⟩ := htarget hk
          rw [Reports, hid] at hreports
          rw [id_of_attempt? hreports, hreports]
        rw [hfollow s (.refl _ s)] at h ⊢
        obtain ⟨p, hp, hpost⟩ := followUp_posting (hsubject.trans (congrArg some howner.symm))
          ((gather_learner hg).trans howner.symm) hattempt h
        exact ⟨p, hp, fun t ht => (hfollow t ht).trans (hpost t ht)⟩

end Store

end GradeRelay
