import GradeRelay.Proofs.Learners.Postings
import GradeRelay.Proofs.Sample
/-!
# Events about different learners

Different learners share the tables that their rows are in, and nothing else. What an event posts
for one of them does not show to another, so two events about different learners end in the same
reports in either order, and leave the same rows: only their order and their numbers tell which
event came first.

* `Asks.id_ne`, `Owns.apart`: different learners have different questions and attempts;
* **`Belongs.sameFor`**: what is posted for one learner does not show to another;
* `SameButOrder`, **`post_comm`**: two postings in either order;
* **`strangers_commute`**: two events in either order.
-/

namespace GradeRelay

/-- An event as it comes in: what the platform announces, what the transport answers to its
deliveries, who is given as the actor, and when it is. -/
structure Announcement where
  raw : Json
  transport : Transport
  actor : Option UserId
  now : Timestamp

/-- The learner that an event is about, if it names one. -/
def Announcement.subject? (x : Announcement) : Option UserId := Event.idAt x.raw "relateduserid"

/-- The two are not one learner. -/
def Strangers (who who' : Option UserId) : Prop := ∀ u, who = some u → who' ≠ some u

theorem Strangers.symm {who who' : Option UserId} (h : Strangers who who') : Strangers who' who :=
  fun u hu hu' => h u hu' hu

namespace Store

variable {s t t' : Store} {who who' : Option UserId} {p p' : Posting} {q q' : Question}
  {attemptId : AttemptId} {role : Int} {x y : Announcement} {report report' : Report}

/-- Handles an announcement. -/
def receive (s : Store) (role : Int) (x : Announcement) : Handled :=
  s.handle x.transport role x.raw x.actor x.now

/-! ## What learners have for themselves -/

/-- No two attempts of different learners use the same questions. -/
def UsagesApart (s : Store) : Prop :=
  ∀ r ∈ s.attempts, ∀ r' ∈ s.attempts, r.usageId = r'.usageId → r.learnerId = r'.learnerId

/-- **Different learners** are put different questions. -/
theorem Asks.id_ne (hk : s.Keyed) (hu : s.UsagesApart) (hd : Strangers who who')
    (hq : s.Asks who q) (hq' : s.Asks who' q') : q.id ≠ q'.id := by
  intro hid
  obtain ⟨hm, r, hr, hru, hw⟩ := hq
  obtain ⟨hm', r', hr', hru', hw'⟩ := hq'
  obtain rfl := hk.eq hm hm' hid
  have hlearner := hu r hr r' hr' (hru.trans hru'.symm)
  exact hd _ hw (hw'.trans (congrArg some hlearner.symm))

theorem Owns.apart (hd : Strangers who who') (h : s.Owns who attemptId) :
    ¬ s.Owns who' attemptId := by
  rintro ⟨a', ha', hw'⟩
  obtain ⟨a, ha, hw⟩ := h
  rw [ha] at ha'
  cases ha'
  exact hd _ hw hw'

theorem Belongs.carried_apart (hk : s.Keyed) (hu : s.UsagesApart) (hd : Strangers who who')
    (hp : s.Belongs who p) (hq : s.Asks who' q) :
    ∀ c ∈ p.carried, c.questionAttemptId ≠ q.id := by
  intro c hc
  obtain ⟨q', hq', hid⟩ := hp.asked c hc
  exact hid ▸ hq'.id_ne hk hu hd hq

/-- **What is posted for one learner** does not show to another. -/
theorem Belongs.sameFor (hk : s.Keyed) (hu : s.UsagesApart) (hn : s.NotesPlaced)
    (hd : Strangers who who') (hp : s.Belongs who p) : s.SameFor who' (s.post p) := by
  refine ⟨rfl, fun id hid => ?_, fun u hu id => ?_, fun q hq => ?_, fun k hk => ?_⟩
  · have hnone : ∀ row : ReviewRow, decide (row.attemptId = id) = true →
        ¬ s.Owns who row.attemptId := fun row hrow hown =>
      (hown.apart hd) (of_decide_eq_true hrow ▸ hid)
    simp only [review?, post, Edit.find?_apply hp.reviews hnone]
  · have hnone : ∀ al : Allowance, al.isFor id u = true → ¬ who = some al.learnerId := by
      intro al hal hw
      cases Allowance.isFor_iff.1 hal
      exact hd _ hw hu
    exact Edit.find?_apply hp.allowances hnone s.allowances
  · exact stepsOf_enter_of_ne hn hp.fits (hp.carried_apart hk hu hd hq)
  · rw [post, taken_fileRetries, or_iff_left]
    rintro ⟨r, hr, -, rfl⟩
    exact hd _ (hp.retries r hr) hk

/-! ## Two postings -/

/-- Two stores that went on from one in different orders: the same source rows, and in each table
that is written to the same rows as before, then the same new ones but for order and numbers. So
there is the same review of each attempt, the same allowance of each learner, and the same steps
and notes on each question. -/
structure SameButOrder (s t t' : Store) : Prop where
  sources : t' = { t with queue := t'.queue, allowances := t'.allowances, steps := t'.steps,
                          notes := t'.notes, outbox := t'.outbox }
  queue : Rearranged s.queue.length id t.queue t'.queue
  reviews : ∀ id, t'.review? id = t.review? id
  allowances : Rearranged s.allowances.length id t.allowances t'.allowances
  permitted : ∀ assessmentId u, t'.allowance? assessmentId u = t.allowance? assessmentId u
  placed : t.NotesPlaced ∧ t'.NotesPlaced
  noted : Rearranged s.steps.length NotedStep.unnumbered t.noted t'.noted
  steps : ∀ id, (t'.stepsOf id).map NotedStep.unnumbered = (t.stepsOf id).map NotedStep.unnumbered
  outbox : Rearranged s.outbox.length RetryRow.unnumbered t.outbox t'.outbox

theorem NotesPlaced.post (hn : s.NotesPlaced) (p : Posting) : (s.post p).NotesPlaced :=
  hn.enter p.carried

theorem noted_post_post (hn : s.NotesPlaced) (p p' : Posting) : ∃ added,
    ((s.post p).post p').noted = s.noted ++ added ∧
      added.map NotedStep.unnumbered = (p.carried ++ p'.carried).map (CarriedStep.noted 0) := by
  obtain ⟨added, hadded, hrows⟩ := noted_enter hn p.carried
  obtain ⟨added', hadded', hrows'⟩ := noted_enter (hn.post p) p'.carried
  refine ⟨added ++ added', ?_, by rw [List.map_append, hrows, hrows', List.map_append]⟩
  calc ((s.post p).post p').noted
      = (s.enter p.carried).noted ++ added' := hadded'
    _ = s.noted ++ (added ++ added') := by rw [hadded, List.append_assoc]

theorem Fits.post (hf : s.Fits p'.carried) (hc : ∀ c ∈ p.carried, ∀ c' ∈ p'.carried,
    c.questionAttemptId ≠ c'.questionAttemptId) : (s.post p).Fits p'.carried := by
  refine ⟨hf.accepted, hf.once, fun c' hc' st hst hid => ?_⟩
  rcases mem_steps_enter hst with hold | ⟨c, hmem, hcid⟩
  · exact hf.above c' hc' st hold hid
  · exact absurd (hcid.trans hid) (hc c hmem c' hc')

theorem stepsOf_post_post (hn : s.NotesPlaced) (hf : s.Fits p.carried) (hf' : s.Fits p'.carried)
    (hc : ∀ c ∈ p.carried, ∀ c' ∈ p'.carried, c.questionAttemptId ≠ c'.questionAttemptId)
    (id : QuestionAttemptId) : (((s.post p).post p').stepsOf id).map NotedStep.unnumbered =
      (s.stepsOf id).map NotedStep.unnumbered ++
        ((p.carried ++ p'.carried).filter fun c => c.questionAttemptId = id).map
          (CarriedStep.noted 0) := by
  obtain ⟨new, hnew, hrows⟩ := stepsOf_enter hn hf id
  obtain ⟨new', hnew', hrows'⟩ := stepsOf_enter (hn.post p) (hf'.post hc) id
  have hboth : ((s.post p).post p').stepsOf id = s.stepsOf id ++ new ++ new' := by
    rw [← hnew]
    exact hnew'
  rw [hboth, List.append_assoc, List.map_append, List.map_append, hrows, hrows', List.filter_append,
    List.map_append]

section Comm

variable (hk : s.Keyed) (hu : s.UsagesApart) (hn : s.NotesPlaced) (hd : Strangers who who')
  (hp : s.Belongs who p) (hp' : s.Belongs who' p')

include hd hp hp'

theorem review?_comm (id : AttemptId) :
    ((s.post p').post p).review? id = ((s.post p).post p').review? id := by
  have hside : (∀ row : ReviewRow, decide (row.attemptId = id) = true →
      ¬ s.Owns who row.attemptId) ∨ ∀ row : ReviewRow, decide (row.attemptId = id) = true →
        ¬ s.Owns who' row.attemptId := by
    by_cases hid : s.Owns who id
    · exact .inr fun row hrow => of_decide_eq_true hrow ▸ hid.apart hd
    · exact .inl fun row hrow => of_decide_eq_true hrow ▸ hid
  simp only [review?, post, Edit.find?_comm hp.reviews hp'.reviews (fun _ h => h.apart hd) hside]

theorem allowance?_comm (assessmentId : AssessmentId) (u : UserId) :
    ((s.post p').post p).allowance? assessmentId u =
      ((s.post p).post p').allowance? assessmentId u := by
  have hside : (∀ al : Allowance, al.isFor assessmentId u = true → ¬ who = some al.learnerId) ∨
      ∀ al : Allowance, al.isFor assessmentId u = true → ¬ who' = some al.learnerId := by
    by_cases hid : who = some u
    · refine .inr fun al hal => ?_
      cases Allowance.isFor_iff.1 hal
      exact hd _ hid
    · refine .inl fun al hal => ?_
      cases Allowance.isFor_iff.1 hal
      exact hid
  exact Edit.find?_comm hp.allowances hp'.allowances (fun _ h => hd _ h) hside s.allowances

include hk hu

theorem Belongs.carried_ne :
    ∀ c ∈ p.carried, ∀ c' ∈ p'.carried, c.questionAttemptId ≠ c'.questionAttemptId := by
  intro c hc c' hc'
  obtain ⟨q, hq, hid⟩ := hp'.asked c' hc'
  exact hid ▸ hp.carried_apart hk hu hd hq c hc

include hn

theorem stepsOf_comm (id : QuestionAttemptId) :
    (((s.post p').post p).stepsOf id).map NotedStep.unnumbered =
      (((s.post p).post p').stepsOf id).map NotedStep.unnumbered := by
  have hne := hp.carried_ne hk hu hd hp'
  -- at most one of the two posts to the question
  have hfilter : (p'.carried ++ p.carried).filter (fun c => c.questionAttemptId = id) =
      (p.carried ++ p'.carried).filter fun c => c.questionAttemptId = id := by
    rw [List.filter_append, List.filter_append]
    by_cases hmem : ∃ c ∈ p.carried, c.questionAttemptId = id
    · obtain ⟨c, hc, rfl⟩ := hmem
      have hnone : p'.carried.filter (fun c' => c'.questionAttemptId = c.questionAttemptId) = [] :=
        List.filter_eq_nil_iff.2 fun c' hc' hid => hne c hc c' hc' (of_decide_eq_true hid).symm
      rw [hnone, List.append_nil, List.nil_append]
    · have hnone : p.carried.filter (fun c => c.questionAttemptId = id) = [] :=
        List.filter_eq_nil_iff.2 fun c hc hid => hmem ⟨c, hc, of_decide_eq_true hid⟩
      rw [hnone, List.append_nil, List.nil_append]
  rw [stepsOf_post_post hn hp.fits hp'.fits hne,
    stepsOf_post_post hn hp'.fits hp.fits fun c' hc' c hc => (hne c hc c' hc').symm, hfilter]

/-- **Two postings for different learners** may be made in either order. -/
theorem post_comm : s.SameButOrder ((s.post p).post p') ((s.post p').post p) where
  sources := rfl
  queue := Edit.rearranged hp.reviews hp'.reviews (fun _ h => h.apart hd) s.queue
  reviews := review?_comm hd hp hp'
  allowances := Edit.rearranged hp.allowances hp'.allowances (fun _ h => hd _ h) s.allowances
  permitted := allowance?_comm hd hp hp'
  placed := ⟨(hn.post p).post p', (hn.post p').post p⟩
  noted := by
    obtain ⟨added, hadded, hrows⟩ := noted_post_post hn p p'
    obtain ⟨added', hadded', hrows'⟩ := noted_post_post hn p' p
    refine ⟨s.noted, added, added', List.length_map _, hadded, hadded', ?_⟩
    rw [hrows, hrows']
    exact List.perm_append_comm.map _
  steps := stepsOf_comm hk hu hn hd hp hp'
  outbox := by
    obtain ⟨added, hadded, hrows⟩ := fileRetries_eq s.outbox (p.retries ++ p'.retries)
    obtain ⟨added', hadded', hrows'⟩ := fileRetries_eq s.outbox (p'.retries ++ p.retries)
    rw [fileRetries_append] at hadded hadded'
    refine ⟨s.outbox, added, added', rfl, hadded, hadded', ?_⟩
    rw [hrows, hrows']
    exact List.perm_append_comm.map _

end Comm

/-! ## Two events -/

/-- **Events about different learners** commute: if they end in reports in one order, they end in
the same reports in the other order, with the same notices, and the stores in the end are the same
but for the order and the numbers of the new rows. -/
theorem strangers_commute (hk : s.Keyed) (hu : s.UsagesApart) (hn : s.NotesPlaced)
    (hd : Strangers x.subject? y.subject?) (hx : (s.receive role x).result = .ok report)
    (hy : ((s.receive role x).store.receive role y).result = .ok report') :
    (s.receive role y).result = .ok report' ∧
      ((s.receive role y).store.receive role x).result = .ok report ∧
      (s.receive role y).sent = ((s.receive role x).store.receive role y).sent ∧
      ((s.receive role y).store.receive role x).sent = (s.receive role x).sent ∧
      s.SameButOrder ((s.receive role x).store.receive role y).store
        ((s.receive role y).store.receive role x).store := by
  obtain ⟨p, hp, hpost⟩ := handle_posting hx
  have hsx : s.receive role x = ⟨.ok report, s.post p, (s.receive role x).sent⟩ :=
    hpost s (.refl _ s)
  have hstore : (s.receive role x).store = s.post p := by rw [hsx]
  rw [hstore] at hy ⊢
  have hunseen : s.SameFor y.subject? (s.post p) := hp.sameFor hk hu hn hd
  -- the second event finds the same without the first, so it ends in the same report
  obtain ⟨_, -, hback⟩ := handle_posting hy
  have hyfirst : (s.receive role y).result = .ok report' :=
    congrArg Handled.result (hback s hunseen.symm)
  obtain ⟨p', hp', hpost'⟩ := handle_posting hyfirst
  have hsy : s.receive role y = ⟨.ok report', s.post p', (s.receive role y).sent⟩ :=
    hpost' s (.refl _ s)
  have hxy : (s.post p).receive role y =
      ⟨.ok report', (s.post p).post p', (s.receive role y).sent⟩ := hpost' _ hunseen
  have hyx : (s.post p').receive role x =
      ⟨.ok report, (s.post p').post p, (s.receive role x).sent⟩ :=
    hpost _ (hp'.sameFor hk hu hn hd.symm)
  have hstore' : (s.receive role y).store = s.post p' := by rw [hsy]
  rw [hstore', hxy, hyx]
  exact ⟨hyfirst, rfl, rfl, rfl, post_comm hk hu hn hd hp hp'⟩

/-- A resit of one learner that takes over a grade, and an attempt of another learner that a grader
has decided about. -/
def twoLearners : Store :=
  { handedIn with
    users := Sample.user 4 "neighbour" :: handedIn.users
    attempts := { AttemptRow.ofAttempt (Sample.attempt 43 1 (some 6)) with learnerId := 4 } ::
      handedIn.attempts
    questions := Sample.question 431 430 7 1 :: handedIn.questions
    steps := Sample.step 4301 431 1 .rejected 1700099960 :: handedIn.steps }

/-- The learner hands the resit in. -/
def handsIn : Announcement where
  raw := Sample.submission 42 3
  transport := fun _ _ => some .timeout
  actor := none
  now := 1700100000

/-- The attempt of the other learner changes. -/
def neighbourUpdated : Announcement where
  raw := .object [("eventname", .string "\\mod_quiz\\event\\attempt_updated"), ("userid", .int 4),
    ("relateduserid", .int 4), ("courseid", .int 9), ("objectid", .int 43),
    ("contextid", .int 501), ("timecreated", .int 1700000000)]
  transport := fun _ _ => some .timeout
  actor := some 7
  now := 1700100060

theorem strangers_commute_twoLearners :
    ∃ report report', report.carried = 1 ∧ report'.queue = some (.start (some 7) none) ∧
      (twoLearners.receive Sample.graderRole neighbourUpdated).result = .ok report' ∧
      ((twoLearners.receive Sample.graderRole neighbourUpdated).store.receive Sample.graderRole
        handsIn).result = .ok report ∧
      twoLearners.SameButOrder
        ((twoLearners.receive Sample.graderRole handsIn).store.receive Sample.graderRole
          neighbourUpdated).store
        ((twoLearners.receive Sample.graderRole neighbourUpdated).store.receive Sample.graderRole
          handsIn).store := by
  have hreports : ((twoLearners.receive Sample.graderRole handsIn).result.toOption.bind
      fun report => ((twoLearners.receive Sample.graderRole handsIn).store.receive
        Sample.graderRole neighbourUpdated).result.toOption.map
          fun report' => (report.carried, report'.queue)) =
      some (1, some (.start (some 7) none)) := by decide +kernel
  obtain ⟨report, hx, hrest⟩ := Option.bind_eq_some_iff.1 hreports
  obtain ⟨report', hy, hrest⟩ := Option.map_eq_some_iff.1 hrest
  obtain ⟨hcarried, hqueue⟩ := Prod.mk.inj hrest
  have hkeyed : twoLearners.Keyed := by unfold Keyed; decide
  have husages : twoLearners.UsagesApart := by unfold UsagesApart; decide
  have hplaced : twoLearners.NotesPlaced := by unfold NotesPlaced; decide
  have hstrangers : Strangers handsIn.subject? neighbourUpdated.subject? := by
    intro u hu hu'
    cases hu
    cases hu'
  obtain ⟨hy', hx', -, -, hsame⟩ := strangers_commute hkeyed husages hplaced hstrangers
    (Except.ok_of_toOption hx) (Except.ok_of_toOption hy)
  exact ⟨report, report', hcarried, hqueue, hy', hx', hsame⟩

end Store

end GradeRelay
