import GradeRelay.Proofs.Lists
import GradeRelay.Proofs.Outbox
import GradeRelay.Proofs.Sample
import GradeRelay.Store.Foreign
/-!
# The outbox over time

Workers add retries to the outbox, and the consumer marks those as sent that it has repeated, in any
order. A `Ledger` keeps beside the table the retries that were added, in the order of the calls
that added them. The table never holds anything else, so what can be said of the ledger's entries
can be said of the rows.

* `Retry.hasKey_row_iff`, `read_row`: the row of a numbered retry has its key and reads back;
* `Ledger.Matches.next`: adding a retry and marking one as sent keep table and ledger alike;
* **`Ledger.pending_keys_distinct`**: from an empty outbox on, no two pending rows ever have one
  key, and each call does what its answer says.
-/

namespace GradeRelay

/-! ## Numbers given in turn -/

theorem freshId_concat {l : List Int} {m : Int} (hm : 0 ≤ m) :
    freshId (l ++ [m]) = max (freshId l) (m + 1) := by
  cases l with
  | nil =>
    show m + 1 = max 1 (m + 1)
    omega
  | cons n rest =>
    simp only [List.cons_append, freshId, List.foldl_append, List.foldl_cons, List.foldl_nil]
    omega

theorem freshId_range (n : Nat) :
    freshId ((List.range n).map fun i : Nat => (i : Int) + 1) = n + 1 := by
  induction n with
  | zero => rfl
  | succ n ih =>
    rw [List.range_succ, List.map_append, List.map_singleton, freshId_concat (by omega), ih]
    omega

/-! ## Rows of retries -/

/-- The row of a retry that has a number. -/
def Retry.row (r : Retry) : RetryRow := .ofRetry (r.id.getD 0) r

/-- The retry is still to be made. -/
def Retry.isPending (r : Retry) : Bool := r.status = .pending

@[simp]
theorem Retry.hasKey_row_iff {r : Retry} {k : Retry.Key} : r.row.HasKey k ↔ r.key = k := by
  constructor
  · rintro ⟨hl, hc, hn, ha, ht⟩
    cases k
    cases Resource.tag_injective ht
    cases hl
    cases hc
    cases hn
    cases ha
    rfl
  · rintro rfl
    exact RetryRow.hasKey_ofRetry _ r

@[simp]
theorem Retry.sameKey_row_iff {r r' : Retry} : r.row.sameKey r'.row = true ↔ r.key = r'.key := by
  rw [← hasKey_row_iff]
  simp only [RetryRow.sameKey, Bool.and_eq_true, decide_eq_true_eq, and_assoc]
  exact Iff.rfl

theorem Retry.read_row {r : Retry} (h : r.id.isSome = true) : r.row.read = .ok r := by
  obtain ⟨id, hid⟩ := Option.isSome_iff_exists.1 h
  rw [row, RetryRow.read_ofRetry, hid, Option.getD_some, ← hid]

theorem mapM_read_row {l : List Retry} (h : ∀ r ∈ l, r.id.isSome = true) :
    (l.map Retry.row).mapM RetryRow.read = .ok l := by
  induction l with
  | nil => rfl
  | cons r rest ih =>
    rw [List.map_cons, List.mapM_cons, Retry.read_row (h r List.mem_cons_self),
      ih fun r' hr' => h r' (List.mem_cons_of_mem _ hr')]
    rfl

theorem taken_map_row_iff {l : List Retry} {k : Retry.Key} :
    Taken (l.map Retry.row) k ↔ k ∈ (l.filter Retry.isPending).map Retry.key := by
  simp only [Taken, List.mem_map, List.mem_filter, Retry.isPending, decide_eq_true_eq]
  constructor
  · rintro ⟨_, ⟨r, hr, rfl⟩, hp, hk⟩
    exact ⟨r, ⟨hr, hp⟩, Retry.hasKey_row_iff.1 hk⟩
  · rintro ⟨r, ⟨hr, hp⟩, hk⟩
    exact ⟨r.row, ⟨r, hr, rfl⟩, hp, Retry.hasKey_row_iff.2 hk⟩

/-- The store's test for a repeated key finds one exactly where the pending keys repeat. -/
theorem repeatsKey_map_row_iff {l : List Retry} : Store.repeatsKey (l.map Retry.row) = false ↔
    ((l.filter Retry.isPending).map Retry.key).Nodup := by
  induction l with
  | nil => simp [Store.repeatsKey]
  | cons r rest ih =>
    have hany : ((rest.map Retry.row).any fun o => o.isPending && o.sameKey r.row) = true ↔
        r.key ∈ (rest.filter Retry.isPending).map Retry.key := by
      simp only [List.any_map, List.any_eq_true, Function.comp_apply, List.mem_map,
        List.mem_filter, Bool.and_eq_true, Retry.sameKey_row_iff, and_assoc]
      exact Iff.rfl
    rw [List.map_cons, Store.repeatsKey, Bool.or_eq_false_iff, ih]
    by_cases hp : r.isPending = true
    · have hp' : r.row.isPending = true := hp
      rw [List.filter_cons_of_pos hp, List.map_cons, List.nodup_cons, ← hany, hp',
        Bool.true_and, Bool.not_eq_true]
    · have hp' : r.row.isPending = false := Bool.eq_false_iff.2 hp
      rw [List.filter_cons_of_neg hp, hp', Bool.false_and]
      exact and_iff_right rfl

/-! ## The ledger -/

/-- What may happen to the outbox next: a call adds a retry, or the consumer marks the one under a
number as sent. -/
inductive OutboxAct where
  | add (r : Retry)
  | markSent (id : Int)

/-- The store, and the retries that were added, in the order of the calls that said so, numbered
from one on. Those that were marked stand as sent. -/
structure Ledger where
  store : Store
  entries : List Retry

/-- A retry once the one under a number is sent. -/
def Retry.sentUnder (id : Int) (r : Retry) : Retry :=
  if r.id = some id then { r with status := .sent } else r

namespace Ledger

/-- A ledger with nothing entered. -/
def start (s : Store) : Ledger := ⟨s, []⟩

/-- The ledger after one call of the store, with what the call is to do entered beside it. -/
def next (w : Ledger) : OutboxAct → Ledger
  | .add r =>
    match w.store.addRetry r with
    | (true, s) => ⟨s, w.entries ++ [{ r with id := some (w.entries.length + 1) }]⟩
    | (false, s) => ⟨s, w.entries⟩
  | .markSent id =>
    match w.store.putRetryStatus id Retry.Status.sent.code with
    | .ok (_, s) => ⟨s, w.entries.map (Retry.sentUnder id)⟩
    | .error _ => w

/-- The ledger after calls of the store, one after the other. -/
def run (w : Ledger) (acts : List OutboxAct) : Ledger := acts.foldl next w

/-- The entries that are still pending. -/
def pending (w : Ledger) : List Retry := w.entries.filter Retry.isPending

/-- The table holds the entries, which are numbered in turn, and no two pending ones have one
key. -/
structure Matches (w : Ledger) : Prop where
  rows : w.store.outbox = w.entries.map Retry.row
  numbered : w.entries.map (·.id) =
    (List.range w.entries.length).map fun i : Nat => some ((i : Int) + 1)
  distinct : (w.pending.map Retry.key).Nodup

variable {w : Ledger} {s : Store}

theorem Matches.isSome (h : w.Matches) {r : Retry} (hr : r ∈ w.entries) : r.id.isSome = true := by
  have hid : r.id ∈ w.entries.map (·.id) := List.mem_map_of_mem hr
  rw [h.numbered] at hid
  obtain ⟨i, -, hi⟩ := List.mem_map.1 hid
  rw [← hi]
  rfl

theorem Matches.freshId (h : w.Matches) :
    freshId (w.store.outbox.map (·.id)) = w.entries.length + 1 := by
  have hids : w.store.outbox.map (·.id) = w.entries.map fun r => r.id.getD 0 := by
    rw [h.rows, List.map_map]
    rfl
  have hnumbers : (w.entries.map fun r => r.id.getD 0) =
      (List.range w.entries.length).map fun i : Nat => (i : Int) + 1 := by
    have := congrArg (List.map fun id : Option Int => id.getD 0) h.numbered
    rwa [List.map_map, List.map_map] at this
  rw [hids, hnumbers, freshId_range]

theorem Matches.taken_iff (h : w.Matches) {k : Retry.Key} :
    Taken w.store.outbox k ↔ k ∈ w.pending.map Retry.key := by
  rw [h.rows, taken_map_row_iff, pending]

/-! ## Adding a retry -/

theorem Matches.addRetry_taken (h : w.Matches) {r : Retry}
    (hr : r.key ∈ w.pending.map Retry.key) : w.store.addRetry r = (false, w.store) := by
  rw [Store.addRetry, if_pos (Store.hasPendingKey_iff.2 (h.taken_iff.2 hr))]

theorem Matches.addRetry_free (h : w.Matches) {r : Retry}
    (hr : r.key ∉ w.pending.map Retry.key) :
    w.store.addRetry r = (true, { w.store with outbox := w.store.outbox ++
      [Retry.row { r with id := some (w.entries.length + 1) }] }) := by
  have hfree : ¬ w.store.hasPendingKey r = true := fun hp =>
    hr (h.taken_iff.1 (Store.hasPendingKey_iff.1 hp))
  rw [Store.addRetry, if_neg hfree, h.freshId]
  rfl

theorem Matches.concat (h : w.Matches) {r : Retry} (hr : r.key ∉ w.pending.map Retry.key) :
    Matches ⟨{ w.store with outbox := w.store.outbox ++
        [Retry.row { r with id := some (w.entries.length + 1) }] },
      w.entries ++ [{ r with id := some (w.entries.length + 1) }]⟩ where
  rows := by
    rw [h.rows, List.map_append]
    rfl
  numbered := by
    rw [List.map_append, h.numbered, List.length_append, List.length_singleton,
      List.range_succ, List.map_append]
    rfl
  distinct := by
    rw [pending, List.filter_append, nodup_map_append_iff]
    refine ⟨h.distinct, ?_, fun q hq r' hr' hsame => hr ?_⟩
    · exact List.Nodup.sublist (List.filter_sublist.map _) (by simp)
    · obtain rfl := List.mem_singleton.1 (List.mem_filter.1 hr').1
      exact List.mem_map.2 ⟨q, hq, hsame⟩

/-! ## Marking a retry as sent -/

theorem Matches.markSent_rows (h : w.Matches) (id : Int) :
    (w.store.outbox.map fun row =>
      if decide (row.id = id) = true then { row with status := .ofCode Retry.Status.sent.code }
      else row) = (w.entries.map (Retry.sentUnder id)).map Retry.row := by
  rw [h.rows, List.map_map, List.map_map]
  refine List.map_congr_left fun r hr => ?_
  obtain ⟨n, hn⟩ := Option.isSome_iff_exists.1 (h.isSome hr)
  by_cases hid : n = id
  · subst hid
    simp [Retry.row, Retry.sentUnder, RetryRow.ofRetry, hn]
  · simp [Retry.row, Retry.sentUnder, RetryRow.ofRetry, hn, hid]

/-- Marking a retry as sent takes keys from the pending ones and adds none. -/
theorem pending_sentUnder_sublist (l : List Retry) (id : Int) :
    (((l.map (Retry.sentUnder id)).filter Retry.isPending).map Retry.key).Sublist
      ((l.filter Retry.isPending).map Retry.key) := by
  induction l with
  | nil => exact .slnil
  | cons r rest ih =>
    rw [List.map_cons]
    by_cases hid : r.id = some id
    · have hsent : ¬ (r.sentUnder id).isPending = true := by
        simp [Retry.sentUnder, hid, Retry.isPending]
      rw [List.filter_cons_of_neg hsent]
      exact ih.trans (((List.sublist_cons_self r rest).filter _).map _)
    · have hsame : r.sentUnder id = r := by rw [Retry.sentUnder, if_neg hid]
      rw [hsame, List.filter_cons, List.filter_cons]
      split
      · exact ih.cons_cons _
      · exact ih

theorem Matches.putRetryStatus_sent (h : w.Matches) (id : Int) : ∃ n,
    w.store.putRetryStatus id Retry.Status.sent.code = .ok (n, { w.store with
      outbox := (w.entries.map (Retry.sentUnder id)).map Retry.row }) := by
  have hdistinct := h.distinct.sublist (pending_sentUnder_sublist w.entries id)
  refine ⟨w.store.outbox.countP fun row => row.id = id, ?_⟩
  unfold Store.putRetryStatus Store.putRetry Store.updateWhere
  dsimp only
  rw [h.markSent_rows id, repeatsKey_map_row_iff.2 hdistinct]
  rfl

theorem Matches.sentUnder (h : w.Matches) (id : Int) :
    Matches ⟨{ w.store with outbox := (w.entries.map (Retry.sentUnder id)).map Retry.row },
      w.entries.map (Retry.sentUnder id)⟩ where
  rows := rfl
  numbered := by
    have hids : (w.entries.map (Retry.sentUnder id)).map (·.id) = w.entries.map (·.id) := by
      rw [List.map_map]
      refine List.map_congr_left fun r _ => ?_
      by_cases hid : r.id = some id <;> simp [Retry.sentUnder, hid]
    rw [hids, h.numbered, List.length_map]
  distinct := h.distinct.sublist (pending_sentUnder_sublist w.entries id)

/-! ## Any number of acts -/

theorem matches_start (hs : s.outbox = []) : (start s).Matches where
  rows := hs
  numbered := rfl
  distinct := .nil

/-- **One act** keeps table and ledger alike. -/
theorem Matches.next (h : w.Matches) (act : OutboxAct) : (w.next act).Matches := by
  cases act with
  | add r =>
    by_cases hr : r.key ∈ w.pending.map Retry.key
    · simp only [Ledger.next, h.addRetry_taken hr]
      exact h
    · simp only [Ledger.next, h.addRetry_free hr]
      exact h.concat hr
  | markSent id =>
    obtain ⟨n, hput⟩ := h.putRetryStatus_sent id
    simp only [Ledger.next, hput]
    exact h.sentUnder id

theorem Matches.run (h : w.Matches) (acts : List OutboxAct) : (w.run acts).Matches := by
  induction acts generalizing w with
  | nil => exact h
  | cons act rest ih => exact ih (h.next act)

/-- What holds of an outbox at every moment. -/
structure Faithful (w : Ledger) : Prop where
  /-- The rows are the entries, in the order in which they were added. -/
  table : w.store.outbox.mapM RetryRow.read = .ok w.entries
  /-- No entry is there twice. -/
  numbered : w.entries.map (·.id) =
    (List.range w.entries.length).map fun i : Nat => some ((i : Int) + 1)
  /-- The pending ones, and no others, are listed. -/
  listed : w.store.pendingRetries = .ok w.pending
  distinct : (w.pending.map Retry.key).Nodup
  /-- A call under a free key appends a row with the fields of its retry. -/
  free (r : Retry) : r.key ∉ w.pending.map Retry.key → ∃ row,
    w.store.addRetry r = (true, { w.store with outbox := w.store.outbox ++ [row] }) ∧
      row.read = .ok { r with id := some (w.entries.length + 1) }
  /-- A call under a key that is taken changes nothing. -/
  taken (r : Retry) : r.key ∈ w.pending.map Retry.key → w.store.addRetry r = (false, w.store)
  /-- The consumer is never refused. -/
  consumed (id : Int) : ∃ n s', w.store.putRetryStatus id Retry.Status.sent.code = .ok (n, s')

theorem Matches.faithful (h : w.Matches) : w.Faithful where
  table := by
    rw [h.rows]
    exact mapM_read_row fun r hr => h.isSome hr
  numbered := h.numbered
  listed := by
    rw [Store.pendingRetries, h.rows, List.filter_map]
    exact mapM_read_row fun r hr => h.isSome (List.mem_filter.1 hr).1
  distinct := h.distinct
  free r hr := ⟨_, h.addRetry_free hr, Retry.read_row rfl⟩
  taken r hr := h.addRetry_taken hr
  consumed id := by
    obtain ⟨n, hput⟩ := h.putRetryStatus_sent id
    exact ⟨n, _, hput⟩

/-- **No two pending rows ever have one key**, in whatever order retries are added and marked as
sent, and each call does what its answer says. -/
theorem pending_keys_distinct (hs : s.outbox = []) (acts : List OutboxAct) :
    ((start s).run acts).Faithful :=
  ((matches_start hs).run acts).faithful

/-- What the failed report of an activity leaves. -/
def retry (learner : UserId) (status : Retry.Status) : Retry where
  id := none
  learnerId := learner
  learnerExternalId := "EXT-3"
  courseId := 9
  courseExternalId := "CRS-9"
  assessmentName := "Written Assessment"
  timeComplete := 1700000642
  attemptId := 42
  status := status
  timeAdded := 1700000700
  resource := .activities

/-- A key is taken, freed and taken again; in between a retry under it that is sent already, and
a mark for a number not yet given. -/
def reused : List OutboxAct :=
  [.markSent 2, .add (retry 3 .pending), .add (retry 3 .sent), .add (retry 3 .pending),
    .markSent 1, .add (retry 3 .sent), .add (retry 3 .pending), .add (retry 7 .pending)]

theorem pending_keys_distinct_reused :
    ((start Sample.people).run reused).Faithful ∧
      ((start Sample.people).run reused).entries =
        [{ retry 3 .sent with id := some 1 }, { retry 3 .sent with id := some 2 },
          { retry 3 .pending with id := some 3 }, { retry 7 .pending with id := some 4 }] :=
  ⟨pending_keys_distinct (s := Sample.people) rfl reused, by decide +kernel⟩

end Ledger

end GradeRelay
