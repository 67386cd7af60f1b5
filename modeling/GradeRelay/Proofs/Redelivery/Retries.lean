import GradeRelay.Proofs.Footprint
import GradeRelay.Proofs.Lists
import GradeRelay.Proofs.Outbox
/-!
# Retries of one dossier

Every retry that the deliveries of a dossier leave stands under a key that was free, and there is
one such key for each resource.

* `handOver_delivered`, `handOver_suppressed`, `handOver_recorded`: the ways a delivery can go;
* `handOverAll_kept`, `followUp_store`: what the deliveries of an event leave in the outbox;
* **`Kept.distinct`**: the retries of one dossier go to different resources.
-/

namespace GradeRelay

/-- An outbox to which retries of one dossier were added, each under a key that was free. -/
inductive Kept (d : Dossier) (outbox : List RetryRow) : List RetryRow → Prop where
  | nothing : Kept d outbox outbox
  | more {later : List RetryRow} {row : RetryRow} {resource : Resource} : Kept d outbox later →
    ¬ Taken later (d.retryKey resource) → row.status = .pending →
      row.HasKey (d.retryKey resource) → Kept d outbox (later ++ [row])

section Kept

variable {d : Dossier} {outbox later latest : List RetryRow}

theorem Kept.trans (h : Kept d outbox later) (h' : Kept d later latest) :
    Kept d outbox latest := by
  induction h' with
  | nothing => exact h
  | more _ hf hp hk ih => exact .more ih hf hp hk

/-- **The retries of one dossier** go to different resources. -/
theorem Kept.distinct (h : Kept d outbox later) : ∃ added, later = outbox ++ added ∧
    (∀ row ∈ added, row.status = .pending ∧ ∃ resource, row.HasKey (d.retryKey resource)) ∧
      (added.map (·.resourceTag)).Nodup := by
  induction h with
  | nothing => exact ⟨[], by rw [List.append_nil], fun _ h => (nomatch h), .nil⟩
  | @more later row resource _ hf hp hk ih =>
    obtain ⟨added, rfl, hadded, hnodup⟩ := ih
    refine ⟨added ++ [row], by rw [List.append_assoc], fun r hr => ?_, ?_⟩
    · rcases List.mem_append.1 hr with hr | hr
      · exact hadded r hr
      · obtain rfl := List.mem_singleton.1 hr
        exact ⟨hp, resource, hk⟩
    · refine nodup_map_concat_iff.2 ⟨hnodup, fun r hr hsame => hf ?_⟩
      -- an earlier row to the same resource would stand under the same key
      obtain ⟨hrp, resource', hrk⟩ := hadded r hr
      have htag : resource' = resource := Resource.tag_injective
        (hrk.2.2.2.2.symm.trans (hsame.trans hk.2.2.2.2))
      exact taken_append.2 (.inr ⟨r, hr, hrp, htag ▸ hrk⟩)

end Kept

namespace Store

section HandOver

variable {s : Store} {transport : Transport} {now : Timestamp} {d : Dossier} {sent : List Notice}
  {n : Notice} {f : DeliveryFailure}

theorem handOver_delivered (h : transport sent.length n = none) :
    s.handOver transport now d sent n = (⟨n.resource, .delivered⟩, s, sent ++ [n]) := by
  simp only [handOver, Transport.give, h]

theorem handOver_suppressed (h : transport sent.length n = some f)
    (ht : Taken s.outbox (d.retryKey n.resource)) :
    s.handOver transport now d sent n =
      (⟨n.resource, .failed f.message .duplicateSuppressed⟩, s, sent ++ [n]) := by
  simp only [handOver, Transport.give, h, @keepRetry_taken s (d.retry now n.resource) ht]

theorem handOver_recorded (h : transport sent.length n = some f)
    (hf : ¬ Taken s.outbox (d.retryKey n.resource)) :
    s.handOver transport now d sent n = (⟨n.resource, .failed f.message .recorded⟩,
      { s with outbox := s.outbox ++
          [.ofRetry (freshId (s.outbox.map (·.id))) (d.retry now n.resource)] },
      sent ++ [n]) := by
  simp only [handOver, Transport.give, h, @keepRetry_free s (d.retry now n.resource) hf]

end HandOver

theorem handOver_kept (transport : Transport) (now : Timestamp) (d : Dossier) (s : Store)
    (sent : List Notice) (n : Notice) : ∃ outbox,
    (s.handOver transport now d sent n).2.1 = { s with outbox := outbox } ∧
      Kept d s.outbox outbox := by
  cases hf : transport sent.length n with
  | none =>
    rw [handOver_delivered hf]
    exact ⟨s.outbox, rfl, .nothing⟩
  | some f =>
    by_cases ht : Taken s.outbox (d.retryKey n.resource)
    · rw [handOver_suppressed hf ht]
      exact ⟨s.outbox, rfl, .nothing⟩
    · rw [handOver_recorded hf ht]
      exact ⟨_, rfl, .more .nothing ht rfl (RetryRow.hasKey_ofRetry _ _)⟩

theorem handOverAll_kept (transport : Transport) (now : Timestamp) (d : Dossier) (s : Store)
    (sent ns : List Notice) : ∃ outbox,
    (handOverAll transport now d s sent ns).2.1 = { s with outbox := outbox } ∧
      Kept d s.outbox outbox := by
  induction ns generalizing s sent with
  | nil => exact ⟨s.outbox, rfl, .nothing⟩
  | cons n rest ih =>
    obtain ⟨outbox, hs, hkept⟩ := handOver_kept transport now d s sent n
    obtain ⟨outbox', hs', hkept'⟩ := ih (s.handOver transport now d sent n).2.1
      (s.handOver transport now d sent n).2.2
    refine ⟨outbox', ?_, hkept.trans ?_⟩
    · simp only [handOverAll]
      rw [hs', hs]
    · rw [hs] at hkept'
      exact hkept'

/-- **After the books** only retries of the dossier are kept, however following up ends. -/
theorem followUp_store (s : Store) (transport : Transport) (o : Occasion) (e : Event)
    (d : Dossier) : ∃ outbox,
      (s.followUp transport o e d).store = { (s.keepBooks o e.kind d).2 with outbox := outbox } ∧
        Kept d (s.keepBooks o e.kind d).2.outbox outbox := by
  rcases followUp_cases s transport o e d with ⟨result, hend, -⟩ | ⟨report, ns, -, hend⟩
  · exact ⟨_, by rw [hend], .nothing⟩
  · obtain ⟨outbox, hs, hkept⟩ :=
      handOverAll_kept transport o.now d (s.keepBooks o e.kind d).2 [] ns
    exact ⟨outbox, by rw [hend, hs], hkept⟩

end Store

end GradeRelay
