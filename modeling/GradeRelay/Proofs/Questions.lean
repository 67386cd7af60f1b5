import GradeRelay.Proofs.Redelivery.Retries
import Mathlib.Logic.Relation
/-!
# Questions under their keys

A question is found by its number, and no two share one. That is so in every store that the program
leaves behind: a question is refused where its number is in use, and nothing else that is written
touches the questions.

* `handle_questions`: an event leaves the questions as they are;
* `Keyed.evolves`: each write keeps the numbers apart;
* **`keyed_of_run`**: so they are apart after any run.
-/

namespace GradeRelay.Store

variable {s s' : Store}

/-- No two questions have one number, as the table's primary key has it. -/
def Keyed (s : Store) : Prop := (s.questions.map (·.id)).Nodup

theorem Keyed.eq (hk : s.Keyed) {q r : Question} (hq : q ∈ s.questions) (hr : r ∈ s.questions)
    (h : q.id = r.id) : q = r :=
  List.inj_on_of_nodup_map hk hq hr h

/-- What becomes of a store: a question is added, an event is handled, or something is written that
is no question. -/
inductive Evolves (s : Store) : Store → Prop where
  | question {q : Question} {s' : Store} : s.addQuestion q = .ok s' → Evolves s s'
  | event (transport : Transport) (role : Int) (raw : Json) (actor : Option UserId)
      (now : Timestamp) : Evolves s (s.handle transport role raw actor now).store
  | elsewhere {s' : Store} : s'.questions = s.questions → Evolves s s'

theorem addQuestion_keyed {q : Question} (hk : s.Keyed) (h : s.addQuestion q = .ok s') :
    s'.Keyed := by
  unfold addQuestion at h
  split at h
  · cases h
  · next hfree =>
    cases h
    simp only [List.any_eq_true, decide_eq_true_eq, not_exists, not_and] at hfree
    exact nodup_map_concat_iff.2 ⟨hk, hfree⟩

theorem handle_questions (s : Store) (transport : Transport) (role : Int) (raw : Json)
    (actor : Option UserId) (now : Timestamp) :
    (s.handle transport role raw actor now).store.questions = s.questions := by
  rcases handle_cases s transport role raw actor now with ⟨result, hend, -⟩ | ⟨e, d, -, -, -, hf⟩
  · rw [hend]
  · obtain ⟨outbox, hs, -⟩ :=
      followUp_store s transport ⟨(actor.or e.actor).getD e.subject, now, role⟩ e d
    rw [hf, hs, keepBooks_tables]

/-- **Each write** keeps the numbers apart. -/
theorem Keyed.evolves (hk : s.Keyed) (h : s.Evolves s') : s'.Keyed := by
  cases h with
  | question h => exact addQuestion_keyed hk h
  | event transport role raw actor now =>
    rw [Keyed, handle_questions]
    exact hk
  | elsewhere hsame =>
    rw [Keyed, hsame]
    exact hk

/-- **After any run** from an empty store each question has a number of its own. -/
theorem keyed_of_run (h : Relation.ReflTransGen Evolves {} s) : s.Keyed := by
  induction h with
  | refl => exact List.nodup_nil
  | tail _ hstep ih => exact ih.evolves hstep

end GradeRelay.Store
