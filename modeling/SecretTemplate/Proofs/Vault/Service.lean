import Mathlib.Data.List.Infix
import SecretTemplate.Proofs.Dialogue.Course
import SecretTemplate.Proofs.Template.Agreement
import SecretTemplate.Vault.Client

/-!
# Servers that serve a source of secrets

A client holds its reads in conversations with a server, one after the other. A server serves a
source of secrets when the client makes of each conversation what the source answers to the read.
Then all that is computed from reads through the client comes out as it does from the source, and
the client asks for what is read from the source, in order.

Results:
1. `asks_nil_iff`: without reads nothing is asked.
2. `result_of_serves`: what comes out through a client.
-/

namespace SecretTemplate

open Dialogue (Course Respects course_through_iff eq_of_course)
open Http

namespace Client

variable {c : Client} {reader : Reader} {reads : List Read} {log : Log Wire Wire.Answer}

/-- The log holds a conversation for each of the reads, in order, and nothing else. -/
def Asks (c : Client) (reads : List Read) (log : Log Wire Wire.Answer) : Prop :=
  ∃ turns : List (Dialogue.Turn (fun _ : Read => Answer) Wire.Answer),
    turns.map Dialogue.Turn.question = reads ∧ turns.flatMap Dialogue.Turn.log = log ∧
      ∀ t ∈ turns, Course (c.read t.question) t.log t.answer

/-- The client makes of every conversation for one of the reads what `reader` answers. -/
def Serves (c : Client) (reader : Reader) (reads : List Read) (log : Log Wire Wire.Answer) :
    Prop :=
  ∀ q ∈ reads, ∀ part answer, part <:+: log → Course (c.read q) part answer →
    Agree answer (reader q)

/-- Without reads nothing is asked. -/
theorem asks_nil_iff : c.Asks [] log ↔ log = [] := by
  constructor
  · rintro ⟨turns, none, rfl, -⟩
    rw [List.map_eq_nil_iff.1 none]
    rfl
  · rintro rfl
    exact ⟨[], rfl, rfl, List.forall_mem_nil _⟩

/-- What is computed from reads through a client of a server that serves a source of secrets comes
out as it does from the source, and the client asks for what is read from the source. -/
theorem result_of_serves {α : Type} {l : Dialogue Read (fun _ => Answer) α}
    (respects : Respects (fun _ => Agree) l) (serves : c.Serves reader (l.asked reader) log)
    {a : α} (course : Course (l.through c.read) log a) :
    a = l.result reader ∧ c.Asks (l.asked reader) log := by
  obtain ⟨turns, held, rfl, each⟩ := course_through_iff.1 course
  have agree : ∀ e ∈ turns.map (fun t => (⟨t.question, t.answer⟩ : (_ : Read) × Answer)),
      e.1 ∈ l.asked reader → Agree e.2 (reader e.1) := by
    intro e he asked
    obtain ⟨t, ht, rfl⟩ := List.mem_map.1 he
    have inside : t.log <:+: turns.flatMap Dialogue.Turn.log := by
      rw [List.flatMap_def]
      exact List.infix_of_mem_flatten (List.mem_map_of_mem ht)
    exact serves t.question asked t.log t.answer inside (each t ht)
  obtain ⟨result, questions⟩ := eq_of_course respects held agree
  rw [List.map_map] at questions
  exact ⟨result, turns, questions, rfl, each⟩

end Client

end SecretTemplate
