import SecretTemplate.Dialogue

/-!
# Courses of a dialogue

A course of a dialogue is one way it can go: answers to its questions, in order, and the result that
they lead to. The answers are free. Two questions that are alike may get different answers, as they
do from a world that changes.

Results:
1. `course_run`: what answers the questions decides on a course.
2. `course_bind_iff`: a course goes on where the first part of the dialogue ends.
3. `course_through_iff`: a dialogue held in other questions has a course for each answer.
4. `eq_of_course`: answers that tell the same lead to the same questions and result.
5. `run_eq_of_respects`: only the answers to the questions asked count.
-/

namespace SecretTemplate

/-- The questions of a dialogue and their answers, in order. -/
abbrev Log (Q : Type) (A : Q → Type) := List ((q : Q) × A q)

namespace Dialogue

variable {Q : Type} {A : Q → Type} {α β : Type}

/-- One way that a dialogue can go. -/
inductive Course : Dialogue Q A α → Log Q A → α → Prop where
  | done (a : α) : Course (.done a) [] a
  | ask {q : Q} {next : A q → Dialogue Q A α} {log : Log Q A} {a : α} (x : A q) :
      Course (next x) log a → Course (.ask q next) (⟨q, x⟩ :: log) a

/-- What answers the questions decides on a course. -/
theorem course_run (answer : (q : Q) → A q) (d : Dialogue Q A α) :
    Course d ((d.asked answer).map fun q => ⟨q, answer q⟩) (d.result answer) := by
  induction d with
  | done a => exact .done a
  | ask q next ih => exact .ask (answer q) (ih (answer q))

theorem course_done_iff {a b : α} {log : Log Q A} :
    Course (.done a) log b ↔ log = [] ∧ b = a := by
  constructor
  · intro h
    cases h
    exact ⟨rfl, rfl⟩
  · rintro ⟨rfl, rfl⟩
    exact .done _

theorem course_ask_iff {q : Q} {next : A q → Dialogue Q A α} {log : Log Q A} {a : α} :
    Course (.ask q next) log a ↔ ∃ x rest, log = ⟨q, x⟩ :: rest ∧ Course (next x) rest a := by
  constructor
  · intro h
    cases h with
    | ask x rest => exact ⟨x, _, rfl, rest⟩
  · rintro ⟨x, rest, rfl, h⟩
    exact .ask x h

/-- A course goes on where the first part of the dialogue ends. -/
theorem course_bind_iff {d : Dialogue Q A α} {f : α → Dialogue Q A β} {log : Log Q A} {b : β} :
    Course (d.bind f) log b ↔
      ∃ a front back, log = front ++ back ∧ Course d front a ∧ Course (f a) back b := by
  induction d generalizing log with
  | done a =>
    simp only [bind, course_done_iff]
    constructor
    · intro h
      exact ⟨a, [], log, rfl, ⟨rfl, rfl⟩, h⟩
    · rintro ⟨_, _, back, rfl, ⟨rfl, rfl⟩, h⟩
      exact h
  | ask q next ih =>
    simp only [bind, course_ask_iff, ih]
    constructor
    · rintro ⟨x, _, rfl, a, front, back, rfl, first, later⟩
      exact ⟨a, _, back, rfl, ⟨x, front, rfl, first⟩, later⟩
    · rintro ⟨a, _, back, rfl, ⟨x, front, rfl, first⟩, later⟩
      exact ⟨x, _, rfl, a, front, back, rfl, first, later⟩

section Through

variable {P : Type} {B : P → Type}

/-- A question with its answer, and the course of the dialogue that found the answer. -/
structure Turn (A : Q → Type) (B : P → Type) where
  question : Q
  answer : A question
  log : Log P B

/-- A dialogue held in other questions has a course for each answer. -/
theorem course_through_iff {f : (q : Q) → Dialogue P B (A q)} {d : Dialogue Q A α} {log : Log P B}
    {a : α} :
    Course (d.through f) log a ↔
      ∃ turns : List (Turn A B), Course d (turns.map fun t => ⟨t.question, t.answer⟩) a ∧
        log = turns.flatMap Turn.log ∧ ∀ t ∈ turns, Course (f t.question) t.log t.answer := by
  induction d generalizing log with
  | done b =>
    simp only [through, course_done_iff]
    constructor
    · rintro ⟨rfl, rfl⟩
      exact ⟨[], ⟨rfl, rfl⟩, rfl, by simp⟩
    · rintro ⟨turns, ⟨none, rfl⟩, rfl, -⟩
      rw [List.map_eq_nil_iff.1 none]
      exact ⟨rfl, rfl⟩
  | ask q next ih =>
    simp only [through, course_bind_iff, ih]
    constructor
    · rintro ⟨x, front, _, rfl, first, turns, later, rfl, each⟩
      exact ⟨⟨q, x, front⟩ :: turns, .ask x later, rfl, List.forall_mem_cons.2 ⟨first, each⟩⟩
    · rintro ⟨turns, course, rfl, each⟩
      obtain ⟨x, rest, hturns, later⟩ := course_ask_iff.1 course
      obtain ⟨t, turns, rfl, ht, rfl⟩ := List.map_eq_cons_iff.1 hturns
      obtain ⟨p, y, front⟩ := t
      obtain ⟨rfl, same⟩ := Sigma.mk.inj ht
      obtain rfl := eq_of_heq same
      rw [List.forall_mem_cons] at each
      exact ⟨y, front, _, rfl, each.1, turns, later, rfl, each.2⟩

end Through

/-! ## Answers that tell the same -/

/-- Whether a dialogue goes on alike after answers that `R` relates. -/
inductive Respects (R : (q : Q) → A q → A q → Prop) : Dialogue Q A α → Prop where
  | done (a : α) : Respects R (.done a)
  | ask {q : Q} {next : A q → Dialogue Q A α} (same : ∀ x y, R q x y → next x = next y)
      (later : ∀ x, Respects R (next x)) : Respects R (.ask q next)

variable {R : (q : Q) → A q → A q → Prop}

theorem Respects.bind {d : Dialogue Q A α} {f : α → Dialogue Q A β} (hd : Respects R d)
    (hf : ∀ a, Respects R (f a)) : Respects R (d.bind f) := by
  induction hd with
  | done a => exact hf a
  | ask same _ ih => exact .ask (fun x y h => congrArg (Dialogue.bind · f) (same x y h)) ih

/-- A course whose answers tell the same as `answer` has the questions and the result that `answer`
leads to. -/
theorem eq_of_course {answer : (q : Q) → A q} {d : Dialogue Q A α} (respects : Respects R d)
    {log : Log Q A} {a : α} (course : Course d log a)
    (agree : ∀ e ∈ log, e.1 ∈ d.asked answer → R e.1 e.2 (answer e.1)) :
    a = d.result answer ∧ log.map Sigma.fst = d.asked answer := by
  induction respects generalizing log with
  | done b =>
    obtain ⟨rfl, rfl⟩ := course_done_iff.1 course
    exact ⟨rfl, rfl⟩
  | @ask q next same _ ih =>
    obtain ⟨x, rest, rfl, onward⟩ := course_ask_iff.1 course
    rw [List.forall_mem_cons] at agree
    -- The first answer tells the same, so the rest of the course is one of what `answer` leads to.
    have asked : (Dialogue.ask q next).asked answer = q :: (next (answer q)).asked answer := rfl
    rw [asked] at agree ⊢
    have first : next x = next (answer q) := same _ _ (agree.1 List.mem_cons_self)
    rw [first] at onward
    obtain ⟨result, questions⟩ :=
      ih (answer q) onward fun e he h => agree.2 e he (List.mem_cons_of_mem _ h)
    exact ⟨result, by rw [List.map_cons, questions]⟩

/-- Answers that tell the same as those to the questions asked lead to the same questions and
result. Nothing need be known about the answers to other questions. -/
theorem run_eq_of_respects {answer other : (q : Q) → A q} {d : Dialogue Q A α}
    (respects : Respects R d) (same : ∀ q ∈ d.asked answer, R q (other q) (answer q)) :
    d.run other = d.run answer := by
  have agree : ∀ e ∈ (d.asked other).map fun q => (⟨q, other q⟩ : (q : Q) × A q),
      e.1 ∈ d.asked answer → R e.1 e.2 (answer e.1) := by
    intro e he asked
    obtain ⟨q, -, rfl⟩ := List.mem_map.1 he
    exact same q asked
  obtain ⟨result, questions⟩ := eq_of_course respects (course_run other d) agree
  rw [List.map_map] at questions
  exact Prod.ext result ((List.map_id _).symm.trans questions)

end Dialogue

end SecretTemplate
