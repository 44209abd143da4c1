/-!
# Dialogues

A computation that asks questions and goes on with the answers: `Dialogue Q A α` asks questions of
type `Q`, expects an answer of type `A q` to the question `q`, and ends with an `α`. What answers
the questions is chosen by who runs it: a table in memory, a server, the machine. Since a dialogue
is data, one can say which questions it asks, and in which order.

Results:
1. `run_bind`, `run_bind_of_run`: what follows is run on the outcome, and its questions come after.
-/

namespace SecretTemplate

/-- A computation that ends with a result or asks a question and goes on with the answer. -/
inductive Dialogue (Q : Type) (A : Q → Type) (α : Type) where
  /-- The end, with a result. -/
  | done (result : α)
  /-- A question, and what to do with its answer. -/
  | ask (question : Q) (next : A question → Dialogue Q A α)

namespace Dialogue

variable {Q : Type} {A : Q → Type} {α β : Type}

/-- The dialogue that goes on with `f` where `d` ends. -/
def bind (d : Dialogue Q A α) (f : α → Dialogue Q A β) : Dialogue Q A β :=
  match d with
  | done a => f a
  | ask q next => ask q fun answer => (next answer).bind f

instance : Monad (Dialogue Q A) where
  pure := done
  bind := bind

def question (q : Q) : Dialogue Q A (A q) :=
  ask q done

/-- The result and the questions asked, in order, when `answer` answers them. -/
def run (answer : (q : Q) → A q) : Dialogue Q A α → α × List Q
  | done a => (a, [])
  | ask q next =>
    let (a, asked) := run answer (next (answer q))
    (a, q :: asked)

def result (answer : (q : Q) → A q) (d : Dialogue Q A α) : α :=
  (d.run answer).1

def asked (answer : (q : Q) → A q) (d : Dialogue Q A α) : List Q :=
  (d.run answer).2

/-- The dialogue held in other questions: `f` finds the answer to each question. -/
def through {P : Type} {B : P → Type} (f : (q : Q) → Dialogue P B (A q)) :
    Dialogue Q A α → Dialogue P B α
  | done a => done a
  | ask q next => (f q).bind fun answer => (next answer).through f

/-- The dialogue held in a monad, whose effects answer the questions. -/
def runM {m : Type → Type} [Monad m] (answer : (q : Q) → m (A q)) : Dialogue Q A α → m α
  | done a => pure a
  | ask q next => do runM answer (next (← answer q))

theorem bind_done (d : Dialogue Q A α) : d.bind done = d := by
  induction d with
  | done => rfl
  | ask q next ih => exact congrArg (ask q) (funext ih)

theorem bind_assoc {γ : Type} (d : Dialogue Q A α) (f : α → Dialogue Q A β)
    (g : β → Dialogue Q A γ) : (d.bind f).bind g = d.bind fun a => (f a).bind g := by
  induction d with
  | done => rfl
  | ask q next ih => exact congrArg (ask q) (funext ih)

instance : LawfulMonad (Dialogue Q A) :=
  LawfulMonad.mk'
    _
    (fun d => bind_done d)
    (fun _ _ => rfl)
    bind_assoc

/-- What follows is run on the outcome, and its questions come after. -/
theorem run_bind (answer : (q : Q) → A q) (d : Dialogue Q A α) (f : α → Dialogue Q A β) :
    (d >>= f).run answer =
      (((f (d.result answer)).result answer),
        d.asked answer ++ (f (d.result answer)).asked answer) := by
  change (d.bind f).run answer = _
  induction d with
  | done => rfl
  | ask q next ih => simp [bind, run, ih, result, asked]

/-- The same where the outcome and the questions of the first part are known. -/
theorem run_bind_of_run {answer : (q : Q) → A q} {d : Dialogue Q A α} {a : α} {first : List Q}
    (h : d.run answer = (a, first)) (f : α → Dialogue Q A β) :
    (d >>= f).run answer = ((f a).result answer, first ++ (f a).asked answer) := by
  have hr : d.result answer = a := congrArg Prod.fst h
  have ha : d.asked answer = first := congrArg Prod.snd h
  rw [run_bind, hr, ha]

/-- The same where nothing is asked after the first part. -/
theorem run_bind_of_done {answer : (q : Q) → A q} {d : Dialogue Q A α} {a : α} {b : β}
    {first : List Q} (h : d.run answer = (a, first)) {f : α → Dialogue Q A β}
    (last : f a = done b) : (d >>= f).run answer = (b, first) := by
  rw [run_bind_of_run h, last]
  exact Prod.ext rfl (List.append_nil first)

end Dialogue

end SecretTemplate
