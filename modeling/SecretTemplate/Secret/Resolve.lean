import SecretTemplate.Dialogue
import SecretTemplate.Secret.Record
import SecretTemplate.Text.Search

/-!
# Resolving references

A reference is resolved by reading the secret it names and formatting it. The read is a question to
a store: which engine, which mount, which path below the mount. A store answers with the secret,
with the absence of one, or with a failure of its own. Everything that can be decided without the
store is decided before it is asked, and it is asked at most once.

Results:
1. `location_eq_ok_iff`: which references name a place in a store.
2. `fetch_of_location`: a reference that names a place asks what is there.
3. `run_fetch`: at most one question, and how its answer decides the outcome.
-/

namespace SecretTemplate

inductive Engine where
  | v1
  | v2
  deriving DecidableEq, Repr

/-- A question to a store: what is at this place? -/
structure Read where
  engine : Engine
  mount : String
  path : String
  deriving DecidableEq, Repr

/-- What a store answers: a secret, none, or a failure. -/
abbrev Answer := Except Error (Option Record)

/-- A store, or any other source of secrets. -/
abbrev Reader := Read → Answer

abbrev Lookup (α : Type) := ExceptT Error (Dialogue Read fun _ => Answer) α

namespace Lookup

/-- Asks the store, and fails as the store fails. -/
def read (q : Read) : Lookup (Option Record) :=
  ExceptT.mk (Dialogue.question q)

/-- The outcome and the reads made against a source of secrets. -/
def against {α : Type} (reader : Reader) (l : Lookup α) : Except Error α × List Read :=
  Dialogue.run reader (ExceptT.run l)

end Lookup

/-- What is left of a path behind its mount and a slash. -/
def belowMount? (mount path : List Char) : Option (List Char) :=
  (Text.after? mount path).bind (Text.after? ['/'])

/-- The mount and the path below it. The mount is the first segment of the path, and the second must
not be empty. -/
def splitMount (path : String) : Except Error (String × String) :=
  let segments := path.toList.splitOn '/'
  let mount := segments.headD []
  match segments[1]? with
  | some (_ :: _) =>
    .ok (String.ofList mount, String.ofList ((belowMount? mount path.toList).getD []))
  | _ => .error (.missingSubpath (String.ofList mount))

namespace Reference

def location (r : Reference) : Except Error Read := do
  let (mount, path) ← splitMount r.path
  match r.version with
  | .v1 => return ⟨.v1, mount, path⟩
  | .v2 => return ⟨.v2, mount, path⟩
  | .other tag => throw (.unknownVersion r.render tag)

def read (r : Reference) : Lookup (Option Record) := do
  Lookup.read (← liftExcept r.location)
where
  /-- A failure that is known without asking. -/
  liftExcept {α : Type} (e : Except Error α) : Lookup α := ExceptT.mk (pure e)

def fetch (r : Reference) : Lookup String := do
  match ← r.read with
  | none => throw .nilSecret
  | some secret => read.liftExcept (r.format secret)

def resolve (raw : String) : Lookup String := do
  (← read.liftExcept (parse raw)).fetch

/-- Which references name a place in a store. -/
theorem location_eq_ok_iff {r : Reference} {q : Read} :
    r.location = .ok q ↔
      splitMount r.path = .ok (q.mount, q.path) ∧
        (r.version = .v1 ∧ q.engine = .v1 ∨ r.version = .v2 ∧ q.engine = .v2) := by
  obtain ⟨e, m, p⟩ := q
  cases hs : splitMount r.path with
  | error cause => simp [location, hs, bind, Except.bind]
  | ok pair =>
    obtain ⟨m', p'⟩ := pair
    cases hv : r.version <;>
      simp [location, hs, hv, bind, Except.bind, pure, Except.pure, throw, throwThe,
        MonadExceptOf.throw] <;> grind

/-- A reference that names no place asks nothing. -/
theorem fetch_of_location_error {r : Reference} {cause : Error} (h : r.location = .error cause) :
    r.fetch.run = Dialogue.done (.error cause) := by
  simp only [fetch, read, h]
  rfl

/-- A reference that names a place asks what is there. -/
theorem fetch_of_location {r : Reference} {q : Read} (h : r.location = .ok q) :
    r.fetch.run =
      Dialogue.ask q fun
        | .error cause => .done (.error cause)
        | .ok none => .done (.error .nilSecret)
        | .ok (some secret) => .done (r.format secret) := by
  simp only [fetch, read, h]
  refine congrArg (Dialogue.ask q) (funext fun answer => ?_)
  rcases answer with cause | _ | secret <;> rfl

/-- At most one question, and how its answer decides the outcome. -/
theorem run_fetch (reader : Reader) (r : Reference) :
    r.fetch.against reader =
      match r.location with
      | .error cause => (.error cause, [])
      | .ok q =>
        match reader q with
        | .error cause => (.error cause, [q])
        | .ok none => (.error .nilSecret, [q])
        | .ok (some secret) => (r.format secret, [q]) := by
  cases hl : r.location with
  | error cause =>
    rw [Lookup.against, fetch_of_location_error hl]
    rfl
  | ok q =>
    rw [Lookup.against, fetch_of_location hl]
    rcases ha : reader q with cause | _ | secret <;> simp [Dialogue.run, ha]

end Reference

end SecretTemplate
