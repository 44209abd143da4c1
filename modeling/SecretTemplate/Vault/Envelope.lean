import SecretTemplate.Json.Decode
import SecretTemplate.Secret.Resolve

/-!
# Envelopes

The bodies in which a server sends secrets and refusals. A version 1 engine puts the record under
`data`. A version 2 engine puts it under `data.data`, and what it knows about the version of the
secret under `data.metadata`. A refusal lists its reasons under `errors`.

A missing or null record means that there is no secret, on either level.

Results:
1. `secret_eq_none_iff`: when an envelope of version 2 holds no secret.
-/

namespace SecretTemplate

open JsonTree

/-- What a version 2 engine knows about a version of a secret. -/
structure Metadata where
  version : Option Nat := none
  deletionTime : Option String := none
  destroyed : Bool := false

structure Versioned where
  record : Option Record := none
  metadata : Option Metadata := none

structure VersionedEnvelope where
  data : Option Versioned := none

namespace JsonTree

/-- A record: an object with any members. -/
def record? (depth : Nat) : JsonTree → Option Record
  | object members => do
    let inner ← enter? depth
    return ⟨← memberValues? inner [] members⟩
  | _ => none

def metadata? (depth : Nat) (t : JsonTree) : Option Metadata := do
  let _ ← enter? depth
  let fields ← fields? ["version", "deletion_time", "destroyed"] t
  return {
    version := ← field? fields "version" none (optional? word?)
    deletionTime := ← field? fields "deletion_time" none (optional? string?)
    destroyed := ← field? fields "destroyed" false bool? }

def versioned? (depth : Nat) (t : JsonTree) : Option Versioned := do
  let inner ← enter? depth
  let fields ← fields? ["data", "metadata"] t
  return {
    record := ← field? fields "data" none (optional? (record? inner))
    metadata := ← field? fields "metadata" none (optional? (metadata? inner)) }

/-- The body of a version 1 engine: its record. -/
def plainEnvelope? (t : JsonTree) : Option (Option Record) := do
  let inner ← enter? maxDepth
  let fields ← fields? ["data"] t
  field? fields "data" none (optional? (record? inner))

/-- The body of a version 2 engine. -/
def versionedEnvelope? (t : JsonTree) : Option VersionedEnvelope := do
  let inner ← enter? maxDepth
  let fields ← fields? ["data"] t
  return ⟨← field? fields "data" none (optional? (versioned? inner))⟩

def refusal? (t : JsonTree) : Option (List String) := do
  let fields ← fields? ["errors"] t
  field? fields "errors" [] strings?

end JsonTree

namespace VersionedEnvelope

def secret (e : VersionedEnvelope) : Option Record :=
  e.data.bind Versioned.record

def metadata (e : VersionedEnvelope) : Option Metadata :=
  e.data.bind Versioned.metadata

def version (e : VersionedEnvelope) : Option Nat :=
  e.metadata.bind Metadata.version

/-- Whether the version in an envelope is marked as deleted or destroyed. -/
def isDeleted (e : VersionedEnvelope) : Bool :=
  match e.metadata with
  | none => false
  | some m => m.destroyed || m.deletionTime.any (· ≠ "")

/-- When an envelope of version 2 holds no secret. -/
theorem secret_eq_none_iff {e : VersionedEnvelope} :
    e.secret = none ↔ ∀ v, e.data = some v → v.record = none := by
  cases h : e.data <;> simp [secret, h]

end VersionedEnvelope

namespace Envelope

/-- The secret in the body of an engine's answer; `none` if the body is no envelope. -/
def secret? (engine : Engine) (body : List UInt8) : Option (Option Record) :=
  (JsonTree.parse? body).bind fun t =>
    match engine with
    | .v1 => t.plainEnvelope?
    | .v2 => t.versionedEnvelope?.map VersionedEnvelope.secret

/-- The reasons in the body of a refusal; `none` if the body lists no reasons. -/
def reasons? (body : List UInt8) : Option (List String) :=
  (JsonTree.parse? body).bind JsonTree.refusal?

end Envelope

end SecretTemplate
