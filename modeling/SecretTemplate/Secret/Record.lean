import SecretTemplate.Json.Value
import SecretTemplate.Reference
import SecretTemplate.Transform

/-!
# Secrets

A secret is a record: named fields with JSON values. `Reference.format` picks the field that a
reference names, which must hold a string, and applies the transformations that it lists.

Results:
1. `Reference.format_of_notString`: a field that is absent or no string cannot be formatted.
-/

namespace SecretTemplate

structure Record where
  fields : List (String × Json) := []
  deriving Repr

namespace Record

def get? (r : Record) (field : String) : Option Json :=
  r.fields.lookup field

def insert (r : Record) (field : String) (value : Json) : Record :=
  ⟨Members.insert field value r.fields⟩

/-- The record of members in order; the last of a name counts. -/
def ofMembers (members : List (String × Json)) : Record :=
  members.foldl (fun r (k, v) => r.insert k v) {}

end Record

namespace Reference

/-- The names of all transformations, the decoding that `b64` asks for among them. -/
def steps (r : Reference) : List String :=
  if r.b64 then Transformation.base64Decode.name :: r.transformations else r.transformations

/-- The text that a reference makes of a secret. -/
def format (r : Reference) (secret : Record) : Except Error String :=
  match (secret.get? r.field).bind Json.string? with
  | none => .error (.fieldNotString r.field)
  | some raw => Transformation.applyAll r.steps raw

/-- A field that is absent or no string cannot be formatted. -/
theorem format_of_notString {r : Reference} {secret : Record}
    (absent : (secret.get? r.field).bind Json.string? = none) :
    r.format secret = .error (.fieldNotString r.field) := by
  simp [format, absent]

end Reference

end SecretTemplate
