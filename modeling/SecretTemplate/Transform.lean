import SecretTemplate.Error
import SecretTemplate.Text.Blank
import SecretTemplate.Text.Case

/-!
# Transformations

The named steps that turn a stored value into the text a template shows. Steps are applied from
left to right, each to the output of the one before, and the first failure ends the chain.

Results:
1. `ofName?_name`: a transformation is found under its own name.
2. `applyAll_cons`, `applyAll_append`: a chain is applied step by step.
-/

namespace SecretTemplate

open Text

inductive Transformation where
  /-- All letters in upper case. -/
  | upper
  /-- All letters in lower case. -/
  | lower
  /-- No blank characters at either end. -/
  | trim
  /-- The text's bytes in base64. -/
  | base64
  /-- The text that base64 spells. -/
  | base64Decode
  deriving DecidableEq, Repr

namespace Transformation

/-- All transformations, in the order of their registration. -/
def all : List Transformation := [upper, lower, trim, base64, base64Decode]

/-- The name under which a reference asks for a transformation. -/
def name : Transformation → String
  | upper => "upper"
  | lower => "lower"
  | trim => "trim"
  | base64 => "base64"
  | base64Decode => "base64d"

def ofName? (s : String) : Option Transformation :=
  all.find? (·.name = s)

/-- The transformation of that name, or the complaint that there is none. -/
def ofName (s : String) : Except Error Transformation :=
  match ofName? s with
  | some t => .ok t
  | none => .error (.unknownTransformation s)

def toBase64 (s : String) : String :=
  String.ofList ((Base64.encode (Utf8.encodeString s)).map fun b => Char.ofNat b.toNat)

def fromBase64 (s : String) : Except Error String :=
  match Base64.decode (Utf8.encodeString s) with
  | .error cause => .error (.decode cause)
  | .ok bytes =>
    match Utf8.decodeString bytes with
    | .error cause => .error (.invalidUtf8 bytes cause)
    | .ok text => .ok text

def apply : Transformation → String → Except Error String
  | upper, s => .ok (upperString s)
  | lower, s => .ok (lowerString s)
  | trim, s => .ok (trimString s)
  | base64, s => .ok (toBase64 s)
  | base64Decode, s => fromBase64 s

def applyNamed (name s : String) : Except Error String := do
  (← ofName name).apply s

/-- The outcome of a chain of named transformations. -/
def applyAll (names : List String) (s : String) : Except Error String :=
  names.foldlM (fun value name => applyNamed name value) s

/-- A transformation is found under its own name. -/
@[simp] theorem ofName?_name (t : Transformation) : ofName? t.name = some t := by
  cases t <;> decide

theorem applyAll_cons (name : String) (names : List String) (s : String) :
    applyAll (name :: names) s = (applyNamed name s).bind (applyAll names) := rfl

/-- A chain is applied step by step. -/
theorem applyAll_append (xs ys : List String) (s : String) :
    applyAll (xs ++ ys) s = (applyAll xs s).bind (applyAll ys) := by
  simp only [applyAll, List.foldlM_append]
  rfl

end Transformation

end SecretTemplate
