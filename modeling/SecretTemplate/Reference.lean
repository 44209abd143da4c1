import SecretTemplate.Error
import SecretTemplate.Text.Blank

/-!
# Secret references

A reference names one field of one secret and says how to turn its value into text. It is written
as comma-separated options `key=value`, in any order and with blanks around keys and values:

| key         | meaning                                                       |
|-------------|---------------------------------------------------------------|
| `path`      | where the secret is; the first segment is the mount (required) |
| `field`     | the field of the secret (required)                            |
| `b64`       | whether the value is base64 that is decoded first             |
| `ver`       | the version of the engine (`v2` if not given)                 |
| `transform` | names of transformations, separated by vertical bars          |

Other keys are ignored, and the last option of a key counts. `Reference.render` writes a reference
in its canonical form, `Reference.parse` reads any form.

Results:
1. `Version.ofTag_tag`: a known version is read back from its tag.
2. `Setting.parse_of_noEquals`: an option without an equals sign is refused.
-/

namespace SecretTemplate

open Text

inductive Version where
  /-- Secrets without history. -/
  | v1
  /-- Secrets with a history of versions. -/
  | v2
  /-- Any other tag, which is refused when the secret is read. -/
  | other (tag : String)
  deriving DecidableEq, Repr

namespace Version

def tag : Version → String
  | v1 => "v1"
  | v2 => "v2"
  | other t => t

def ofTag (t : String) : Version :=
  if t = "v1" then v1 else if t = "v2" then v2 else other t

/-- A known version is read back from its tag. -/
theorem ofTag_tag {v : Version} (known : v = v1 ∨ v = v2) : ofTag v.tag = v := by
  rcases known with rfl | rfl <;> decide

end Version

/-- A field of a secret, and how its value becomes text. -/
structure Reference where
  /-- Where the secret is, with the mount as its first segment. -/
  path : String
  /-- The field of the secret. -/
  field : String
  /-- Whether the value is base64 that is decoded before the transformations. -/
  b64 : Bool := false
  /-- The version of the engine. -/
  version : Version := .v2
  /-- The names of the transformations, in the order in which they are applied. -/
  transformations : List String := []
  deriving DecidableEq, Repr

/-- What one option of a reference says. -/
inductive Setting where
  | path (value : String)
  | field (value : String)
  | b64 (value : Bool)
  | version (value : Version)
  | transformations (names : List String)
  /-- An option of another key, which says nothing. -/
  | ignored
  deriving DecidableEq, Repr

namespace Setting

def bool? (s : String) : Option Bool :=
  if s ∈ ["", "0", "f", "F", "false", "FALSE", "False"] then some false
  else if s ∈ ["1", "t", "T", "true", "TRUE", "True"] then some true
  else none

/-- The names in a list whose separator is the vertical bar. -/
def names (s : List Char) : List String :=
  if s.isEmpty then [] else (s.splitOn '|').map fun name => String.ofList (trim name)

/-- The setting of a key and a value, both without blanks at their ends. -/
def ofPair (key value : List Char) : Except Error Setting :=
  let text := String.ofList value
  match String.ofList key with
  | "path" => .ok (path text)
  | "field" => .ok (field text)
  | "b64" =>
    match bool? text with
    | some b => .ok (b64 b)
    | none => .error (.invalidOption "b64" text)
  | "ver" => .ok (version (Version.ofTag text))
  | "transform" => .ok (transformations (names value))
  | _ => .ok ignored

/-- The setting that an option of the reference `raw` says. -/
def parse (raw option : List Char) : Except Error Setting :=
  match option.dropWhile (· != '=') with
  | [] => .error (.malformedOption (String.ofList raw) (String.ofList option))
  | _ :: value => ofPair (trim (option.takeWhile (· != '='))) (trim value)

def apply (r : Reference) : Setting → Reference
  | path value => { r with path := value }
  | field value => { r with field := value }
  | b64 value => { r with b64 := value }
  | version value => { r with version := value }
  | transformations names => { r with transformations := names }
  | ignored => r

/-- An option without an equals sign is refused. -/
theorem parse_of_noEquals {raw option : List Char} (absent : '=' ∉ option) :
    parse raw option =
      .error (.malformedOption (String.ofList raw) (String.ofList option)) := by
  have : option.dropWhile (· != '=') = [] := by
    induction option with
    | nil => rfl
    | cons c s ih =>
      simp only [List.mem_cons, not_or] at absent
      simp [Ne.symm absent.1, ih absent.2]
  simp [parse, this]

end Setting

namespace Reference

def parse (raw : String) : Except Error Reference := do
  let cs := raw.toList
  let settings ← (cs.splitOn ',').mapM (Setting.parse cs)
  let r := settings.foldl Setting.apply { path := "", field := "" }
  if r.path = "" then throw .emptyPath
  if r.field = "" then throw .emptyField
  return r

/-- The canonical form of a reference. -/
def render (r : Reference) : String :=
  "path=" ++ r.path ++ ",field=" ++ r.field ++ ",b64=" ++ (if r.b64 then "true" else "false") ++
    ",ver=" ++ r.version.tag ++
    (if r.transformations.isEmpty then ""
     else ",transform=" ++ "|".intercalate r.transformations)

end Reference

end SecretTemplate
