import SecretTemplate.Json.Number
import SecretTemplate.Json.Tree
import SecretTemplate.Json.Value
import SecretTemplate.Text.Utf8

/-!
# Reading JSON trees

What a tree denotes. A string must be a text: its bytes are UTF-8 and its escapes denote
characters. A number must be a finite double. Containers may be nested to a limited depth: `depth`
is the number of levels that may still be entered.

A structure with named fields is written as an object, where unknown members are skipped and a
known one may stand once, or as an array with the fields by position, where the last ones may be
missing.

Results:
1. `enter?_eq_some_iff`: when one more level may be entered.
-/

namespace SecretTemplate.JsonTree

open Text

def hexNumber (digits : List UInt8) : Nat :=
  (natOfDigits? 16 (digits.map JsonToken.charOf)).getD 0

/-- The byte that a backslash and one character denote. -/
def escaped (b : UInt8) : UInt8 :=
  match JsonToken.charOf b with
  | 'b' => 0x08
  | 'f' => 0x0C
  | 'n' => 0x0A
  | 'r' => 0x0D
  | 't' => 0x09
  | _ => b

/-- The character of a surrogate pair whose first half is `high`, where `rest` holds the escape of
the second half. -/
def pair? (high : Nat) (rest : List UInt8) : Option Char :=
  let low := hexNumber ((rest.drop 2).take 4)
  if rest.take 2 = [0x5C, 0x75] ∧ 0xDC00 ≤ low ∧ low < 0xE000 then
    some (Char.ofNat (0x10000 + (high - 0xD800) * 0x400 + (low - 0xDC00)))
  else none

/-- The bytes that an escape denotes, and how many bytes it takes behind its backslash. The first
half of a surrogate pair must be followed by a second half, which may not stand alone. -/
def escape? : List UInt8 → Option (List UInt8 × Nat)
  | [] => none
  | b :: rest =>
    if JsonToken.charOf b ≠ 'u' then some ([escaped b], 1)
    else
      let n := hexNumber (rest.take 4)
      if n < 0xD800 ∨ 0xE000 ≤ n then some (Utf8.encodeChar (Char.ofNat n), 5)
      else if n < 0xDC00 then
        (pair? n (rest.drop 4)).map fun c => (Utf8.encodeChar c, 11)
      else none

/-- The bytes that the content of a string denotes behind the next `used` bytes, which belong to an
escape. -/
def unescapeFrom : (used : Nat) → List UInt8 → Option (List UInt8)
  | _, [] => some []
  | used + 1, _ :: rest => unescapeFrom used rest
  | 0, b :: rest =>
    if b = 0x5C then
      match escape? rest with
      | none => none
      | some (bytes, used) => (unescapeFrom used rest).map (bytes ++ ·)
    else (unescapeFrom 0 rest).map (b :: ·)

def unescape (content : List UInt8) : Option (List UInt8) :=
  unescapeFrom 0 content

def text? (content : List UInt8) : Option String :=
  (unescape content).bind fun bytes => (Utf8.decodeString bytes).toOption

/-- How many levels of containers a text may have. -/
def maxDepth : Nat := 128

/-- The depth that is left within one more container. -/
def enter? (depth : Nat) : Option Nat :=
  if depth ≤ 1 then none else some (depth - 1)

mutual

def value? (depth : Nat) : JsonTree → Option Json
  | null => some .null
  | bool b => some (.bool b)
  | number literal =>
    if JsonNumber.inRange literal then some (.number (String.ofList literal)) else none
  | string content => (text? content).map .string
  | array items => do
    let inner ← enter? depth
    return .array (← values? inner items)
  | object members => do
    let inner ← enter? depth
    return .object (← memberValues? inner [] members)

def values? (depth : Nat) : List JsonTree → Option (List Json)
  | [] => some []
  | t :: rest => do
    let v ← value? depth t
    return v :: (← values? depth rest)

/-- The values of the members of an object behind `before`; the last of a key counts. -/
def memberValues? (depth : Nat) (before : List (String × Json)) :
    List (List UInt8 × JsonTree) → Option (List (String × Json))
  | [] => some before
  | (k, t) :: rest => do
    let key ← text? k
    let v ← value? depth t
    memberValues? depth (Members.insert key v before) rest

end

/-- The fields that are present among those named, by position. -/
def positional : List String → List JsonTree → Option (List (String × JsonTree))
  | _, [] => some []
  | [], _ :: _ => none
  | name :: names, t :: rest => (positional names rest).map ((name, t) :: ·)

/-- The fields that are present among those named, by key. -/
def keyed (names : List String) : List (List UInt8 × JsonTree) → Option (List (String × JsonTree))
  | [] => some []
  | (k, t) :: rest => do
    let key ← text? k
    let fields ← keyed names rest
    if key ∉ names then return fields
    else if fields.any (·.1 = key) then none
    else return (key, t) :: fields

def fields? (names : List String) : JsonTree → Option (List (String × JsonTree))
  | array items => positional names items
  | object members => keyed names members
  | _ => none

/-- A value that may be `null`. -/
def optional? {α : Type} (read : JsonTree → Option α) : JsonTree → Option (Option α)
  | null => some none
  | t => (read t).map some

/-- The field of that name, `absent` if it is not present. -/
def field? {α : Type} (fields : List (String × JsonTree)) (name : String) (absent : α)
    (read : JsonTree → Option α) : Option α :=
  match fields.lookup name with
  | none => some absent
  | some t => read t

def string? : JsonTree → Option String
  | string content => text? content
  | _ => none

def bool? : JsonTree → Option Bool
  | bool b => some b
  | _ => none

/-- A natural number of at most 64 bits, written without a sign, a point or an exponent. -/
def word? : JsonTree → Option Nat
  | number literal => Text.word? literal
  | _ => none

def strings? : JsonTree → Option (List String)
  | array items => items.mapM string?
  | _ => none

/-- When one more level may be entered. -/
theorem enter?_eq_some_iff {depth inner : Nat} :
    enter? depth = some inner ↔ 0 < inner ∧ depth = inner + 1 := by
  unfold enter?
  split <;> simp <;> omega

example : text? "a\\n\\u00e9\\ud83d\\ude00\\/".toUTF8.toList = some "a\né😀/" := by decide +kernel
example : text? "\\udc00".toUTF8.toList = none := by decide +kernel

end SecretTemplate.JsonTree
