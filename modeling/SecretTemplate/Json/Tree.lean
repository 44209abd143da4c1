import SecretTemplate.Json.Token

/-!
# JSON trees

The tree of a JSON text, with strings and numbers as they are written and with every member of an
object, repeated keys included. The parser keeps the containers that are still open on a stack of
its own, so a text may be nested to any depth.
-/

namespace SecretTemplate

/-- A JSON value as it is written. -/
inductive JsonTree where
  | null
  | bool (b : Bool)
  | number (literal : List Char)
  | string (content : List UInt8)
  | array (items : List JsonTree)
  | object (members : List (List UInt8 × JsonTree))
  deriving Inhabited

namespace JsonTree

/-- A container that is still open, with what it holds so far in reverse. -/
inductive Frame where
  | array (items : List JsonTree)
  /-- An object in front of the value of `key`. -/
  | object (members : List (List UInt8 × JsonTree)) (key : List UInt8)

inductive Expect where
  /-- A value. -/
  | value
  /-- A value, or the end of an array without items. -/
  | item
  /-- A key, with the members in front of it in reverse; an object may end here if `first`. -/
  | key (members : List (List UInt8 × JsonTree)) (first : Bool)
  /-- The colon behind a key. -/
  | colon (members : List (List UInt8 × JsonTree)) (key : List UInt8)
  /-- A comma or the end of a container, behind a value. -/
  | more (value : JsonTree)

/-- What follows a value that is no container. -/
def leaf? : JsonToken → Option JsonTree
  | .null => some null
  | .bool b => some (bool b)
  | .number literal => some (number literal)
  | .string content => some (string content)
  | _ => none

/-- What the parser expects behind a token, with the open containers. -/
def advance? : Expect → List Frame → JsonToken → Option (Expect × List Frame)
  | .item, .array _ :: stack, .closeBracket => some (.more (array []), stack)
  | .value, stack, token | .item, stack, token =>
    match token with
    | .openBracket => some (.item, .array [] :: stack)
    | .openBrace => some (.key [] true, stack)
    | _ => (leaf? token).map fun v => (.more v, stack)
  | .key _ true, stack, .closeBrace => some (.more (object []), stack)
  | .key members _, stack, .string key => some (.colon members key, stack)
  | .colon members key, stack, .colon => some (.value, .object members key :: stack)
  | .more v, .array items :: stack, .comma => some (.value, .array (v :: items) :: stack)
  | .more v, .array items :: stack, .closeBracket =>
    some (.more (array (v :: items).reverse), stack)
  | .more v, .object members key :: stack, .comma => some (.key ((key, v) :: members) false, stack)
  | .more v, .object members key :: stack, .closeBrace =>
    some (.more (object ((key, v) :: members).reverse), stack)
  | _, _, _ => none

/-- The value of the remaining tokens, if they complete all containers and nothing follows. -/
def parseFrom : Expect → List Frame → List JsonToken → Option JsonTree
  | .more v, [], [] => some v
  | _, _, [] => none
  | expect, stack, token :: tokens =>
    (advance? expect stack token).bind fun (expect, stack) => parseFrom expect stack tokens

def parse? (text : List UInt8) : Option JsonTree :=
  (JsonToken.lex text).bind (parseFrom .value [])

end JsonTree

end SecretTemplate
