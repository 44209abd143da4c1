import SecretTemplate.Url.Basic

/-!
# HTTP messages

The requests that a client sends and the answers it gets. All requests ask for a resource. Header
names are in small letters.
-/

namespace SecretTemplate.Http

/-- Header fields by name, in order. -/
abbrev Headers := List (String × List UInt8)

structure Request where
  url : Url
  headers : Headers
  deriving DecidableEq

structure Response where
  status : Nat
  headers : Headers := []
  body : List UInt8 := []
  /-- Whether all of the body arrived. -/
  complete : Bool := true
  deriving DecidableEq

/-- What comes of a request. -/
inductive Exchange where
  /-- An answer. -/
  | answered (response : Response)
  /-- No answer, and none to come. -/
  | lost
  /-- No answer in time. -/
  | late
  deriving DecidableEq

/-- Whether a header field may hold these bytes: no controls other than the tab. -/
def isHeaderValue (value : List UInt8) : Bool :=
  value.all fun b => (0x20 ≤ b.toNat && b.toNat ≠ 0x7F) || b.toNat = 0x09

/-- The first header field of that name. -/
def Response.header? (r : Response) (name : String) : Option (List UInt8) :=
  r.headers.lookup name

/-- The text of a header field that holds visible ASCII characters, spaces and tabs only. -/
def visibleText? (value : List UInt8) : Option String :=
  if value.all fun b => (0x20 ≤ b.toNat && b.toNat < 0x7F) || b.toNat = 0x09 then
    some (String.ofList (value.map fun b => Char.ofNat b.toNat))
  else none

end SecretTemplate.Http
