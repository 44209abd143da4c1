import SecretTemplate.Dialogue
import SecretTemplate.Error
import SecretTemplate.Http.Message
import SecretTemplate.Url.Parser

/-!
# Redirects

An answer that moves a resource says where to. A client asks there, with the same header fields,
for a limited number of times. Only a field that authorizes it at one server is not shown to
another.

Results:
1. `redirect?_status`: only five kinds of answers move a resource.
2. `mem_forwardHeaders`: all fields but the authorization go along.
-/

namespace SecretTemplate.Http

open Text

/-- What a client asks of the world: a fresh name for a request, or an exchange with a server. -/
inductive Wire where
  | freshId
  | send (request : Request)
  deriving DecidableEq

def Wire.Answer : Wire → Type
  | freshId => String
  | send _ => Exchange

abbrev Conversation (α : Type) := Dialogue Wire Wire.Answer α

/-- Whether a URL can be asked for: it is not too long, and the host holds no character that the
first line of a request cannot show. -/
def isSendable (u : Url) : Bool :=
  u.render.utf8ByteSize ≤ 65534 &&
    (u.host.all fun h => h.render.toList.all fun c => c ∉ ['"', '\x60', '\x7b', '\x7d'])

/-- Where an answer moves what `u` names. -/
def redirect? (u : Url) (r : Response) : Option Url :=
  if r.status ∈ [301, 302, 303, 307, 308] then do
    let location ← r.header? "location"
    let text ← (Utf8.decodeString location).toOption
    (Url.resolve? u text).filter isSendable
  else none

/-- The header fields that go along from one URL to the next. -/
def forwardHeaders (here there : Url) (headers : Headers) : Headers :=
  if here.host = there.host ∧ here.effectivePort = there.effectivePort then headers
  else headers.filter (·.1 ≠ "authorization")

def maxRedirects : Nat := 10

/-- Sends a request, and follows where the answers lead, at most `left` times. A request that gets
no answer is put down to `first`, where the first of them went. -/
def follow (first : Url) : (left : Nat) → Request → Conversation (Except Error Response)
  | left, request =>
    .ask (.send request) fun
      | .lost => .done (.error (.network (.unanswered first.render)))
      | .late => .done (.error .timeout)
      | .answered response =>
        match redirect? request.url response with
        | none => .done (.ok response)
        | some u =>
          match left with
          | 0 => .done (.error (.network (.redirects request.url.render)))
          | left + 1 =>
            if u.scheme ∈ ["http", "https"] then
              follow first left ⟨u, forwardHeaders request.url u request.headers⟩
            else .done (.error (.network (.unsendable u.render)))

/-- Only five kinds of answers move a resource. -/
theorem redirect?_status {u v : Url} {r : Response} (h : redirect? u r = some v) :
    r.status ∈ [301, 302, 303, 307, 308] := by
  unfold redirect? at h
  split at h
  · assumption
  · cases h

/-- All fields but the authorization go along. -/
theorem mem_forwardHeaders {here there : Url} {headers : Headers} {name : String}
    {value : List UInt8} (other : name ≠ "authorization") :
    (name, value) ∈ forwardHeaders here there headers ↔ (name, value) ∈ headers := by
  unfold forwardHeaders
  split <;> simp [other]

end SecretTemplate.Http
