import SecretTemplate.Http.Redirect
import SecretTemplate.Text.Blank

/-!
# Scripted servers

A server that answers by a script: the first route for what is asked decides, and where there is no
route there is nothing. A route may also keep an answer back.

Results:
1. `serve_of_noRoute`: without a route there is nothing.
-/

namespace SecretTemplate.Http

open Text

/-- How a route goes on once it is asked. -/
inductive Manner where
  /-- It answers. -/
  | answer
  /-- It hangs up. -/
  | close
  /-- It does nothing. -/
  | stall
  deriving DecidableEq

structure Route where
  /-- What must be asked for. -/
  target : String
  status : Nat := 200
  headers : Headers := []
  body : List UInt8 := []
  /-- How many bytes of the body are announced but not sent. -/
  missing : Nat := 0
  manner : Manner := .answer

namespace Route

/-- Whether a byte is dropped at the ends of the value of a header field. -/
def isPadding (b : UInt8) : Bool := b.toNat = 0x20 || b.toNat = 0x09

def trimValue (value : List UInt8) : List UInt8 :=
  ((value.dropWhile isPadding).reverse.dropWhile isPadding).reverse

/-- The answer of a route. Two kinds of answers have no body. -/
def response (r : Route) : Response :=
  let headers := r.headers.map fun (name, value) =>
    (String.ofList (name.toList.map Char.toLower), trimValue value)
  if r.status ∈ [204, 304] then { status := r.status, headers }
  else { status := r.status, headers, body := r.body, complete := r.missing = 0 }

def exchange (r : Route) : Exchange :=
  match r.manner with
  | .answer => .answered r.response
  | .close => .lost
  | .stall => .late

end Route

def serve (routes : List Route) (request : Request) : Exchange :=
  match routes.find? (·.target = request.url.target) with
  | some route => route.exchange
  | none => .answered { status := 404 }

/-- Without a route there is nothing. -/
theorem serve_of_noRoute {routes : List Route} {request : Request}
    (none : ∀ r ∈ routes, r.target ≠ request.url.target) :
    serve routes request = .answered { status := 404 } := by
  have h : routes.find? (·.target = request.url.target) = Option.none := by
    simpa using none
  simp [serve, h]

end SecretTemplate.Http
