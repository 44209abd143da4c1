import SecretTemplate.Http.Redirect
import SecretTemplate.Release
import SecretTemplate.Template.Patch
import SecretTemplate.Vault.Endpoint
import SecretTemplate.Vault.Envelope
import SecretTemplate.Vault.Settings

/-!
# Clients

A client asks a server for secrets over HTTP. Each read is one request to the endpoint of the
secret, with the token and a fresh name for the request, and each answer means one of three
things: the secret, that there is none, or a failure.

Results:
1. `interpret_404`: what is not there is no secret, whatever the answer says.
-/

namespace SecretTemplate

open Text Http

structure Client where
  config : Config
  deriving DecidableEq

namespace Client

def productName : String := Release.program ++ "/" ++ Release.number

def userAgent (config : Config) : String :=
  match config.userAgentSuffix with
  | none => productName
  | some suffix => productName ++ " " ++ suffix

def build (settings : Settings) : Except Error Client := do
  let config ← settings.configure
  if isHeaderValue (Utf8.encodeString (userAgent config)) then return ⟨config⟩
  else throw (.config .userAgent)

/-- The name and the password in a URL as they are meant, if the URL has them and they are texts. A
password that is no text is left out. -/
def credentials? (u : Url) : Option (String × Option String) := do
  let decode (s : String) := (Utf8.decodeString (Percent.decode s.toList)).toOption
  let username ← decode u.username
  let password := u.password.bind decode
  if username = "" ∧ password = none then none else some (username, password)

def headers (c : Client) (id : String) (credentials : Option (String × Option String)) : Headers :=
  let text (s : String) := Utf8.encodeString s
  [("x-request-id", text id), ("x-vault-token", text c.config.token)] ++
    (c.config.vaultNamespace.map fun s => ("x-vault-namespace", text s)).toList ++
    [("accept", text "*/*"), ("user-agent", text (userAgent c.config))] ++
    (credentials.map fun (username, password) =>
      ("authorization",
        text "Basic " ++ Base64.encode (text (username ++ ":" ++ password.getD "")))).toList

/-- The request named `id` for a read. What the address says about the user goes into a header
field. -/
def request (c : Client) (q : Read) (id : String) : Except Error Request :=
  match Url.parse? (Endpoint.url c.config.address q) with
  | none => .error (.network .unbuildable)
  | some u =>
    let credentials := credentials? u
    let u := if credentials.isSome then { u with username := "", password := none } else u
    let headers := c.headers id credentials
    if !(headers.all fun (_, value) => isHeaderValue value) then .error (.network .unbuildable)
    else if !isSendable u then .error (.network (.unsendable u.render))
    else .ok ⟨u, headers⟩

def refusal (id : String) (r : Response) : Error :=
  let reasons := if r.complete then (Envelope.reasons? r.body).getD [] else []
  let message := if reasons.isEmpty then s!"HTTP error {r.status}" else "; ".intercalate reasons
  .http r.status message (((r.header? "x-request-id").bind visibleText?).or (some id))

/-- What the final answer to the request named `id` means. -/
def interpret (engine : Engine) (id : String) (r : Response) : Answer :=
  if r.status = 404 then .ok none
  else if 200 ≤ r.status ∧ r.status < 300 then
    match if r.complete then Envelope.secret? engine r.body else none with
    | some secret => .ok secret
    | none => .error (.deserialize .malformed)
  else .error (refusal id r)

def read (c : Client) (q : Read) : Conversation Answer :=
  .ask .freshId fun id =>
    match c.request q id with
    | .error cause => .done (.error cause)
    | .ok request => do
      match ← follow request.url maxRedirects request with
      | .error cause => return .error cause
      | .ok response => return interpret q.engine id response

/-- The outcome of a computation that reads its secrets through a client. -/
def run {α : Type} (c : Client) (l : Lookup α) : Conversation (Except Error α) :=
  l.run.through c.read

/-- A number of milliseconds in the largest unit that is not below one. -/
def renderTimeout (ms : Nat) : String :=
  if ms = 0 then "0ns"
  else if ms < 1000 then toString ms ++ "ms"
  else
    let digits := toString (1000 + ms % 1000)
    let fraction := trimEndString (· == '0') (String.ofList (digits.toList.drop 1))
    toString (ms / 1000) ++ (if fraction = "" then "" else "." ++ fraction) ++ "s"

/-- A client with its fields, without the token. -/
def inspect (c : Client) : String :=
  Error.record "Client" [("address", quote c.config.address),
    ("namespace", quoteOption c.config.vaultNamespace),
    ("timeout", renderTimeout c.config.timeout)]

/-- What is not there is no secret, whatever the answer says. -/
theorem interpret_404 (engine : Engine) (id : String) {r : Response} (h : r.status = 404) :
    interpret engine id r = .ok none := by
  simp [interpret, h]

example : renderTimeout 90061001 = "90061.001s" := by decide +kernel
example : renderTimeout 1500 = "1.5s" := by decide +kernel
example : renderTimeout 60000 = "60s" := by decide +kernel

end Client

end SecretTemplate
