import SecretTemplate.FileTree.Fault
import SecretTemplate.Text.Base64
import SecretTemplate.Text.Quoted
import SecretTemplate.Text.Utf8

/-!
# Errors

Everything that can go wrong between a template and its rendering, as one closed type of causes.
`Error.message` words a cause in one line, `Error.kind` classifies it, `Error.chain` is the wording
for a reader who also wants the causes behind a cause, and `Error.inspect` shows the fields.

Some causes lie outside the library: a store may report a failure in its own words. Those have a
constructor `reported`.

Results:
1. `kind_eq_transport_iff`: the causes that concern the way to the store.
2. `offset?_eq_some_iff`: only undecodable base64 has an offset.
-/

namespace SecretTemplate

open Text

inductive ConfigFault where
  /-- A template delimiter without characters. -/
  | emptyDelimiter
  /-- An address of another scheme, or of none. -/
  | scheme
  /-- Plain HTTP to a host that is not this machine. -/
  | plainHttp (address : String)
  /-- No token was given. -/
  | missingToken
  /-- Neither the environment nor the token file has a token; `cause` concerns the file. -/
  | noTokenFile (cause : TextFault)
  /-- A timeout that is no number of seconds. -/
  | timeout (value : String)
  /-- A user agent that no header can carry. -/
  | userAgent
  /-- A cause in the words of someone else. -/
  | reported (text : String)
  deriving DecidableEq, Repr

inductive NetworkFault where
  /-- The address is no URL, or a header value cannot be sent. -/
  | unbuildable
  /-- The URL is one that no request can be made for. -/
  | unsendable (url : String)
  /-- Nothing came back. -/
  | unanswered (url : String)
  /-- Too many redirects, the last of them to `url`. -/
  | redirects (url : String)
  /-- A cause in the words of someone else. -/
  | reported (text : String)
  deriving DecidableEq, Repr

inductive BodyFault where
  /-- The body is cut, or has not the right shape. -/
  | malformed
  /-- A cause in the words of someone else. -/
  | reported (text : String)
  deriving DecidableEq, Repr

/-- The causes of failure. -/
inductive Error where
  /-- An option of a reference is no `key=value` pair. -/
  | malformedOption (raw option : String)
  /-- A known option has a value of the wrong shape. -/
  | invalidOption (key value : String)
  /-- A reference without a path. -/
  | emptyPath
  /-- A reference without a field. -/
  | emptyField
  /-- A path that names a mount and nothing below it. -/
  | missingSubpath (mount : String)
  /-- The store has no secret at the path. -/
  | nilSecret
  /-- The field is absent or no string. -/
  | fieldNotString (field : String)
  /-- A transformation that is not known. -/
  | unknownTransformation (name : String)
  /-- A text is no base64. -/
  | decode (cause : Base64.Fault)
  /-- Base64 that spells bytes which are no text. -/
  | invalidUtf8 (bytes : List UInt8) (cause : Utf8.Fault)
  /-- An engine version that is not known, in the reference written as `secret`. -/
  | unknownVersion (secret version : String)
  /-- The server refused. -/
  | http (status : Nat) (message : String) (requestId : Option String)
  /-- The answer of the server could not be read. -/
  | deserialize (cause : BodyFault)
  /-- There was no answer. -/
  | network (cause : NetworkFault)
  /-- The answer did not come in time. -/
  | timeout
  /-- The configuration is refused. -/
  | config (cause : ConfigFault)
  deriving DecidableEq, Repr

inductive ErrorKind where
  /-- A malformed reference. -/
  | malformed
  /-- Nothing to read at the place that a reference names. -/
  | lookup
  /-- A field that is missing or no string. -/
  | typeMismatch
  /-- A failed transformation. -/
  | transformation
  /-- An engine version that is not known. -/
  | unknownVersion
  /-- A failure on the way to the store. -/
  | transport
  /-- A refused configuration. -/
  | config
  deriving DecidableEq, Repr

def ConfigFault.message : ConfigFault → String
  | emptyDelimiter => "delimiter may not be empty"
  | scheme => "Vault address must start with http:// or https://"
  | plainHttp address =>
    "refusing plain HTTP to " ++ address ++
      ". Use .allow_insecure_http() to enable (dangerous!)"
  | missingToken => "A Vault token is required. Use .token() or set VAULT_TOKEN"
  | noTokenFile cause =>
    "VAULT_TOKEN unset and/or failed to read token from ~/.vault-token: " ++
      cause.message
  | timeout value => "invalid VAULT_CLIENT_TIMEOUT: " ++ value
  | userAgent => "Failed to build HTTP client: builder error"
  | reported text => text

def NetworkFault.message : NetworkFault → String
  | unbuildable => "builder error"
  | unsendable url => s!"builder error for url ({url})"
  | unanswered url => s!"error sending request for url ({url})"
  | redirects url => s!"error following redirect for url ({url})"
  | reported text => text

def BodyFault.message : BodyFault → String
  | malformed => "error decoding response body"
  | reported text => text

namespace Error

def kind : Error → ErrorKind
  | malformedOption .. | invalidOption .. | emptyPath | emptyField => .malformed
  | missingSubpath _ | nilSecret => .lookup
  | fieldNotString _ => .typeMismatch
  | unknownTransformation _ | decode _ | invalidUtf8 .. => .transformation
  | unknownVersion .. => .unknownVersion
  | http .. | deserialize _ | network _ | timeout => .transport
  | config _ => .config

def message : Error → String
  | malformedOption raw option => s!"unable to parse option: {raw} (value {option})"
  | invalidOption key value => s!"invalid value for option {key}: {value}"
  | emptyPath => "path may not be empty"
  | emptyField => "field may not be empty"
  | missingSubpath mount => s!"no path to query using mountpoint {mount}"
  | nilSecret => "secret is nil"
  | fieldNotString field => s!"could not cast data at field {field} to string"
  | unknownTransformation name => s!"unknown transformation: {name}"
  | decode cause => "base64 decode: " ++ cause.message
  | invalidUtf8 _ cause => "base64 decode: " ++ cause.message
  | unknownVersion secret version => s!"secret {secret}: unknown kv version {version}"
  | http status message requestId => s!"http {status}: {message} (req={quoteOption requestId})"
  | deserialize cause => "deserialize: " ++ cause.message
  | network cause => "network: " ++ cause.message
  | timeout => "timeout"
  | config cause => "config: " ++ cause.message

/-- The wording of a cause, then of the cause behind it. A base64 failure names its cause in its own
wording already, and names it once more here. -/
def chain : Error → String
  | decode cause => (decode cause).message ++ ": " ++ cause.message
  | invalidUtf8 bytes cause => (invalidUtf8 bytes cause).message ++ ": " ++ cause.message
  | e => e.message

/-- Where the first symbol at fault stands. -/
def offset? : Error → Option Nat
  | decode cause => cause.offset?
  | _ => none

/-- Fields in curly brackets behind a name. -/
def record (name : String) (fields : List (String × String)) : String :=
  name ++ " \x7b " ++ ", ".intercalate (fields.map fun (k, v) => k ++ ": " ++ v) ++ " \x7d"

/-- Values in round brackets behind a name. -/
def variant (name : String) (values : List String) : String :=
  name ++ "(" ++ ", ".intercalate values ++ ")"

def inspectBase64 : Base64.Fault → String
  | .invalidByte i b => variant "InvalidByte" [toString i, toString b.toNat]
  | .invalidLength n => variant "InvalidLength" [toString n]
  | .invalidLastSymbol i b => variant "InvalidLastSymbol" [toString i, toString b.toNat]
  | .invalidPadding => "InvalidPadding"

def inspectUtf8 (bytes : List UInt8) (cause : Utf8.Fault) : String :=
  let width := match cause.width? with
    | none => "None"
    | some n => variant "Some" [toString n]
  record "FromUtf8Error" [
    ("bytes", "[" ++ ", ".intercalate (bytes.map fun b => toString b.toNat) ++ "]"),
    ("error", record "Utf8Error" [("valid_up_to", toString cause.index), ("error_len", width)])]

def inspect : Error → String
  | malformedOption raw option =>
    record "MalformedOption" [("raw", quote raw), ("option", quote option)]
  | invalidOption key value => record "InvalidOption" [("key", quote key), ("value", quote value)]
  | emptyPath => "EmptyPath"
  | emptyField => "EmptyField"
  | missingSubpath mount => record "MissingSubpath" [("mount", quote mount)]
  | nilSecret => "NilSecret"
  | fieldNotString field => record "FieldNotString" [("field", quote field)]
  | unknownTransformation name => record "UnknownTransformation" [("name", quote name)]
  | decode cause => variant "Decode" [inspectBase64 cause]
  | invalidUtf8 bytes cause => variant "InvalidUtf8" [inspectUtf8 bytes cause]
  | unknownVersion secret version =>
    record "UnknownKvVersion" [("secret", quote secret), ("version", quote version)]
  | http status message requestId =>
    record "Http" [("status", toString status), ("message", quote message),
      ("request_id", quoteOption requestId)]
  | deserialize cause => variant "Deserialize" [quote cause.message]
  | network cause => variant "Network" [quote cause.message]
  | timeout => "Timeout"
  | config cause => variant "Config" [quote cause.message]

/-- The causes that concern the way to the store. -/
theorem kind_eq_transport_iff {e : Error} :
    e.kind = .transport ↔
      (∃ s m r, e = http s m r) ∨ (∃ c, e = deserialize c) ∨ (∃ c, e = network c) ∨
        e = timeout := by
  cases e <;> simp [kind]

/-- Only undecodable base64 has an offset. -/
theorem offset?_eq_some_iff {e : Error} {n : Nat} :
    e.offset? = some n ↔ ∃ b, e = decode (.invalidByte n b) ∨ e = decode (.invalidLastSymbol n b) := by
  cases e with
  | decode cause => cases cause <;> simp [offset?, Base64.Fault.offset?]
  | _ => simp [offset?]

end Error

end SecretTemplate
