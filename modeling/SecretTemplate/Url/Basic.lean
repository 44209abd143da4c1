import SecretTemplate.Text.Percent
import SecretTemplate.Url.Address

/-!
# URLs

A URL by its parts, each in the form in which it is written: percent-encoded where it must be.
`Url.render` writes the whole. What a part may hold is given by one set of characters for each.
-/

namespace SecretTemplate

inductive Host where
  /-- A name. -/
  | domain (name : String)
  /-- An IPv4 address. -/
  | ipv4 (address : Nat)
  /-- An IPv6 address by its eight pieces. -/
  | ipv6 (pieces : List Nat)
  /-- A place for a host, with nothing in it. -/
  | empty
  deriving DecidableEq, Repr

inductive UrlPath where
  /-- Segments behind slashes. -/
  | segments (segments : List String)
  /-- A text without structure. -/
  | bare (text : String)
  deriving DecidableEq, Repr

structure Url where
  scheme : String
  username : String := ""
  password : Option String := none
  host : Option Host := none
  /-- The port, unless it is the usual one of the scheme. -/
  port : Option Nat := none
  path : UrlPath
  query : Option String := none
  fragment : Option String := none
  deriving DecidableEq, Repr

namespace Host

def render : Host → String
  | domain name => name
  | ipv4 address => Ipv4.render address
  | ipv6 pieces => "[" ++ Ipv6.render pieces ++ "]"
  | empty => ""

end Host

namespace UrlPath

def render : UrlPath → String
  | segments ss => String.join (ss.map ("/" ++ ·))
  | bare text => text

end UrlPath

namespace Url

/-- The schemes whose URLs have a host and a path of segments. -/
def isSpecial (scheme : String) : Bool :=
  scheme ∈ ["http", "https", "ws", "wss", "ftp", "file"]

def usualPort? (scheme : String) : Option Nat :=
  match scheme with
  | "http" | "ws" => some 80
  | "https" | "wss" => some 443
  | "ftp" => some 21
  | _ => none

/-- The port that a connection is made to. -/
def effectivePort (u : Url) : Option Nat :=
  u.port.or (usualPort? u.scheme)

/-- What is written between the two slashes and the path. -/
def renderAuthority (u : Url) (host : Host) : String :=
  let password := match u.password with
    | none => ""
    | some p => ":" ++ p
  let userinfo := u.username ++ password
  (if userinfo = "" then "" else userinfo ++ "@") ++ host.render ++
    (match u.port with
     | none => ""
     | some p => ":" ++ toString p)

/-- The path and the query, as they are asked for. -/
def target (u : Url) : String :=
  u.path.render ++ (match u.query with
    | none => ""
    | some q => "?" ++ q)

def render (u : Url) : String :=
  let authority := match u.host with
    | some h => "//" ++ u.renderAuthority h
    | none => if u.path.render.startsWith "//" then "/." else ""
  u.scheme ++ ":" ++ authority ++ u.target ++ (match u.fragment with
    | none => ""
    | some f => "#" ++ f)

/-! ## Sets of characters -/

/-- The characters that are not controls. -/
def isPrintable (c : Char) : Bool :=
  0x20 ≤ c.toNat && c.toNat < 0x7F

/-- The characters that a fragment shows as they are. -/
def fragmentAllows (c : Char) : Bool :=
  isPrintable c && c ∉ [' ', '"', '<', '>', '\x60']

def queryAllows (special : Bool) (c : Char) : Bool :=
  isPrintable c && c ∉ [' ', '"', '#', '<', '>'] && !(special && c = '\x27')

def pathAllows (c : Char) : Bool :=
  fragmentAllows c && c ∉ ['#', '?', '\x7b', '\x7d']

def userinfoAllows (c : Char) : Bool :=
  pathAllows c && c ∉ ['/', ':', ';', '=', '@', '[', '\\', ']', '^', '|']

end Url

end SecretTemplate
