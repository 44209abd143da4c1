import SecretTemplate.Text.Blank
import SecretTemplate.Text.Search
import SecretTemplate.Url.Basic
import SecretTemplate.Url.Domain.Ascii

/-!
# Reading URLs

A URL in writing is cleaned of blanks at its ends and of tabs and line ends anywhere. Then come a
scheme, an authority behind slashes, a path, a query behind `?` and a fragment behind `#`. In a
special scheme any number of slashes, also written as backslashes, leads to the authority. The
authority ends at the path; what it holds in front of its last `@` is the user's name and password,
and the host is what follows. Segments of one and two dots are resolved at once.

A reference that lacks a scheme, or has the scheme of its base and no authority, is read relative
to the base.

Results:
1. `resolveDots_append_plain`: a segment that is not of dots is added.
2. `splitUserinfo_append`: what stands behind the last `@` is the place.
-/

namespace SecretTemplate

open Text

namespace Host

/-- Whether a character may not stand in the host of a scheme that is not special. -/
def isForbidden (c : Char) : Bool :=
  c ∈ ['\x00', '\t', '\n', '\r', ' ', '#', '/', ':', '<', '>', '?', '@', '[', '\\', ']', '^', '|']

def bracketed? (s : List Char) : Option Host :=
  if s.getLast? = some ']' then (Ipv6.parse? (s.drop 1).dropLast).map ipv6 else none

/-- The host that a domain in ASCII names. A domain that ends in a number is an IPv4 address. -/
def ofAscii? (s : List Char) : Option Host :=
  if s.isEmpty then none
  else if Ipv4.endsInNumber s then (Ipv4.parse? s).map ipv4
  else some (domain (String.ofList s))

def parse? (special : Bool) (s : List Char) : Option Host :=
  if s.head? = some '[' then bracketed? s
  else if special then do
    let text ← (Utf8.decode (Percent.decode s)).toOption
    ofAscii? (← Domain.toAscii? text)
  else if s.any isForbidden then none
  else if s.isEmpty then some empty
  else some (domain (String.ofList (Percent.encode Url.isPrintable s)))

/-- The host in front of the first colon outside brackets, and the rest. -/
def splitPort (inside : Bool) : List Char → List Char × List Char
  | [] => ([], [])
  | c :: s =>
    if c = ':' && !inside then ([], c :: s)
    else
      let (host, rest) := splitPort (if c = '[' then true else if c = ']' then false else inside) s
      (c :: host, rest)

end Host

namespace Url

/-! ## Cleaning and schemes -/

/-- Whether a character is dropped at the ends of a URL. -/
def isEdgeBlank (c : Char) : Bool := c.toNat ≤ 0x20

/-- Whether a character is dropped wherever it stands. -/
def isDropped (c : Char) : Bool := c = '\t' || c = '\n' || c = '\r'

/-- A URL in writing without what does not count. -/
def clean (s : List Char) : List Char :=
  (trimEnd isEdgeBlank (s.dropWhile isEdgeBlank)).filter (!isDropped ·)

/-- Whether a character may stand in a scheme, behind its first letter. -/
def isSchemeChar (c : Char) : Bool :=
  c.isAlphanum || c = '+' || c = '-' || c = '.'

/-- The scheme at the start of a text, in small letters, and what follows its colon. -/
def scheme? (s : List Char) : Option (String × List Char) :=
  if (s.head?.any Char.isAlpha) then
    match s.dropWhile isSchemeChar with
    | ':' :: rest => some (String.ofList ((s.takeWhile isSchemeChar).map Char.toLower), rest)
    | _ => none
  else none

def isSeparator (special : Bool) (c : Char) : Bool :=
  c = '/' || (special && c = '\\')

def endsPath (c : Char) : Bool := c = '?' || c = '#'

/-! ## Authorities -/

/-- The part of a URL that says where, and as whom. -/
structure Authority where
  username : String := ""
  password : Option String := none
  host : Host
  port : Option Nat := none

/-- The texts in front of the last `@` and behind it. -/
def splitUserinfo (s : List Char) : Option (List Char) × List Char :=
  if '@' ∈ s then
    (some ((s.reverse.dropWhile (· != '@')).drop 1).reverse, (s.reverse.takeWhile (· != '@')).reverse)
  else (none, s)

/-- The name and the password that a text in front of a `@` holds. An empty password is none. -/
def credentials (userinfo : List Char) : String × Option String :=
  let write (s : List Char) := String.ofList (Percent.encode userinfoAllows s)
  let password := (userinfo.dropWhile (· != ':')).drop 1
  (write (userinfo.takeWhile (· != ':')),
    if password.isEmpty then none else some (write password))

/-- The port behind a host, and what follows it. The usual port of the scheme is not kept. -/
def port? (scheme : String) : List Char → Option (Option Nat × List Char)
  | ':' :: s =>
    let digits := s.takeWhile Char.isDigit
    let rest := s.dropWhile Char.isDigit
    let n := (natOfDigits? 10 digits).getD 0
    if 65535 < n || rest.head?.any (fun c => !isSeparator true c && !endsPath c) then none
    else
      some (if digits.isEmpty ∨ usualPort? scheme = some n then none else some n, rest)
  | s => some (none, s)

/-- The authority that `text` holds, which ends in front of `rest`, and what follows it. A host may
be missing if the scheme is not special and neither a user nor a port is given. -/
def authority? (scheme : String) (text rest : List Char) : Option (Authority × List Char) := do
  let special := isSpecial scheme
  let (userinfo, place) := splitUserinfo text
  let (username, password) := credentials (userinfo.getD [])
  let (hostText, behind) := Host.splitPort false place
  if hostText.isEmpty then
    let named := username ≠ "" || password.isSome
    let unnamed := userinfo = some [] && !(behind ++ rest).isEmpty
    if special || named || unnamed || !behind.isEmpty then none
  let host ← Host.parse? special hostText
  let (port, behind) ← port? scheme behind
  return ({ username, password, host, port }, behind ++ rest)

/-! ## Paths -/

/-- The number of dots that a segment consists of, if it consists of dots. A dot may be written as
an escape. -/
def dots? : List Char → Option Nat
  | [] => some 0
  | '.' :: s => (dots? s).map (· + 1)
  | '%' :: '2' :: e :: s => if e = 'e' ∨ e = 'E' then (dots? s).map (· + 1) else none
  | _ => none

/-- Whether a segment is the letter of a drive. -/
def isDrive (s : List Char) : Bool :=
  match s with
  | [c, d] => c.isAlpha && (d = ':' || d = '|')
  | _ => false

/-- A segment as it is written, the first segment of a `file` path with a colon behind the letter of
a drive. -/
def writeSegment (drive : Bool) (s : List Char) : String :=
  if drive && isDrive s then String.ofList (s.take 1 ++ [':'])
  else String.ofList (Percent.encode pathAllows s)

/-- The segments without the last one. In a `file` path the letter of a drive stays. -/
def parent (file : Bool) (done : List String) : List String :=
  match done with
  | [s] => if file && isDrive s.toList then [s] else []
  | _ => done.tail

/-- The path of the segments `done`, which are in reverse, and of those to come, in which segments
of one dot stand for nothing and those of two dots undo the segment before them. -/
def resolveDots (file : Bool) (done : List String) : List (List Char) → List String
  | [] => done.reverse
  | s :: rest =>
    let finish (done : List String) := if rest.isEmpty then "" :: done else done
    match dots? s with
    | some 1 => resolveDots file (finish done) rest
    | some 2 => resolveDots file (finish (parent file done)) rest
    | _ => resolveDots file (writeSegment (file && done.isEmpty) s :: done) rest

/-- The segments of a path that starts behind its first slash, below the segments `done`. -/
def segments (special : Bool) (done : List String) (text : List Char) : List String :=
  resolveDots false done (text.splitOnP (isSeparator special))

/-- The path behind an authority. The path of a special scheme is never empty. -/
def pathBehind (special : Bool) (text : List Char) : List String :=
  match text with
  | [] => if special then [""] else []
  | c :: rest => segments special [] (if isSeparator special c then rest else c :: rest)

/-! ## The whole -/

/-- The URL with the query and the fragment that a text holds, which starts with their marks. -/
def withTail (u : Url) (text : List Char) : Url :=
  let write (allows : Char → Bool) (s : List Char) := String.ofList (Percent.encode allows s)
  let query := text.takeWhile (· != '#')
  let fragment := text.dropWhile (· != '#')
  { u with
    query :=
      if query.isEmpty then none else some (write (queryAllows (isSpecial u.scheme)) query.tail)
    fragment := if fragment.isEmpty then none else some (write fragmentAllows fragment.tail) }

/-- The URL of a scheme and of what follows the slashes behind it. -/
def behindSlashes? (scheme : String) (s : List Char) : Option Url := do
  let special := isSpecial scheme
  let isEnd (c : Char) := isSeparator special c || endsPath c
  let (a, rest) ← authority? scheme (s.takeWhile (!isEnd ·)) (s.dropWhile (!isEnd ·))
  let u : Url := {
    scheme, username := a.username, password := a.password, host := some a.host, port := a.port
    path := .segments (pathBehind special (rest.takeWhile (!endsPath ·))) }
  return u.withTail (rest.dropWhile (!endsPath ·))

/-- The path of a `file` URL, which holds no empty segments at its start. -/
def filePath (text : List Char) : List String :=
  resolveDots true [] (text.splitOnP (isSeparator true))

def dropEmpty (ss : List String) : List String :=
  let rest := ss.dropWhile (· = "")
  if rest.isEmpty then [""] else rest

/-- The host of a `file` URL at the start of a text, and what follows it. This machine is not
named, and the letter of a drive is no host. -/
def fileHost? (s : List Char) : Option (Host × List Char) :=
  let isEnd (c : Char) := isSeparator true c || endsPath c
  let text := s.takeWhile (!isEnd ·)
  if text.isEmpty || isDrive text then some (.empty, s)
  else
    (Host.parse? true text).map fun host =>
      (if host = .domain "localhost" then .empty else host, s.dropWhile (!isEnd ·))

def file? (s : List Char) : Option Url := do
  let (host, rest) ← match s with
    | a :: b :: rest =>
      if isSeparator true a && isSeparator true b then fileHost? rest else some (.empty, s)
    | _ => some (.empty, s)
  let text := rest.takeWhile (!endsPath ·)
  let single := (host ≠ .empty || rest = s) && text.head?.any (isSeparator true)
  let path := filePath (if single then text.drop 1 else text)
  let host := if path.head?.any (fun d => isDrive d.toList) then .empty else host
  let u : Url := { scheme := "file", host := some host, path := .segments (dropEmpty path) }
  return u.withTail (rest.dropWhile (!endsPath ·))

/-- The URL of a scheme that is not special and of what follows it. -/
def plain? (scheme : String) (s : List Char) : Option Url :=
  let text := s.takeWhile (!endsPath ·)
  let tail := s.dropWhile (!endsPath ·)
  match text with
  | '/' :: '/' :: _ => behindSlashes? scheme (s.drop 2)
  | '/' :: rest =>
    let u : Url := { scheme, path := .segments (segments false [] rest) }
    some (u.withTail tail)
  | _ =>
    let u : Url := { scheme, path := .bare (String.ofList (Percent.encode isPrintable text)) }
    some (u.withTail tail)

def absolute? (scheme : String) (s : List Char) : Option Url :=
  if scheme = "file" then file? s
  else if isSpecial scheme then behindSlashes? scheme (s.dropWhile (isSeparator true))
  else plain? scheme s

def parse? (s : String) : Option Url :=
  (scheme? (clean s.toList)).bind fun (scheme, rest) => absolute? scheme rest

def pathSegments (u : Url) : List String :=
  match u.path with
  | .segments ss => ss
  | .bare _ => []

/-- The URL of a reference without a scheme, relative to a base with a special scheme. -/
def relative? (base : Url) (s : List Char) : Option Url :=
  let text := s.takeWhile (!endsPath ·)
  let tail := s.dropWhile (!endsPath ·)
  match s with
  | [] => some { base with fragment := none }
  | '#' :: _ => some { (base.withTail s) with query := base.query }
  | '?' :: _ => some (base.withTail s)
  | c :: rest =>
    if isSeparator true c then
      if rest.head?.any (isSeparator true) then
        behindSlashes? base.scheme
          (if s.take 2 = ['/', '/'] then s.drop 2 else s.dropWhile (isSeparator true))
      else
        let u := { base with path := .segments (segments true [] (text.drop 1)) }
        some (u.withTail tail)
    else
      let done := base.pathSegments.dropLast.reverse
      let u := { base with path := .segments (segments true done text) }
      some (u.withTail tail)

/-- The URL that a text writes, relative to a base with a special scheme. -/
def resolve? (base : Url) (s : String) : Option Url :=
  let cs := clean s.toList
  match scheme? cs with
  | none => relative? base cs
  | some (scheme, rest) =>
    let slashes := rest.takeWhile (isSeparator true)
    if scheme = base.scheme && isSpecial scheme && slashes.length < 2 then relative? base rest
    else absolute? scheme rest

/-- A segment that is not of dots is added. -/
theorem resolveDots_append_plain {s : List Char} (h1 : dots? s ≠ some 1) (h2 : dots? s ≠ some 2)
    (done : List String) (rest : List (List Char)) :
    resolveDots false done (s :: rest) =
      resolveDots false (String.ofList (Percent.encode pathAllows s) :: done) rest := by
  rw [resolveDots]
  split <;> simp_all [writeSegment]


/-- What stands behind the last `@` is the place. -/
theorem splitUserinfo_append (u : List Char) {place : List Char} (last : '@' ∉ place) :
    splitUserinfo (u ++ '@' :: place) = (some u, place) := by
  have hr : '@' ∉ place.reverse := by simpa using last
  have he : (u ++ '@' :: place).reverse = place.reverse ++ '@' :: u.reverse := by simp
  rw [splitUserinfo, if_pos (by simp), he, takeWhile_ne_append hr, dropWhile_ne_append hr]
  simp

/-! ## Examples -/

def canonical? (s : String) : Option String :=
  (parse? s).map render

example : canonical? " HTTP:\\\\user:@LocalHost:80\\a\\..\\b c?'#x y " =
    some "http://user@localhost/b%20c?%27#x%20y" := by decide +kernel
example : canonical? "http://[0:0::1]:8200/./x/%2E%2e/" = some "http://[::1]:8200/" := by
  decide +kernel
example : canonical? "http://0x7f.1" = some "http://127.0.0.1/" := by decide +kernel
example : canonical? "http://@/x" = none := by decide +kernel
example : canonical? "foo:a b?c" = some "foo:a b?c" := by decide +kernel

end Url

end SecretTemplate
