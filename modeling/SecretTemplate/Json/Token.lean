/-!
# JSON tokens

A JSON text as a sequence of tokens. A string token keeps the bytes between its quotes as they are
written: the escapes in it are well formed, but what they denote is not looked at here. A number
token keeps its literal, which follows the number grammar.

Results:
1. `lexFrom_append_start`: white space between tokens does not count.
-/

namespace SecretTemplate

inductive JsonToken where
  | openBrace
  | closeBrace
  | openBracket
  | closeBracket
  | comma
  | colon
  | null
  | bool (b : Bool)
  /-- A number by its literal. -/
  | number (literal : List Char)
  /-- A string by the bytes between its quotes. -/
  | string (content : List UInt8)
  deriving DecidableEq, Repr

namespace JsonToken

/-- How far a number literal has got. -/
inductive NumberPart where
  /-- Behind the sign. -/
  | sign
  /-- Behind a leading zero. -/
  | zero
  /-- Within the integer digits. -/
  | integer
  /-- Behind the point. -/
  | point
  /-- Within the fraction digits. -/
  | fraction
  /-- Behind the exponent mark. -/
  | mark
  /-- Behind the sign of the exponent. -/
  | markSign
  /-- Within the exponent digits. -/
  | exponent
  deriving DecidableEq, Repr

namespace NumberPart

/-- Whether a literal may end here. -/
def isComplete : NumberPart → Bool
  | zero | integer | fraction | exponent => true
  | sign | point | mark | markSign => false

/-- The part behind one more character, if the literal goes on with it. -/
def next? (p : NumberPart) (c : Char) : Option NumberPart :=
  match p with
  | sign => if c = '0' then some zero else if c.isDigit then some integer else none
  | zero => afterInteger
  | integer => if c.isDigit then some integer else afterInteger
  | point => if c.isDigit then some fraction else none
  | fraction => if c.isDigit then some fraction else afterFraction
  | mark =>
    if c = '+' ∨ c = '-' then some markSign else if c.isDigit then some exponent else none
  | markSign => if c.isDigit then some exponent else none
  | exponent => if c.isDigit then some exponent else none
where
  afterFraction : Option NumberPart := if c = 'e' ∨ c = 'E' then some mark else none
  afterInteger : Option NumberPart := if c = '.' then some point else afterFraction

end NumberPart

/-- Where the lexer stands. What has been read of a token is kept in reverse. -/
inductive Mode where
  /-- Between tokens. -/
  | start
  /-- Within a string. -/
  | string (read : List UInt8)
  /-- Behind a backslash in a string. -/
  | escape (read : List UInt8)
  /-- In front of `owed` hexadecimal digits in a string. -/
  | hex (owed : Nat) (read : List UInt8)
  /-- Within a number. -/
  | number (part : NumberPart) (read : List Char)
  /-- Within a word whose remaining letters are known. -/
  | word (owed : List Char) (token : JsonToken)

/-- A byte as a character, for the comparison with ASCII characters. -/
def charOf (b : UInt8) : Char :=
  Char.ofNat b.toNat

def isHexDigit (b : UInt8) : Bool :=
  let c := charOf b
  c.isDigit || ('a' ≤ c && c ≤ 'f') || ('A' ≤ c && c ≤ 'F')

/-- The byte behind a token or at the start: the token it makes up or begins. -/
def begin? (b : UInt8) : Option (List JsonToken × Mode) :=
  match charOf b with
  | ' ' | '\n' | '\t' | '\r' => some ([], .start)
  | '\x7b' => some ([openBrace], .start)
  | '\x7d' => some ([closeBrace], .start)
  | '[' => some ([openBracket], .start)
  | ']' => some ([closeBracket], .start)
  | ',' => some ([comma], .start)
  | ':' => some ([colon], .start)
  | '"' => some ([], .string [])
  | 'n' => some ([], .word ['u', 'l', 'l'] null)
  | 't' => some ([], .word ['r', 'u', 'e'] (bool true))
  | 'f' => some ([], .word ['a', 'l', 's', 'e'] (bool false))
  | '-' => some ([], .number .sign ['-'])
  | '0' => some ([], .number .zero ['0'])
  | c => if c.isDigit then some ([], .number .integer [c]) else none

/-- The token that one more byte completes, if any, and where the lexer stands behind it. -/
def step? : Mode → UInt8 → Option (List JsonToken × Mode)
  | .start, b => begin? b
  | .string read, b =>
    match charOf b with
    | '"' => some ([.string read.reverse], .start)
    | '\\' => some ([], .escape (b :: read))
    | _ => if b.toNat < 0x20 then none else some ([], .string (b :: read))
  | .escape read, b =>
    match charOf b with
    | '"' | '\\' | '/' | 'b' | 'f' | 'n' | 'r' | 't' => some ([], .string (b :: read))
    | 'u' => some ([], .hex 4 (b :: read))
    | _ => none
  | .hex owed read, b =>
    if isHexDigit b then
      if owed ≤ 1 then some ([], .string (b :: read)) else some ([], .hex (owed - 1) (b :: read))
    else none
  | .number part read, b =>
    match part.next? (charOf b) with
    | some part => some ([], .number part (charOf b :: read))
    | none =>
      if part.isComplete then
        (begin? b).map fun (tokens, mode) => (.number read.reverse :: tokens, mode)
      else none
  | .word [] _, _ => none
  | .word (c :: owed) token, b =>
    if charOf b = c then
      if owed.isEmpty then some ([token], .start) else some ([], .word owed token)
    else none

/-- The tokens that a text has from a mode on, if it ends between tokens. -/
def lexFrom : Mode → List UInt8 → Option (List JsonToken)
  | .start, [] => some []
  | .number part read, [] => if part.isComplete then some [.number read.reverse] else none
  | _, [] => none
  | mode, b :: bs => do
    let (tokens, mode) ← step? mode b
    return tokens ++ (← lexFrom mode bs)

def lex (text : List UInt8) : Option (List JsonToken) :=
  lexFrom .start text

/-- White space between tokens does not count. -/
theorem lexFrom_append_start {b : UInt8} (blank : charOf b ∈ [' ', '\n', '\t', '\r'])
    (text : List UInt8) : lexFrom .start (b :: text) = lexFrom .start text := by
  have h : begin? b = some ([], .start) := by
    simp only [List.mem_cons, List.not_mem_nil, or_false] at blank
    rcases blank with h | h | h | h <;> simp [begin?, h]
  simp [lexFrom, step?, h]

end JsonToken

end SecretTemplate
