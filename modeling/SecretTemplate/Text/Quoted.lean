import SecretTemplate.Text.CaseTable
import SecretTemplate.Text.PrintableTable

/-!
# Quoted texts

A text between double quotes, in which quotes, backslashes and line ends are written with a
backslash, and characters without a shape of their own by their number in hexadecimal.
-/

namespace SecretTemplate.Text

/-- Whether a character cannot be shown by itself. -/
def isShapeless (c : Char) : Bool :=
  inRanges shapelessRanges c.toNat

def quoteChar (c : Char) : List Char :=
  if c = '\x00' then ['\\', '0']
  else if c = '\t' then ['\\', 't']
  else if c = '\r' then ['\\', 'r']
  else if c = '\n' then ['\\', 'n']
  else if c = '"' ∨ c = '\\' then ['\\', c]
  else if isShapeless c then ['\\', 'u', '\x7b'] ++ Nat.toDigits 16 c.toNat ++ ['\x7d']
  else [c]

def quoteChars (s : List Char) : List Char :=
  s.flatMap quoteChar

def quote (s : String) : String :=
  String.ofList ('"' :: quoteChars s.toList ++ ['"'])

def quoteOption : Option String → String
  | none => "None"
  | some s => s!"Some({quote s})"

example : quote "a\"b\\\n\x1bé\u0301" = "\"a\\\"b\\\\\\n\\u\x7b1b\x7dé\\u\x7b301\x7d\"" := by
  decide +kernel

end SecretTemplate.Text
