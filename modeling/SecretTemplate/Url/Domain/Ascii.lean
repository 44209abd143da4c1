import SecretTemplate.Url.Domain.Composition
import SecretTemplate.Url.Domain.MappingTable
import SecretTemplate.Url.Domain.Punycode
import SecretTemplate.Url.Domain.ScriptTable

/-!
# Domains in ASCII

The form of a domain in which it is looked up. Every character is mapped, which among other things
makes letters small and drops invisible characters, and the result is composed. Labels that hold
characters outside ASCII are then written in Punycode behind `xn--`. A label that is written so
already must be one that could be written so.

Labels may be empty and hyphens may stand anywhere, but some ASCII characters may stand nowhere.

Results:
1. `toAscii?_noForbidden`: no forbidden character is left.
-/

namespace SecretTemplate.Domain

open Text

/-- The characters that a code point is replaced by; `none` if no domain may hold it. -/
def mapCode? (n : Nat) : Option (List Nat) :=
  match Run.lookup mappedRuns n with
  | some m => some [m]
  | none =>
    match valueAt? mappedExpansions n with
    | some ms => some ms
    | none =>
      if inRanges ignoredRanges n then some []
      else if inRanges disallowedRanges n then none
      else some [n]

def map? : List Nat → Option (List Nat)
  | [] => some []
  | n :: rest => do return (← mapCode? n) ++ (← map? rest)

/-- Whether a code point stands for itself. -/
def isValid (n : Nat) : Bool :=
  mapCode? n = some [n]

/-- Whether a joiner may stand behind `before`, which is in reverse, and in front of `after`. The
zero width joiner needs a virama before it. The non-joiner may also stand between two letters that
would be joined. -/
def joinerFits (n : Nat) (before after : List Nat) : Bool :=
  let virama := match before with
    | [] => false
    | m :: _ => combiningClass m = 9
  let skip (s : List Nat) := s.dropWhile fun m => inRanges transparentRanges m
  let joins (s : List Nat) (ranges : List (Nat × Nat)) := match skip s with
    | [] => false
    | m :: _ => inRanges dualJoiningRanges m || inRanges ranges m
  virama || (n = 0x200C && joins before leftJoiningRanges && joins after rightJoiningRanges)

/-- Whether every joiner behind `before`, which is in reverse, stands where it may. -/
def joinersFit (before : List Nat) : List Nat → Bool
  | [] => true
  | n :: rest =>
    ((n ≠ 0x200C && n ≠ 0x200D) || joinerFits n before rest) && joinersFit (n :: before) rest

def isRightToLeft (n : Nat) : Bool := inRanges rightToLeftRanges n

/-- Whether a code point is a digit of class `AN`. -/
def isArabicNumber (n : Nat) : Bool := inRanges arabicNumberRanges n

/-- Whether a code point is a digit of class `EN`. -/
def isEuropeanNumber (n : Nat) : Bool := inRanges europeanNumberRanges n

/-- Whether a code point is a mark of class `NSM`. -/
def isNonspacing (n : Nat) : Bool := inRanges nonspacingRanges n

def isNeutral (n : Nat) : Bool := inRanges neutralRanges n

def isLeftToRight (n : Nat) : Bool :=
  !(isRightToLeft n || isArabicNumber n || isEuropeanNumber n || isNonspacing n || isNeutral n)

/-- Whether a label makes the domain one with text from right to left. -/
def mentionsRightToLeft (label : List Nat) : Bool :=
  label.any fun n => isRightToLeft n || isArabicNumber n

/-- Whether the directions in a label agree with each other: a label starts with a letter, holds
characters of one direction, ends with a letter or a digit, and does not mix two kinds of digits if
it is written from right to left. -/
def directionsAgree (label : List Nat) : Bool :=
  match label with
  | [] => true
  | first :: _ =>
    let final := match label.reverse.dropWhile isNonspacing with
      | [] => first
      | n :: _ => n
    if isRightToLeft first then
      !label.any isLeftToRight &&
        (isRightToLeft final || isEuropeanNumber final || isArabicNumber final) &&
        !(label.any isEuropeanNumber && label.any isArabicNumber)
    else
      isLeftToRight first && !mentionsRightToLeft label &&
        (isLeftToRight final || isEuropeanNumber final)

/-- Whether the marks and joiners of a label stand where they may. -/
def marksFit (label : List Nat) : Bool :=
  (match label with
    | [] => true
    | first :: _ => !inRanges markRanges first) && joinersFit [] label

def punycodeMark : List Nat := "xn--".toList.map Char.toNat

def isAscii (n : Nat) : Bool := n < 0x80

/-- The label that a label stands for: a label in Punycode stands for what is written in it. -/
def decodeLabel? (label : List Nat) : Option (List Nat) :=
  if label.take 4 = punycodeMark then do
    let s ← Punycode.decode? ((label.drop 4).map Char.ofNat)
    let decoded := s.map Char.toNat
    if decoded.all isAscii || !decoded.all isValid || normalize decoded ≠ decoded ||
      !marksFit decoded || 0x2E ∈ decoded then none
    else some decoded
  else if label.all isAscii || marksFit label then some label
  else none

def encodeLabel (label : List Nat) : List Nat :=
  if label.all isAscii then label
  else punycodeMark ++ (Punycode.encode (label.map Char.ofNat)).map Char.toNat

/-- Whether a character may not stand in a domain, although it is in ASCII. -/
def isForbidden (c : Char) : Bool :=
  c.toNat ≤ 0x20 || c.toNat = 0x7F ||
    c ∈ ['#', '%', '/', ':', '<', '>', '?', '@', '[', '\\', ']', '^', '|']

/-- The labels of a domain, mapped and composed. -/
def labels? (domain : List Char) : Option (List (List Nat)) := do
  let mapped ← map? (domain.map Char.toNat)
  let labels ← ((normalize mapped).splitOn 0x2E).mapM decodeLabel?
  if labels.any mentionsRightToLeft && !labels.all directionsAgree then none else some labels

def joinLabels (labels : List (List Nat)) : List Char :=
  (List.intercalate [0x2E] (labels.map encodeLabel)).map Char.ofNat

/-- The form of a domain in ASCII. -/
def toAscii? (domain : List Char) : Option (List Char) :=
  ((labels? domain).map joinLabels).filter fun text => !text.any isForbidden

/-- No forbidden character is left. -/
theorem toAscii?_noForbidden {domain text : List Char} (h : toAscii? domain = some text) :
    ∀ c ∈ text, isForbidden c = false := by
  have hf := (Option.filter_eq_some_iff.1 h).2
  simpa using hf

example : toAscii? "ＨＯＳＴ．Example".toList = some "host.example".toList := by decide +kernel
example : toAscii? "loc\u00ADalhost".toList = some "localhost".toList := by decide +kernel
example : toAscii? "a%b".toList = none := by decide +kernel

end SecretTemplate.Domain
