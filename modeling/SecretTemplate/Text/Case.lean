import SecretTemplate.Text.CaseTable

/-!
# Letter case

Full Unicode case conversion. A character may become several characters. Uppercasing looks at one
character at a time. So does lowercasing, with one exception: a capital sigma becomes a final
sigma at the end of a word, that is when a cased letter stands before it and none behind it, where
case-ignorable characters do not count.
-/

namespace SecretTemplate.Text

def upperChar (c : Char) : List Char :=
  match Run.lookup upperRuns c.toNat with
  | some n => [Char.ofNat n]
  | none =>
    match valueAt? upperExpansions c.toNat with
    | some ns => ns.map Char.ofNat
    | none => [c]

/-- The lowercase form of one character, by itself. -/
def lowerChar (c : Char) : List Char :=
  match Run.lookup lowerRuns c.toNat with
  | some n => [Char.ofNat n]
  | none =>
    match valueAt? lowerExpansions c.toNat with
    | some ns => ns.map Char.ofNat
    | none => [c]

def isCased (c : Char) : Bool := inRanges casedRanges c.toNat

def isCaseIgnorable (c : Char) : Bool := inRanges caseIgnorableRanges c.toNat

/-- Whether the first character that is not case-ignorable is a cased one. -/
def meetsCased (s : List Char) : Bool :=
  match s.dropWhile isCaseIgnorable with
  | [] => false
  | c :: _ => isCased c

def upper (s : List Char) : List Char :=
  s.flatMap upperChar

/-- The capital sigma, whose lowercase form depends on its place. -/
def capitalSigma : Char := 'Σ'

/-- The lowercase form of a text that stands behind `before`, which is given in reverse. -/
def lowerFrom (before : List Char) : List Char → List Char
  | [] => []
  | c :: s =>
    (if c = capitalSigma then
      if meetsCased before && !meetsCased s then ['ς'] else ['σ']
    else lowerChar c) ++ lowerFrom (c :: before) s

def lower (s : List Char) : List Char :=
  lowerFrom [] s

def upperString (s : String) : String := String.ofList (upper s.toList)

def lowerString (s : String) : String := String.ofList (lower s.toList)

example : upperString "straße ŉ" = "STRASSE ʼN" := by decide +kernel
example : lowerString "ΑΣ ΑΣΑ Σ" = "ας ασα σ" := by decide +kernel

end SecretTemplate.Text
