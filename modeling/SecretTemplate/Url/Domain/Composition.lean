import SecretTemplate.Text.Ranges
import SecretTemplate.Url.Domain.CompositionTable

/-!
# Composed form

The composed normal form of a sequence of code points: every composed character is taken apart,
marks on one character are put in the order of their classes, and then every mark that can join the
character before it does so. Hangul syllables are taken apart and joined by a rule.
-/

namespace SecretTemplate.Domain

def combiningClass (n : Nat) : Nat :=
  go combiningClasses
where
  go : List (Nat × Nat × Nat) → Nat
    | [] => 0
    | (first, last, k) :: rest => if n < first then 0 else if n ≤ last then k else go rest

/-- The two code points that a composed one consists of. -/
def parts? (n : Nat) : Option (Nat × Nat) :=
  if 0xAC00 ≤ n ∧ n < 0xD7A4 then
    let i := n - 0xAC00
    if i % 28 = 0 then some (0x1100 + i / 588, 0x1161 + i % 588 / 28)
    else some (0xAC00 + i / 28 * 28, 0x11A7 + i % 28)
  else Text.valueAt? composites n

/-- The code point that two compose. Nothing below `U+0300` joins the character before it. -/
def pair? (a b : Nat) : Option Nat :=
  if b < 0x300 then none
  else if 0x1100 ≤ a ∧ a < 0x1113 ∧ 0x1161 ≤ b ∧ b < 0x1176 then
    some (0xAC00 + ((a - 0x1100) * 21 + (b - 0x1161)) * 28)
  else if 0xAC00 ≤ a ∧ a < 0xD7A4 ∧ (a - 0xAC00) % 28 = 0 ∧ 0x11A8 ≤ b ∧ b < 0x11C3 then
    some (a + (b - 0x11A7))
  else (composites.find? fun (_, x, y) => x = a ∧ y = b).map (·.1)

/-- The parts of a code point, taken apart at most `depth` times. -/
def takeApart : (depth : Nat) → Nat → List Nat
  | 0, n => [n]
  | depth + 1, n =>
    match parts? n with
    | none => [n]
    | some (a, b) => takeApart depth a ++ [b]

/-- Puts a mark into the marks at the start of a sequence, behind those of its class. -/
def insertMark (n : Nat) : List Nat → List Nat
  | [] => [n]
  | m :: rest =>
    if combiningClass m = 0 ∨ combiningClass n < combiningClass m then n :: m :: rest
    else m :: insertMark n rest

/-- Puts the marks on each character in the order of their classes, behind `marks`, which are. -/
def reorder (marks : List Nat) : List Nat → List Nat
  | [] => marks
  | n :: rest =>
    if combiningClass n = 0 then marks ++ n :: reorder [] rest else reorder (insertMark n marks) rest

/-- Composes a sequence behind `base`, which the marks in `between`, in reverse, have not
joined. -/
def composeFrom (base : Nat) (between : List Nat) : List Nat → List Nat
  | [] => base :: between.reverse
  | n :: rest =>
    let free := match between with
      | [] => true
      | m :: _ => combiningClass m < combiningClass n
    match if free then pair? base n else none with
    | some joined => composeFrom joined between rest
    | none =>
      if combiningClass n = 0 then base :: between.reverse ++ composeFrom n [] rest
      else composeFrom base (n :: between) rest

/-- Joins marks to the characters before them. -/
def compose : List Nat → List Nat
  | [] => []
  | n :: rest =>
    if combiningClass n = 0 then composeFrom n [] rest else n :: compose rest

def normalize (s : List Nat) : List Nat :=
  compose (reorder [] (s.flatMap (takeApart 4)))

example : normalize [0x61, 0x323, 0x302] = [0x1EAD] := by decide +kernel
example : normalize [0x61, 0x302, 0x323] = [0x1EAD] := by decide +kernel
example : normalize [0x1112, 0x1161, 0x11AB] = [0xD55C] := by decide +kernel

end SecretTemplate.Domain
