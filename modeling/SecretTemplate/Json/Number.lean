import SecretTemplate.Text.Numeral

/-!
# The size of numbers

A number literal is read as a significand, as long as its digits fit into 64 bits, and a power of
ten for the digits left out and for the exponent. A literal is in range when the nearest double of
the significand times the nearest double of the power is a finite double, or the power is
negative. A significand of zero is always in range.
-/

namespace SecretTemplate.JsonNumber

open Text

/-- The significand with one more digit, if it still fits into 64 bits. -/
def push? (significand : Nat) (c : Char) : Option Nat :=
  let n := significand * 10 + (c.toNat - '0'.toNat)
  if n ≤ maxWord then some n else none

/-- The significand of integer digits, and how many digits are left out. -/
def integerDigits (significand : Nat) : List Char → Nat × Nat
  | [] => (significand, 0)
  | c :: cs =>
    match push? significand c with
    | some n => integerDigits n cs
    | none => (significand, (c :: cs).length)

/-- The significand after fraction digits, and how many of them it holds. -/
def fractionDigits (significand : Nat) : List Char → Nat × Nat
  | [] => (significand, 0)
  | c :: cs =>
    match push? significand c with
    | some n =>
      let (result, held) := fractionDigits n cs
      (result, held + 1)
    | none => (significand, 0)

/-- `n` rounded to 53 significant bits, a tie to the even neighbour. -/
def roundBits (n : Nat) : Nat :=
  let excess := Nat.log2 n + 1 - 53
  let unit := Nat.pow 2 excess
  let low := n / unit
  let rest := n % unit
  if 2 * rest < unit then low * unit
  else if unit < 2 * rest then (low + 1) * unit
  else if excess = 0 then n
  else (low + low % 2) * unit

/-- The least number that rounds to more than the largest finite double. -/
def infinite : Nat := Nat.pow 2 1024 - Nat.pow 2 970

def isFinite (significand : Nat) (exponent : Int) : Bool :=
  exponent < 0 || significand = 0 ||
    (exponent ≤ 308 && roundBits significand * roundBits (Nat.pow 10 exponent.toNat) < infinite)

def digits (s : List Char) : List Char := s.takeWhile Char.isDigit

/-- The exponent part of a literal that starts behind the mark, and whether it is negative. -/
def exponentPart : List Char → Bool × List Char
  | '-' :: s => (true, digits s)
  | '+' :: s => (false, digits s)
  | s => (false, digits s)

/-- Whether a literal of the number grammar is a finite double. -/
def inRange (literal : List Char) : Bool :=
  let s := if literal.head? = some '-' then literal.tail else literal
  let (whole, left) := integerDigits 0 (digits s)
  let s := s.dropWhile Char.isDigit
  let fraction := if s.head? = some '.' then digits s.tail else []
  let (significand, held) := fractionDigits whole fraction
  let s := (s.drop (if s.head? = some '.' then fraction.length + 1 else 0)).tail
  let (negative, power) := exponentPart s
  let n := (natOfDigits? 10 power).getD 0
  if n > 0x7FFFFFFF then negative || significand = 0
  else isFinite significand ((left : Int) - held + if negative then -(n : Int) else n)

example : inRange "1.7976931348623157e308".toList = true := by decide +kernel
example : inRange "1.7976931348623159e308".toList = false := by decide +kernel
example : inRange "0e99999999999".toList = true := by decide +kernel
example : inRange "1e309".toList = false := by decide +kernel
example : inRange "-1e-400".toList = true := by decide +kernel

end SecretTemplate.JsonNumber
