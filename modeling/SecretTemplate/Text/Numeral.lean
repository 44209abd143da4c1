/-!
# Numerals

Natural numbers written in ASCII digits, in any base up to sixteen. Leading zeros are allowed, an
empty numeral is none.
-/

namespace SecretTemplate.Text

/-- The value of a digit below `base`, either case. -/
def digit? (base : Nat) (c : Char) : Option Nat :=
  let n := c.toNat
  let v? :=
    if 0x30 ≤ n ∧ n ≤ 0x39 then some (n - 0x30)
    else if 0x41 ≤ n ∧ n ≤ 0x46 then some (n - 0x41 + 10)
    else if 0x61 ≤ n ∧ n ≤ 0x66 then some (n - 0x61 + 10)
    else none
  v?.filter (· < base)

/-- The number that digits denote behind digits that denote `value`. -/
def readDigits? (base : Nat) : (value : Nat) → List Char → Option Nat
  | value, [] => some value
  | value, c :: s => (digit? base c).bind fun d => readDigits? base (value * base + d) s

/-- The number that a non-empty run of digits denotes. -/
def natOfDigits? (base : Nat) (s : List Char) : Option Nat :=
  if s.isEmpty then none else readDigits? base 0 s

def maxWord : Nat := 0xFFFFFFFFFFFFFFFF

/-- The number of at most 64 bits that a non-empty run of decimal digits denotes. -/
def word? (s : List Char) : Option Nat :=
  (natOfDigits? 10 s).filter (· ≤ maxWord)

example : natOfDigits? 10 "0060".toList = some 60 := by decide
example : natOfDigits? 16 "fF".toList = some 255 := by decide
example : word? "18446744073709551616".toList = none := by decide
example : natOfDigits? 8 "18".toList = none := by decide

end SecretTemplate.Text
