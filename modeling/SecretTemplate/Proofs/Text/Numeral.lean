import Mathlib.Data.Nat.Digits.Defs
import SecretTemplate.Text.Numeral

/-!
# Numbers in decimal digits

Which texts are numbers in base ten, and which of them are of at most 64 bits.

Results:
1. `readDigits?_ten_eq_some_iff`: digits, and nothing else, denote a number.
2. `word?_eq_some_iff`: the numbers of at most 64 bits.
-/

namespace SecretTemplate.Text

theorem digit?_ten_eq_some_iff {c : Char} {d : Nat} :
    digit? 10 c = some d ↔ c.isDigit ∧ d = c.toNat - '0'.toNat := by
  rw [digit?, Char.isDigit_iff_toNat]
  simp only [Option.filter_eq_some_iff, decide_eq_true_eq, Char.reduceToNat]
  split_ifs <;> simp <;> omega

/-- Digits, and nothing else, denote a number. -/
theorem readDigits?_ten_eq_some_iff {digits : List Char} {value n : Nat} :
    readDigits? 10 value digits = some n ↔
      (∀ c ∈ digits, c.isDigit) ∧ n = Nat.ofDigitChars 10 digits value := by
  induction digits generalizing value with
  | nil =>
    rw [readDigits?, Option.some.injEq, eq_comm]
    simp [Nat.ofDigitChars]
  | cons c rest ih =>
    simp only [readDigits?, Option.bind_eq_some_iff, digit?_ten_eq_some_iff, ih,
      List.forall_mem_cons, Nat.ofDigitChars_cons]
    rw [Nat.mul_comm 10 value]
    constructor
    · rintro ⟨_, ⟨digit, rfl⟩, digits, rfl⟩
      exact ⟨⟨digit, digits⟩, rfl⟩
    · rintro ⟨⟨digit, digits⟩, rfl⟩
      exact ⟨_, ⟨digit, rfl⟩, digits, rfl⟩

/-- The numbers of at most 64 bits are those that digits denote below the limit. -/
theorem word?_eq_some_iff {digits : List Char} {n : Nat} :
    word? digits = some n ↔
      digits ≠ [] ∧ (∀ c ∈ digits, c.isDigit) ∧ n = Nat.ofDigitChars 10 digits 0 ∧ n < 2 ^ 64 := by
  have small : n ≤ maxWord ↔ n < 2 ^ 64 := Nat.lt_succ_iff.symm
  simp only [word?, natOfDigits?, Option.filter_eq_some_iff, List.isEmpty_iff,
    Option.ite_none_left_eq_some, readDigits?_ten_eq_some_iff, decide_eq_true_eq, small, and_assoc]

end SecretTemplate.Text
