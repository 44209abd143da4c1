import SecretTemplate.Proofs.Text.Bytes
import SecretTemplate.Text.Blank

/-!
# Blank characters by their numbers

There are twenty-five blank characters. What is to be shown of every blank can be checked on their
numbers.

Results:
1. `isBlank_iff`: the blank characters by their numbers.
2. `forall_of_blanks`: what holds of the characters with these numbers holds of every blank.
-/

namespace SecretTemplate.Text

/-- The numbers of the blank characters. -/
def blanks : List Nat :=
  [0x09, 0x0A, 0x0B, 0x0C, 0x0D, 0x20, 0x85, 0xA0, 0x1680, 0x2000, 0x2001, 0x2002, 0x2003, 0x2004,
    0x2005, 0x2006, 0x2007, 0x2008, 0x2009, 0x200A, 0x2028, 0x2029, 0x202F, 0x205F, 0x3000]

theorem isBlank_iff {c : Char} : isBlank c = true ↔ c.toNat ∈ blanks := by
  simp only [isBlank, blanks, Bool.or_eq_true, Bool.and_eq_true, decide_eq_true_eq, beq_iff_eq,
    UInt32.le_iff_toNat_le, ← UInt32.toNat_inj, List.mem_cons, List.not_mem_nil, or_false]
  change _ ↔ c.val.toNat = _ ∨ _
  simp only [Char.toNat, UInt32.reduceToNat]
  omega

/-- What holds of the characters with these numbers holds of every blank. -/
theorem forall_of_blanks (P : Char → Prop) (h : ∀ n ∈ blanks, P (Char.ofNat n)) {c : Char}
    (blank : isBlank c = true) : P c := by
  have at_c := h c.toNat (isBlank_iff.1 blank)
  rwa [Char.ofNat_toNat] at at_c

/-- No other number is that of a blank, not even one that is the number of no character. -/
theorem isBlank_ofNat {n : Nat} (h : n ∉ blanks) : isBlank (Char.ofNat n) = false := by
  rw [← Bool.not_eq_true, isBlank_iff]
  by_cases valid : n < 0xD800 ∨ 0xE000 ≤ n ∧ n < 0x110000
  · rwa [Utf8.toNat_ofNat_of_valid valid]
  · have none : ¬ n.isValidChar := valid
    rw [Char.ofNat, dif_neg none]
    decide

/-- A digit is no blank. -/
theorem isBlank_of_isDigit {c : Char} (digit : c.isDigit = true) : isBlank c = false := by
  cases blank : isBlank c with
  | false => rfl
  | true =>
    have other := forall_of_blanks (fun b => b.isDigit = false) (by decide) blank
    rw [digit] at other
    cases other

end SecretTemplate.Text
