import SecretTemplate.Text.Numeral

/-!
# Numeric hosts

IPv4 addresses as hosts: one to four numbers, each decimal, octal with a leading `0` or hexadecimal
with a leading `0x`, of which the last fills all the bytes that remain. IPv6 addresses: eight pieces
of 16 bits in hexadecimal, where one run of zero pieces may be left out and the last two pieces may
be written as an IPv4 address.

Results:
1. `Ipv4.ofNumbers?_lt`: an address has 32 bits.
2. `Ipv6.parse?_length`: an address has eight pieces.
-/

namespace SecretTemplate

open Text

namespace Ipv4

/-- The number in one part of an address. -/
def number? (s : List Char) : Option Nat :=
  match s with
  | '0' :: 'x' :: digits | '0' :: 'X' :: digits =>
    if digits.isEmpty then some 0 else natOfDigits? 16 digits
  | '0' :: d :: digits => natOfDigits? 8 (d :: digits)
  | _ => natOfDigits? 10 s

/-- The parts of a host, without an empty one at the end. -/
def parts (s : List Char) : List (List Char) :=
  let ps := s.splitOn '.'
  if 1 < ps.length ∧ ps.getLast? = some [] then ps.dropLast else ps

/-- Whether the last part of a host is a number, so that it must be an IPv4 address. -/
def endsInNumber (s : List Char) : Bool :=
  match (parts s).getLast? with
  | none => false
  | some last => (!last.isEmpty && last.all Char.isDigit) || (number? last).isSome

/-- The address that numbers denote: the last fills the bytes that the others leave. -/
def ofNumbers? : (bytesLeft : Nat) → List Nat → Option Nat
  | 0, _ | _, [] => none
  | left + 1, [n] => if n < Nat.pow 256 (left + 1) then some n else none
  | left + 1, n :: ns =>
    if n < 256 then (ofNumbers? left ns).map (n * Nat.pow 256 left + ·) else none

def parse? (s : List Char) : Option Nat :=
  ((parts s).mapM number?).bind (ofNumbers? 4)

def bytes (address : Nat) : List Nat :=
  [address / 16777216 % 256, address / 65536 % 256, address / 256 % 256, address % 256]

def render (address : Nat) : String :=
  ".".intercalate ((bytes address).map toString)

/-- Whether an address belongs to this machine: those from `127.0.0.0` to `127.255.255.255`. -/
def isLoopback (address : Nat) : Bool :=
  address / 16777216 = 127

/-- The numbers denote an address of as many bytes as there are. -/
theorem ofNumbers?_lt {left address : Nat} {numbers : List Nat}
    (h : ofNumbers? left numbers = some address) : address < Nat.pow 256 left := by
  induction numbers generalizing left address with
  | nil => cases left <;> simp [ofNumbers?] at h
  | cons n ns ih =>
    cases left with
    | zero => simp [ofNumbers?] at h
    | succ left =>
      cases ns with
      | nil =>
        simp only [ofNumbers?, Option.ite_none_right_eq_some, Option.some.injEq] at h
        omega
      | cons m ms =>
        simp only [ofNumbers?, Option.ite_none_right_eq_some, Option.map_eq_some_iff] at h
        obtain ⟨hn, a, ha, rfl⟩ := h
        have hlt := ih ha
        calc n * 256 ^ left + a < n * 256 ^ left + 256 ^ left := Nat.add_lt_add_left hlt _
          _ = (n + 1) * 256 ^ left := by rw [Nat.succ_mul]
          _ ≤ 256 * 256 ^ left := Nat.mul_le_mul_right _ hn
          _ = 256 ^ (left + 1) := by rw [Nat.pow_succ, Nat.mul_comm]

end Ipv4

namespace Ipv6

/-- The pieces that an IPv4 address makes up. -/
def ofDotted? (s : List Char) : Option (List Nat) := do
  match ← (s.splitOn '.').mapM byte? with
  | [a, b, c, d] => return [a * 256 + b, c * 256 + d]
  | _ => none
where
  /-- A decimal number below 256 without leading zeros. -/
  byte? (s : List Char) : Option Nat :=
    if 1 < s.length ∧ s.head? = some '0' then none
    else (natOfDigits? 10 s).filter (· < 256)

/-- One piece: at most four hexadecimal digits. -/
def piece? (s : List Char) : Option Nat :=
  if s.length ≤ 4 then natOfDigits? 16 s else none

/-- The pieces of groups between colons; the last group may be an IPv4 address. -/
def pieces? : List (List Char) → Option (List Nat)
  | [] => some []
  | [last] => if '.' ∈ last then ofDotted? last else (piece? last).map ([·])
  | group :: groups => do
    let n ← piece? group
    return n :: (← pieces? groups)

/-- The address of the pieces in front of a gap and behind it, with at least one piece in the
gap. -/
def fill? (front back : List Nat) : Option (List Nat) :=
  if front.length + back.length ≤ 7 then
    some (front ++ List.replicate (8 - front.length - back.length) 0 ++ back)
  else none

/-- The pieces of the groups behind a gap, where no group at all must show as an empty one. -/
def behindGap? : List (List Char) → Option (List Nat)
  | [] => none
  | [[]] => some []
  | groups => pieces? groups

/-- The address that a text in brackets denotes. -/
def parse? (s : List Char) : Option (List Nat) :=
  let groups := s.splitOn ':'
  let front := groups.takeWhile (· != [])
  match groups.dropWhile (· != []) with
  | [] => (pieces? groups).filter (·.length = 8)
  | _ :: back =>
    if front.isEmpty then
      match back with
      | [] :: back => (behindGap? back).bind (fill? [])
      | _ => none
    else do fill? (← front.mapM piece?) (← behindGap? back)

/-- The length of the run of zero pieces at the start. -/
def zeros (pieces : List Nat) : Nat :=
  (pieces.takeWhile (· = 0)).length

/-- The first longest run of zero pieces: where it starts, and its length. -/
def longestGap : (start : Nat) → List Nat → Nat × Nat
  | start, [] => (start, 0)
  | start, p :: ps =>
    let here := zeros (p :: ps)
    let later := longestGap (start + 1) ps
    if later.2 ≤ here then (start, here) else later

/-- Pieces in hexadecimal with colons between them. -/
def renderPieces (pieces : List Nat) : String :=
  ":".intercalate (pieces.map fun p => String.ofList (Nat.toDigits 16 p))

/-- The canonical form of an address: without the longest run of two or more zero pieces. -/
def render (pieces : List Nat) : String :=
  let (start, length) := longestGap 0 pieces
  if length < 2 then renderPieces pieces
  else renderPieces (pieces.take start) ++ "::" ++ renderPieces (pieces.drop (start + length))

def isLoopback (pieces : List Nat) : Bool :=
  pieces = [0, 0, 0, 0, 0, 0, 0, 1]

theorem fill?_length {front back address : List Nat} (h : fill? front back = some address) :
    address.length = 8 := by
  simp only [fill?, Option.ite_none_right_eq_some, Option.some.injEq] at h
  obtain ⟨hle, rfl⟩ := h
  simp
  omega

/-- An address has eight pieces. -/
theorem parse?_length {s : List Char} {address : List Nat} (h : parse? s = some address) :
    address.length = 8 := by
  simp only [parse?] at h
  split at h
  · simpa using (Option.filter_eq_some_iff.1 h).2
  · split at h
    · split at h
      · obtain ⟨b, _, hb⟩ := Option.bind_eq_some_iff.1 h
        exact fill?_length hb
      · cases h
    · obtain ⟨f, _, h⟩ := Option.bind_eq_some_iff.1 h
      obtain ⟨b, _, h⟩ := Option.bind_eq_some_iff.1 h
      exact fill?_length h

end Ipv6

example : Ipv4.parse? "0x7f.1".toList = some 0x7F000001 := by decide +kernel
example : Ipv4.parse? "127.0.0.08".toList = none := by decide +kernel
example : Ipv6.parse? "::ffff:127.0.0.1".toList = some [0, 0, 0, 0, 0, 0xFFFF, 0x7F00, 1] := by
  decide +kernel
example : Ipv6.parse? "1:2:3:4:5:6:7::".toList = some [1, 2, 3, 4, 5, 6, 7, 0] := by decide +kernel
example : Ipv6.parse? "1:".toList = none := by decide +kernel
example : Ipv6.render [1, 0, 0, 2, 0, 0, 0, 3] = "1:0:0:2::3" := by decide +kernel

end SecretTemplate
