import SecretTemplate.Text.Percent

/-!
# Texts as bytes and as escapes

The bytes of a text are those of its characters, and reading them gives the text back. No other
bytes are read as that text, since a character has one form only. The same holds one layer up:
escapes that stand for the bytes of a text are read as these bytes.

Results:
1. `pieces_encodeChar`: the bytes of a character are one piece, and it is the character.
2. `encodeChar_of_piece`: a piece that is a character consists of the bytes of the character.
3. `decode_eq_ok_iff`: bytes are a text exactly when they are the bytes of that text.
4. `decode_encode_append`: an escaped text is read as its bytes.
-/

namespace SecretTemplate.Text

namespace Utf8

/-! ## Characters as numbers -/

/-- A character is a number below the limit of Unicode, and no surrogate. -/
theorem toNat_valid (c : Char) :
    c.toNat < 0xD800 ∨ 0xE000 ≤ c.toNat ∧ c.toNat < 0x110000 := by
  have h := c.valid
  simp only [UInt32.isValidChar, Nat.isValidChar] at h
  simp only [Char.toNat]
  omega

/-- Every such number is that of a character. -/
theorem toNat_ofNat_of_valid {n : Nat} (h : n < 0xD800 ∨ 0xE000 ≤ n ∧ n < 0x110000) :
    (Char.ofNat n).toNat = n := by
  have hn : n.isValidChar := by
    simp only [Nat.isValidChar]
    omega
  rw [Char.ofNat, dif_pos hn]
  rfl

theorem toNat_ofNat_byte {n : Nat} (h : n < 256) : (UInt8.ofNat n).toNat = n :=
  UInt8.toNat_ofNat_of_lt' h

theorem ofNat_eq_of_toNat {n : Nat} {b : UInt8} (h : b.toNat = n) : UInt8.ofNat n = b := by
  rw [← h, UInt8.ofNat_toNat]

/-! ## Pieces -/

theorem piecesFrom_drop (n : Nat) (bs : List UInt8) : piecesFrom n bs = pieces (bs.drop n) := by
  induction bs generalizing n with
  | nil => cases n <;> rfl
  | cons b bs ih =>
    cases n with
    | zero => rfl
    | succ n => simpa [piecesFrom] using ih n

/-- The pieces go on behind the bytes of the first. -/
theorem pieces_cons (b : UInt8) (bs : List UInt8) :
    pieces (b :: bs) = piece b bs :: pieces (bs.drop ((piece b bs).width - 1)) := by
  rw [pieces, piecesFrom, piecesFrom_drop]

/-- A byte that lies where it must continues a character. -/
theorem complete_ofNat {low high value used owed m : Nat} (small : m < 256)
    (inside : low ≤ m ∧ m ≤ high) (bs : List UInt8) :
    complete low high value used (owed + 1) (UInt8.ofNat m :: bs) =
      complete 0x80 0xBF (value * 64 + (m - 0x80)) (used + 1) owed bs := by
  simp [complete, toNat_ofNat_byte small, inside]

/-- The bytes that continue a character lie where they must. -/
theorem complete_succ_eq_char {low high value used owed width : Nat} {bs : List UInt8} {c : Char}
    (h : complete low high value used (owed + 1) bs = .char c width) :
    ∃ b rest, bs = b :: rest ∧ (low ≤ b.toNat ∧ b.toNat ≤ high) ∧
      complete 0x80 0xBF (value * 64 + (b.toNat - 0x80)) (used + 1) owed rest = .char c width := by
  cases bs with
  | nil => simp [complete] at h
  | cons b rest =>
    rw [complete] at h
    split at h
    · next inside => exact ⟨b, rest, rfl, by simpa using inside, h⟩
    · cases h

/-- The bytes of a character are read as the character. There is one case for each number of
bytes. -/
theorem piece_of_encodeChar {c : Char} {b : UInt8} {rest : List UInt8}
    (h : encodeChar c = b :: rest) (bs : List UInt8) :
    piece b (rest ++ bs) = .char c (rest.length + 1) := by
  have valid := toNat_valid c
  have back : Char.ofNat c.toNat = c := Char.ofNat_toNat c
  unfold encodeChar at h
  generalize c.toNat = n at h valid back
  dsimp only at h
  split at h
  · next one =>
    obtain ⟨rfl, rfl⟩ := List.cons.inj h
    have first : (UInt8.ofNat n).toNat = n := toNat_ofNat_byte (by omega)
    rw [piece, first, if_pos one, back]
    rfl
  split at h
  · obtain ⟨rfl, rfl⟩ := List.cons.inj h
    have first : (UInt8.ofNat (0xC0 + n / 64)).toNat = 0xC0 + n / 64 :=
      toNat_ofNat_byte (by omega)
    have value : (0xC0 + n / 64 - 0xC0) * 64 + (0x80 + n % 64 - 0x80) = n := by omega
    rw [piece, first, if_neg (by omega), if_neg (by omega), if_pos (by omega),
      List.singleton_append, complete_ofNat (by omega) (by omega), value, complete, back]
    rfl
  split at h
  · obtain ⟨rfl, rfl⟩ := List.cons.inj h
    have first : (UInt8.ofNat (0xE0 + n / 4096)).toNat = 0xE0 + n / 4096 :=
      toNat_ofNat_byte (by omega)
    have value : ((0xE0 + n / 4096 - 0xE0) * 64 + (0x80 + n / 64 % 64 - 0x80)) * 64 +
        (0x80 + n % 64 - 0x80) = n := by omega
    rw [piece, first, if_neg (by omega), if_neg (by omega), if_neg (by omega), if_pos (by omega),
      List.cons_append, List.singleton_append,
      complete_ofNat (by omega) (by constructor <;> split <;> omega),
      complete_ofNat (by omega) (by omega), value, complete, back]
    rfl
  · obtain ⟨rfl, rfl⟩ := List.cons.inj h
    have first : (UInt8.ofNat (0xF0 + n / 262144)).toNat = 0xF0 + n / 262144 :=
      toNat_ofNat_byte (by omega)
    have value : (((0xF0 + n / 262144 - 0xF0) * 64 + (0x80 + n / 4096 % 64 - 0x80)) * 64 +
        (0x80 + n / 64 % 64 - 0x80)) * 64 + (0x80 + n % 64 - 0x80) = n := by omega
    rw [piece, first, if_neg (by omega), if_neg (by omega), if_neg (by omega), if_neg (by omega),
      if_pos (by omega), List.cons_append, List.cons_append, List.singleton_append,
      complete_ofNat (by omega) (by constructor <;> split <;> omega),
      complete_ofNat (by omega) (by omega), complete_ofNat (by omega) (by omega), value, complete,
      back]
    rfl

/-- A piece that is a character consists of the bytes of the character. The bounds on the second
byte are what keeps the number of the character in the range of its length, and out of the
surrogates. -/
theorem encodeChar_of_piece {b : UInt8} {bs : List UInt8} {c : Char} {width : Nat}
    (h : piece b bs = .char c width) : b :: bs = encodeChar c ++ bs.drop (width - 1) := by
  simp only [piece] at h
  split at h
  · next one =>
    obtain ⟨rfl, rfl⟩ := Piece.char.inj h
    simp [encodeChar, toNat_ofNat_of_valid (n := b.toNat) (by omega), one]
  split at h
  · cases h
  split at h
  · obtain ⟨b₁, rest, rfl, in₁, h⟩ := complete_succ_eq_char h
    obtain ⟨rfl, rfl⟩ := Piece.char.inj h
    generalize hv : (b.toNat - 0xC0) * 64 + (b₁.toNat - 0x80) = v
    have e₀ : UInt8.ofNat (0xC0 + v / 64) = b := ofNat_eq_of_toNat (by omega)
    have e₁ : UInt8.ofNat (0x80 + v % 64) = b₁ := ofNat_eq_of_toNat (by omega)
    simp only [encodeChar]
    rw [toNat_ofNat_of_valid (by omega), if_neg (by omega), if_pos (by omega), e₀, e₁]
    rfl
  split at h
  · obtain ⟨b₁, rest, rfl, in₁, h⟩ := complete_succ_eq_char h
    obtain ⟨b₂, rest, rfl, in₂, h⟩ := complete_succ_eq_char h
    obtain ⟨rfl, rfl⟩ := Piece.char.inj h
    have second : 0x80 ≤ b₁.toNat ∧ b₁.toNat ≤ 0xBF ∧ (b.toNat = 0xE0 → 0xA0 ≤ b₁.toNat) ∧
        (b.toNat = 0xED → b₁.toNat ≤ 0x9F) := by
      split at in₁ <;> split at in₁ <;> omega
    generalize hv : ((b.toNat - 0xE0) * 64 + (b₁.toNat - 0x80)) * 64 + (b₂.toNat - 0x80) = v
    have e₀ : UInt8.ofNat (0xE0 + v / 4096) = b := ofNat_eq_of_toNat (by omega)
    have e₁ : UInt8.ofNat (0x80 + v / 64 % 64) = b₁ := ofNat_eq_of_toNat (by omega)
    have e₂ : UInt8.ofNat (0x80 + v % 64) = b₂ := ofNat_eq_of_toNat (by omega)
    simp only [encodeChar]
    rw [toNat_ofNat_of_valid (by omega), if_neg (by omega), if_neg (by omega), if_pos (by omega),
      e₀, e₁, e₂]
    rfl
  split at h
  · obtain ⟨b₁, rest, rfl, in₁, h⟩ := complete_succ_eq_char h
    obtain ⟨b₂, rest, rfl, in₂, h⟩ := complete_succ_eq_char h
    obtain ⟨b₃, rest, rfl, in₃, h⟩ := complete_succ_eq_char h
    obtain ⟨rfl, rfl⟩ := Piece.char.inj h
    have second : 0x80 ≤ b₁.toNat ∧ b₁.toNat ≤ 0xBF ∧ (b.toNat = 0xF0 → 0x90 ≤ b₁.toNat) ∧
        (b.toNat = 0xF4 → b₁.toNat ≤ 0x8F) := by
      split at in₁ <;> split at in₁ <;> omega
    generalize hv : (((b.toNat - 0xF0) * 64 + (b₁.toNat - 0x80)) * 64 + (b₂.toNat - 0x80)) * 64 +
      (b₃.toNat - 0x80) = v
    have e₀ : UInt8.ofNat (0xF0 + v / 262144) = b := ofNat_eq_of_toNat (by omega)
    have e₁ : UInt8.ofNat (0x80 + v / 4096 % 64) = b₁ := ofNat_eq_of_toNat (by omega)
    have e₂ : UInt8.ofNat (0x80 + v / 64 % 64) = b₂ := ofNat_eq_of_toNat (by omega)
    have e₃ : UInt8.ofNat (0x80 + v % 64) = b₃ := ofNat_eq_of_toNat (by omega)
    simp only [encodeChar]
    rw [toNat_ofNat_of_valid (by omega), if_neg (by omega), if_neg (by omega), if_neg (by omega),
      e₀, e₁, e₂, e₃]
    rfl
  · cases h

theorem encodeChar_ne_nil (c : Char) : encodeChar c ≠ [] := by
  simp only [encodeChar]
  split
  · exact List.cons_ne_nil _ _
  split
  · exact List.cons_ne_nil _ _
  split <;> exact List.cons_ne_nil _ _

/-- The bytes of a character are one piece, and it is the character. -/
theorem pieces_encodeChar (c : Char) (bs : List UInt8) :
    pieces (encodeChar c ++ bs) = .char c (encodeChar c).length :: pieces bs := by
  obtain ⟨b, rest, h⟩ := List.exists_cons_of_ne_nil (encodeChar_ne_nil c)
  rw [h, List.cons_append, pieces_cons, piece_of_encodeChar h]
  simp [Piece.width]

/-! ## Whole texts -/

theorem joinPieces_encode (s : List Char) (index : Nat) :
    joinPieces index (pieces (encode s)) = .ok s := by
  induction s generalizing index with
  | nil => rfl
  | cons c s ih =>
    rw [encode_cons, pieces_encodeChar, joinPieces, ih]
    rfl

/-- Pieces that are joined start with a character. -/
theorem joinPieces_cons_eq_ok {index : Nat} {p : Piece} {ps : List Piece} {s : List Char}
    (h : joinPieces index (p :: ps) = .ok s) :
    ∃ c n rest, p = .char c n ∧ s = c :: rest ∧ joinPieces (index + n) ps = .ok rest := by
  cases p with
  | broken n cut => cases h
  | char c n =>
    cases hr : joinPieces (index + n) ps with
    | error e => simp [joinPieces, hr, Except.map] at h
    | ok rest =>
      simp only [joinPieces, hr, Except.map, Except.ok.injEq] at h
      exact ⟨c, n, rest, rfl, h.symm, hr⟩

theorem encode_of_joinPieces {s : List Char} {bs : List UInt8} {index : Nat}
    (h : joinPieces index (pieces bs) = .ok s) : encode s = bs := by
  induction s generalizing bs index with
  | nil =>
    cases bs with
    | nil => rfl
    | cons b bs =>
      rw [pieces_cons] at h
      obtain ⟨_, _, _, -, empty, -⟩ := joinPieces_cons_eq_ok h
      cases empty
  | cons c s ih =>
    cases bs with
    | nil => cases h
    | cons b bs =>
      rw [pieces_cons] at h
      obtain ⟨c', n, rest, first, same, later⟩ := joinPieces_cons_eq_ok h
      obtain ⟨rfl, rfl⟩ := List.cons.inj same
      rw [encode_cons, ih later, encodeChar_of_piece first, first]
      rfl

/-- Bytes are a text exactly when they are the bytes of that text. -/
theorem decode_eq_ok_iff {bs : List UInt8} {s : List Char} : decode bs = .ok s ↔ bs = encode s := by
  constructor
  · intro h
    exact (encode_of_joinPieces h).symm
  · rintro rfl
    exact joinPieces_encode s 0

theorem decodeString_encodeString (s : String) : decodeString (encodeString s) = .ok s := by
  have h : decode (encode s.toList) = .ok s.toList := decode_eq_ok_iff.2 rfl
  simp [decodeString, encodeString, h, Except.map]

theorem decodeString_eq_ok_iff {bs : List UInt8} {s : String} :
    decodeString bs = .ok s ↔ bs = encodeString s := by
  constructor
  · intro h
    cases hd : decode bs with
    | error fault => simp [decodeString, hd, Except.map] at h
    | ok cs =>
      simp only [decodeString, hd, Except.map, Except.ok.injEq] at h
      rw [← h, encodeString, String.toList_ofList]
      exact decode_eq_ok_iff.1 hd
  · rintro rfl
    exact decodeString_encodeString s

/-- Texts with the same bytes are the same. -/
theorem encodeString_inj {s t : String} : encodeString s = encodeString t ↔ s = t := by
  refine ⟨fun h => ?_, congrArg _⟩
  have same := decodeString_encodeString s
  rw [h, decodeString_encodeString] at same
  exact (Except.ok.inj same).symm

/-- Bytes in ASCII are those of the characters with their numbers. -/
theorem encode_map_ofNat {bytes : List UInt8} (ascii : ∀ b ∈ bytes, b.toNat < 0x80) :
    encode (bytes.map fun b => Char.ofNat b.toNat) = bytes := by
  induction bytes with
  | nil => rfl
  | cons b bs ih =>
    rw [List.forall_mem_cons] at ascii
    have number : (Char.ofNat b.toNat).toNat = b.toNat := toNat_ofNat_of_valid (by omega)
    rw [List.map_cons, encode_cons, ih ascii.2, encodeChar, number, if_pos ascii.1,
      UInt8.ofNat_toNat]
    rfl

/-- A byte in ASCII is a character of its own: all bytes of longer characters lie above. -/
theorem toNat_of_mem_encodeChar {b : UInt8} {c : Char} (h : b ∈ encodeChar c)
    (ascii : b.toNat < 0x80) : c.toNat = b.toNat := by
  have valid := toNat_valid c
  simp only [encodeChar] at h
  split at h
  · rw [List.mem_singleton.1 h, toNat_ofNat_byte (by omega)]
  · exfalso
    split at h
    · simp only [List.mem_cons, List.not_mem_nil, or_false] at h
      rcases h with rfl | rfl <;> rw [toNat_ofNat_byte (by omega)] at ascii <;> omega
    split at h <;> simp only [List.mem_cons, List.not_mem_nil, or_false] at h
    · rcases h with rfl | rfl | rfl <;> rw [toNat_ofNat_byte (by omega)] at ascii <;> omega
    · rcases h with rfl | rfl | rfl | rfl <;> rw [toNat_ofNat_byte (by omega)] at ascii <;> omega

/-- A byte in ASCII comes from the character with its number. -/
theorem ofNat_mem_of_mem_encode {b : UInt8} {s : List Char} (h : b ∈ encode s)
    (ascii : b.toNat < 0x80) : Char.ofNat b.toNat ∈ s := by
  obtain ⟨c, hc, hb⟩ := List.mem_flatMap.1 h
  rw [← toNat_of_mem_encodeChar hb ascii, Char.ofNat_toNat]
  exact hc

end Utf8

namespace Percent

/-- A character that starts no escape stands for itself. -/
theorem decode_cons_of_ne {c : Char} (h : c ≠ '%') (s : List Char) :
    decode (c :: s) = Utf8.encodeChar c ++ decode s := by
  have none : escape? (c :: s) = none := by
    unfold escape?
    split
    · next heq => exact absurd (List.cons.inj heq).1 h
    · rfl
  rw [decode, decodeFrom, none]
  rfl

theorem decode_flatMap_escapeByte (bs : List UInt8) (s : List Char) :
    decode (bs.flatMap escapeByte ++ s) = bs ++ decode s := by
  induction bs with
  | nil => rfl
  | cons b bs ih =>
    rw [List.flatMap_cons, List.append_assoc, decode_escapeByte, ih, List.cons_append]

/-- An escaped text is read as its bytes. -/
theorem decode_encode_append {allowed : Char → Bool} (escaped : allowed '%' = false)
    (s t : List Char) : decode (encode allowed s ++ t) = Utf8.encode s ++ decode t := by
  induction s with
  | nil => rfl
  | cons c s ih =>
    rw [encode, List.flatMap_cons, List.append_assoc, ← encode, Utf8.encode_cons,
      List.append_assoc, ← ih]
    unfold encodeChar
    split
    · next shown =>
      have hc : c ≠ '%' := by
        rintro rfl
        simp [escaped] at shown
      exact decode_cons_of_ne hc _
    · exact decode_flatMap_escapeByte _ _

end Percent

end SecretTemplate.Text
