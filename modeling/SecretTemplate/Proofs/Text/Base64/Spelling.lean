import Mathlib.Data.Nat.Digits.Defs
import SecretTemplate.Text.Base64

/-!
# Base64 as a notation for numbers

Base64 writes bytes as one number. The bytes are its digits to the base 256, the symbols are its
digits to the base 64. Since six bits do not divide eight, one or two bytes that are left over need
up to four zero bits more, which is two for every padding symbol that fills up the last group.

Results:
1. `bits?_symbol`, `symbol_of_bits?`: symbols and their bits are each other's inverse.
2. `Spells.unique`: bytes have one spelling.
3. `isGroup_one`, `isGroup_two`, `isGroup_three`: decoding takes what encoding writes for a group.
4. `spells_iff`: the spelling of bytes is what encoding writes.
-/

namespace SecretTemplate.Text.Base64

/-! ## The alphabet -/

/-- A symbol stands for its six bits. -/
theorem bits?_symbol {n : Nat} (h : n < 64) : bits? (symbol n) = some n := by
  have all : ∀ m < 64, bits? (symbol m) = some m := by decide
  exact all n h

/-- Only the symbol of six bits stands for them. -/
theorem symbol_of_bits? {b : UInt8} {n : Nat} (h : bits? b = some n) : n < 64 ∧ symbol n = b := by
  have back {m : Nat} (hm : m = b.toNat) : UInt8.ofNat m = b := by rw [hm, UInt8.ofNat_toNat]
  simp only [bits?] at h
  unfold symbol
  split_ifs at h with upper lower digit plus slash <;> cases h
  · exact ⟨by omega, by rw [if_pos (by omega)]; exact back (by omega)⟩
  · exact ⟨by omega, by rw [if_neg (by omega), if_pos (by omega)]; exact back (by omega)⟩
  · exact ⟨by omega, by
      rw [if_neg (by omega), if_neg (by omega), if_pos (by omega)]; exact back (by omega)⟩
  · exact ⟨by decide, back plus.symm⟩
  · exact ⟨by decide, back slash.symm⟩

/-- A symbol of the alphabet. -/
def IsSymbol (b : UInt8) : Prop :=
  ∃ n < 64, symbol n = b

example : (List.range 64).map (fun n => Char.ofNat (symbol n).toNat) =
    "ABCDEFGHIJKLMNOPQRSTUVWXYZabcdefghijklmnopqrstuvwxyz0123456789+/".toList := by decide

theorem bits?_eq_none_iff {b : UInt8} : bits? b = none ↔ ¬IsSymbol b := by
  constructor
  · rintro h ⟨n, small, rfl⟩
    rw [bits?_symbol small] at h
    cases h
  · intro h
    cases hb : bits? b with
    | none => rfl
    | some n => exact absurd ⟨n, symbol_of_bits? hb⟩ h

instance (b : UInt8) : Decidable (IsSymbol b) :=
  decidable_of_iff (bits? b ≠ none) (by rw [ne_eq, bits?_eq_none_iff, not_not])

theorem isSymbol_of_mem_map {digits : List Nat} (small : ∀ d ∈ digits, d < 64) :
    ∀ b ∈ digits.map symbol, IsSymbol b := by
  rw [List.forall_mem_map]
  exact fun d hd => ⟨d, small d hd, rfl⟩

theorem pad_not_mem_map {digits : List Nat} (small : ∀ d ∈ digits, d < 64) :
    pad ∉ digits.map symbol := fun h =>
  absurd (isSymbol_of_mem_map small pad h) (by decide)

/-! ## Spelling -/

/-- The number that digits write, the most significant first. -/
def number (base : Nat) (digits : List Nat) : Nat :=
  Nat.ofDigits base digits.reverse

theorem number_append (base : Nat) (front back : List Nat) :
    number base (front ++ back) = number base front * base ^ back.length + number base back := by
  rw [number, List.reverse_append, Nat.ofDigits_append, List.length_reverse, ← number, ← number]
  ring

/-- Digits of one length that write one number are the same. -/
theorem eq_of_number {base : Nat} (h : 1 < base) {xs ys : List Nat} (len : xs.length = ys.length)
    (hx : ∀ d ∈ xs, d < base) (hy : ∀ d ∈ ys, d < base) (same : number base xs = number base ys) :
    xs = ys := by
  refine List.reverse_inj.1 (Nat.ofDigits_inj_of_len_eq h (by simpa using len) ?_ ?_ same)
  · exact fun d hd => hx d (List.mem_reverse.1 hd)
  · exact fun d hd => hy d (List.mem_reverse.1 hd)

/-- A text spells bytes when it consists of symbols and of padding that fills up the last group of
four, and the symbols, as digits to the base 64, write the number that the bytes write to the base
256, with two zero bits more for every padding symbol. -/
def Spells (text bytes : List UInt8) : Prop :=
  ∃ digits padding, (∀ d ∈ digits, d < 64) ∧ padding < 3 ∧
    text = digits.map symbol ++ List.replicate padding pad ∧
    3 * text.length = 4 * (bytes.length + padding) ∧
    number 64 digits = number 256 (bytes.map UInt8.toNat) * 4 ^ padding

/-- Bytes have one spelling. -/
theorem Spells.unique {x y bytes : List UInt8} (hx : Spells x bytes) (hy : Spells y bytes) :
    x = y := by
  obtain ⟨ds, k, smallD, fewK, rfl, lenD, valueD⟩ := hx
  obtain ⟨es, j, smallE, fewJ, rfl, lenE, valueE⟩ := hy
  simp only [List.length_append, List.length_map, List.length_replicate] at lenD lenE
  obtain rfl : k = j := by omega
  rw [eq_of_number (by decide) (by omega) smallD smallE (valueD.trans valueE.symm)]

/-- Nothing spells nothing. -/
theorem spells_nil : Spells [] [] :=
  ⟨[], 0, by simp, by decide, rfl, rfl, rfl⟩

/-- Spellings one after the other spell one after the other, if only the last is padded. -/
theorem Spells.append {front back first others : List UInt8} (hf : Spells front first)
    (full : pad ∉ front) (hb : Spells back others) : Spells (front ++ back) (first ++ others) := by
  obtain ⟨ds, k, smallD, -, rfl, lenD, valueD⟩ := hf
  obtain ⟨es, j, smallE, few, rfl, lenE, valueE⟩ := hb
  obtain rfl : k = 0 := by
    by_contra padded
    exact full (List.mem_append_right _ (List.mem_replicate.2 ⟨padded, rfl⟩))
  simp only [List.replicate_zero, List.append_nil, List.length_append, List.length_map,
    List.length_replicate, Nat.pow_zero, Nat.mul_one] at lenD lenE valueD ⊢
  -- `front` has no padding, so what stands behind moves its digits by as many bits in both bases.
  have shift : 64 ^ es.length = 256 ^ others.length * 4 ^ j := by
    rw [show 64 = 2 ^ 6 from rfl, show 256 = 2 ^ 8 from rfl, show 4 = 2 ^ 2 from rfl, ← pow_mul,
      ← pow_mul, ← pow_mul, ← pow_add, show 6 * es.length = 8 * others.length + 2 * j by omega]
  refine ⟨ds ++ es, j, ?_, few, by simp, by simp; omega, ?_⟩
  · exact fun d hd => (List.mem_append.1 hd).elim (smallD d) (smallE d)
  · rw [List.map_append, number_append, number_append, valueD, valueE, List.length_map, shift]
    ring

/-! ## Groups -/

/-- A last group that is closed spells its bytes. -/
theorem spells_of_closeGroup {offset : Nat} {symbols bytes : List UInt8} {digits : List Nat}
    (small : ∀ d ∈ digits, d < 64) (h : closeGroup offset symbols digits = .ok bytes) :
    Spells (digits.map symbol ++ List.replicate (4 - digits.length) pad) bytes := by
  unfold closeGroup at h
  split at h
  · next p q =>
    simp only [List.forall_mem_cons] at small
    split at h
    · cases h
      refine ⟨[p, q], 2, by simp [small], by decide, rfl, rfl, ?_⟩
      simp [number, Nat.ofDigits]
      omega
    · cases h
  · next p q r =>
    simp only [List.forall_mem_cons] at small
    dsimp only at h
    split at h
    · cases h
      refine ⟨[p, q, r], 1, by simp [small], by decide, rfl, rfl, ?_⟩
      simp [number, Nat.ofDigits]
      omega
    · cases h
  · next p q r s =>
    simp only [List.forall_mem_cons] at small
    cases h
    refine ⟨[p, q, r, s], 0, by simp [small], by decide, rfl, rfl, ?_⟩
    simp [number, Nat.ofDigits]
    omega
  · cases h

/-- Digits that encoding writes for one to three bytes, and that decoding takes for them. -/
structure IsGroup (digits : List Nat) (bytes : List UInt8) : Prop where
  small : ∀ d ∈ digits, d < 64
  length_eq : digits.length = bytes.length + 1
  encode_eq : encode bytes = digits.map symbol ++ List.replicate (3 - bytes.length) pad
  closeGroup_eq : ∀ offset symbols, closeGroup offset symbols digits = .ok bytes

theorem isGroup_one (a : UInt8) : ∃ digits, IsGroup digits [a] := by
  generalize hn : a.toNat * 16 = n
  have ha := a.toNat_lt
  refine ⟨[n / 64, n % 64], by simp; omega, rfl, by rw [encode, hn]; rfl, fun offset symbols => ?_⟩
  have whole : (n / 64 * 64 + n % 64) / 16 = a.toNat := by omega
  rw [closeGroup, if_pos (by omega), whole, UInt8.ofNat_toNat]

theorem isGroup_two (a b : UInt8) : ∃ digits, IsGroup digits [a, b] := by
  generalize hn : (a.toNat * 256 + b.toNat) * 4 = n
  have ha := a.toNat_lt
  have hb := b.toNat_lt
  refine ⟨[n / 4096, n / 64 % 64, n % 64], by simp; omega, rfl, by rw [encode, hn]; rfl,
    fun offset symbols => ?_⟩
  have whole : (n / 4096 * 64 + n / 64 % 64) * 64 + n % 64 = n := by omega
  have first : n / 1024 = a.toNat := by omega
  have second : n / 4 % 256 = b.toNat := by omega
  rw [closeGroup, whole, if_pos (by omega), first, second, UInt8.ofNat_toNat, UInt8.ofNat_toNat]

theorem isGroup_three (a b c : UInt8) : ∃ digits, IsGroup digits [a, b, c] := by
  generalize hn : (a.toNat * 256 + b.toNat) * 256 + c.toNat = n
  have ha := a.toNat_lt
  have hb := b.toNat_lt
  have hc := c.toNat_lt
  refine ⟨[n / 262144, n / 4096 % 64, n / 64 % 64, n % 64], by simp; omega, rfl,
    by rw [encode, hn]; rfl, fun offset symbols => ?_⟩
  have whole : ((n / 262144 * 64 + n / 4096 % 64) * 64 + n / 64 % 64) * 64 + n % 64 = n := by
    omega
  have first : n / 65536 = a.toNat := by omega
  have second : n / 256 % 256 = b.toNat := by omega
  have third : n % 256 = c.toNat := by omega
  rw [closeGroup, whole, first, second, third, UInt8.ofNat_toNat, UInt8.ofNat_toNat,
    UInt8.ofNat_toNat]

/-- What encoding writes for a group spells the group. -/
theorem IsGroup.spells {digits : List Nat} {bytes : List UInt8} (h : IsGroup digits bytes) :
    Spells (encode bytes) bytes := by
  have closed := spells_of_closeGroup h.small (h.closeGroup_eq 0 [])
  rwa [h.length_eq, show 4 - (bytes.length + 1) = 3 - bytes.length by omega, ← h.encode_eq]
    at closed

theorem spells_encode (bytes : List UInt8) : Spells (encode bytes) bytes := by
  fun_induction encode bytes with
  | case1 => exact spells_nil
  | case2 a n =>
    obtain ⟨_, group⟩ := isGroup_one a
    exact group.spells
  | case3 a b n =>
    obtain ⟨_, group⟩ := isGroup_two a b
    exact group.spells
  | case4 a b c rest n ih =>
    obtain ⟨_, group⟩ := isGroup_three a b c
    exact group.spells.append (group.encode_eq ▸ by simpa using pad_not_mem_map group.small) ih

/-- The spelling of bytes is what encoding writes. -/
theorem spells_iff {text bytes : List UInt8} : Spells text bytes ↔ text = encode bytes :=
  ⟨fun h => h.unique (spells_encode bytes), fun h => h ▸ spells_encode bytes⟩

/-- Encoded bytes are in ASCII. -/
theorem toNat_lt_of_mem_encode {b : UInt8} {bytes : List UInt8} (h : b ∈ encode bytes) :
    b.toNat < 0x80 := by
  obtain ⟨digits, padding, small, -, whole, -⟩ := spells_encode bytes
  rw [whole, List.mem_append] at h
  rcases h with h | h
  · have all : ∀ n < 64, (symbol n).toNat < 0x80 := by decide
    obtain ⟨n, hn, rfl⟩ := isSymbol_of_mem_map small b h
    exact all n hn
  · rw [List.eq_of_mem_replicate h]
    decide

theorem encode_ne_nil {bytes : List UInt8} (h : bytes ≠ []) : encode bytes ≠ [] := by
  obtain ⟨_, _, -, -, -, len, -⟩ := spells_encode bytes
  have := List.length_pos_iff.2 h
  exact List.ne_nil_of_length_pos (by omega)

end SecretTemplate.Text.Base64
