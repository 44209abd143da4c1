import SecretTemplate.Proofs.Text.Base64.Decoding
import SecretTemplate.Proofs.Text.Bytes
import SecretTemplate.Transform

/-!
# The base64 transformations

Encoding takes the bytes of a text, and its result is a text in ASCII. So a text is its own bytes on
that side, and decoding undoes encoding not only for bytes but for texts: nothing else decodes to a
text than the one spelling of its bytes.

Results:
1. `encodeString_toBase64`: the bytes of an encoded text are the spelling of the text's bytes.
2. `fromBase64_eq_ok_iff`: a text decodes to another exactly if it is that one, encoded.
3. `base64Decode_iff_base64`: the transformations are inverse, and what relates their texts.
4. `pointed_of_base64Decode`: where a failed decoding points.
-/

namespace SecretTemplate

open Text

namespace Transformation

theorem applyNamed_name (t : Transformation) (s : String) : applyNamed t.name s = t.apply s := by
  rw [applyNamed, ofName, ofName?_name]
  rfl

/-- The bytes of an encoded text are the spelling of the text's bytes. -/
theorem encodeString_toBase64 (s : String) :
    Utf8.encodeString (toBase64 s) = Base64.encode (Utf8.encodeString s) := by
  rw [toBase64, Utf8.encodeString, String.toList_ofList]
  exact Utf8.encode_map_ofNat fun _ => Base64.toNat_lt_of_mem_encode

/-- A text decodes to another exactly if it is that one, encoded. -/
theorem fromBase64_eq_ok_iff {s t : String} : fromBase64 s = .ok t ↔ s = toBase64 t := by
  rw [← Utf8.encodeString_inj, encodeString_toBase64, ← Base64.decode_eq_ok_iff, fromBase64]
  cases Base64.decode (Utf8.encodeString s) with
  | error fault => simp
  | ok bytes =>
    rw [Except.ok.injEq, ← Utf8.decodeString_eq_ok_iff]
    dsimp only
    cases Utf8.decodeString bytes <;> simp

/-- Decoding and encoding are inverse: a text decodes to another exactly if this one is encoded to
it. Their bytes are then related as base64 relates them, so that nothing but the one spelling of a
text decodes to it. -/
theorem base64Decode_iff_base64 (s t : String) :
    (applyNamed "base64d" s = .ok t ↔ applyNamed "base64" t = .ok s) ∧
      (applyNamed "base64" t = .ok s ↔
        Base64.Spells (Utf8.encodeString s) (Utf8.encodeString t)) := by
  have decoded : applyNamed "base64d" s = fromBase64 s := applyNamed_name .base64Decode s
  have encoded : applyNamed "base64" t = .ok (toBase64 t) := applyNamed_name .base64 t
  rw [decoded, encoded, fromBase64_eq_ok_iff, Except.ok.injEq, Base64.spells_iff,
    ← encodeString_toBase64, Utf8.encodeString_inj]
  exact ⟨eq_comm, eq_comm⟩

/-- A decoding that fails for its symbols does so for one of them. -/
theorem decode_of_base64Decode {s : String} {cause : Error} {n : Nat}
    (failed : applyNamed "base64d" s = .error cause) (pointed : cause.offset? = some n) :
    ∃ byte fault, Base64.decode (Utf8.encodeString s) = .error fault ∧ cause = .decode fault ∧
      (fault = .invalidByte n byte ∨ fault = .invalidLastSymbol n byte) := by
  obtain ⟨byte, h⟩ := Error.offset?_eq_some_iff.1 pointed
  have decoded : fromBase64 s = .error cause :=
    (applyNamed_name .base64Decode s).symm.trans failed
  unfold fromBase64 at decoded
  split at decoded
  · next fault hd =>
    cases decoded
    refine ⟨byte, fault, hd, rfl, ?_⟩
    rcases h with h | h
    · exact .inl (Error.decode.inj h)
    · exact .inr (Error.decode.inj h)
  · split at decoded
    · cases decoded
      rcases h with h | h <;> cases h
    · cases decoded

/-- Where a failed decoding points, it points into the text, and to the symbol that its message
names. This is the first symbol out of place, but for one case: if the last byte is astray, that
byte is reported, whatever stands before it. -/
theorem pointed_of_base64Decode {s : String} {cause : Error} {n : Nat}
    (failed : applyNamed "base64d" s = .error cause) (pointed : cause.offset? = some n) :
    ∃ front byte back, Utf8.encodeString s = front ++ byte :: back ∧ front.length = n ∧
      (cause.message = "base64 decode: " ++ s!"Invalid symbol {byte.toNat}, offset {n}." ∨
        cause.message = "base64 decode: " ++ s!"Invalid last symbol {byte.toNat}, offset {n}.") ∧
      (Base64.EndsAstray (Utf8.encodeString s) → back = []) ∧
      (¬Base64.EndsAstray (Utf8.encodeString s) → ∀ b ∈ front, Base64.IsSymbol b) := by
  obtain ⟨byte, fault, hd, rfl, named⟩ := decode_of_base64Decode failed pointed
  have message : (Error.decode fault).message =
        "base64 decode: " ++ s!"Invalid symbol {byte.toNat}, offset {n}." ∨
      (Error.decode fault).message =
        "base64 decode: " ++ s!"Invalid last symbol {byte.toNat}, offset {n}." := by
    rcases named with rfl | rfl
    · exact .inl rfl
    · exact .inr rfl
  by_cases astray : Base64.EndsAstray (Utf8.encodeString s)
  · obtain ⟨front, last, whole, reported⟩ := Base64.decode_of_endsAstray astray
    rw [hd, Except.error.injEq] at reported
    subst reported
    obtain ⟨rfl, rfl⟩ : front.length = n ∧ last = byte := by simpa using named
    exact ⟨front, last, [], whole, rfl, message, fun _ => rfl, fun h => absurd astray h⟩
  · have marked := Base64.marks_of_decode hd astray
    have placed : ∃ front back, Utf8.encodeString s = front ++ byte :: back ∧
        n = 0 + front.length ∧ ∀ c ∈ front, Base64.IsSymbol c := by
      rcases named with rfl | rfl <;> exact marked
    obtain ⟨front, back, whole, rfl, inside⟩ := placed
    exact ⟨front, byte, back, whole, (Nat.zero_add _).symm, message, fun h => absurd h astray,
      fun _ => inside⟩

/-- Padding inside the second group: the symbol reported is the first padding symbol. -/
theorem pointed_of_base64Decode_innerPadding :
    applyNamed "base64d" "QUJDRE=G" = .error (.decode (.invalidByte 6 0x3D)) ∧
      (Error.decode (.invalidByte 6 0x3D)).offset? = some 6 ∧
      ∃ front byte back, Utf8.encodeString "QUJDRE=G" = front ++ byte :: back ∧
        front.length = 6 ∧
        ((Error.decode (.invalidByte 6 0x3D)).message =
            "base64 decode: " ++ s!"Invalid symbol {byte.toNat}, offset {6}." ∨
          (Error.decode (.invalidByte 6 0x3D)).message =
            "base64 decode: " ++ s!"Invalid last symbol {byte.toNat}, offset {6}.") ∧
        (Base64.EndsAstray (Utf8.encodeString "QUJDRE=G") → back = []) ∧
        (¬Base64.EndsAstray (Utf8.encodeString "QUJDRE=G") →
          ∀ b ∈ front, Base64.IsSymbol b) := by
  have failed : applyNamed "base64d" "QUJDRE=G" = .error (.decode (.invalidByte 6 0x3D)) := by cbv
  exact ⟨failed, rfl, pointed_of_base64Decode failed rfl⟩

/-- The symbol that is reported need not be the first out of place: a line break behind a full
group is reported before the exclamation mark at the start. -/
theorem exists_pointed_behind_foreign :
    ∃ s cause n, applyNamed "base64d" s = .error cause ∧ cause.offset? = some n ∧
      ∃ b ∈ (Utf8.encodeString s).take n, ¬Base64.IsSymbol b := by
  refine ⟨"!abc\n", .decode (.invalidByte 4 0x0A), 4, by cbv, rfl, 0x21, ?_, by decide⟩
  decide

end Transformation

end SecretTemplate
