import SecretTemplate.Proofs.Text.Base64.Spelling

/-!
# What decoding accepts, and where it points otherwise

Decoding goes through a text in groups of four. Every group is read symbol by symbol, so that a
fault names the first symbol of its group that is out of place. The groups before it are read
already. There is one exception: a foreign byte that stands alone behind full groups is reported
before anything else is read.

Results:
1. `decode_eq_ok_iff`: a text is decoded exactly if it is the spelling of some bytes.
2. `decode_of_endsAstray`: a last byte that is astray is reported, whatever stands before it.
3. `marks_of_decode`: otherwise the symbol that is reported is the first that is out of place.
-/

namespace SecretTemplate.Text.Base64

/-! ## Symbols -/

theorem readSymbols_map {digits : List Nat} (small : ∀ d ∈ digits, d < 64) (offset : Nat) :
    readSymbols offset (digits.map symbol) = .ok digits := by
  induction digits generalizing offset with
  | nil => rfl
  | cons d ds ih =>
    rw [List.forall_mem_cons] at small
    rw [List.map_cons, readSymbols, bits?_symbol small.1]
    simp only [ih small.2]
    rfl

/-- Symbols that are read are those of their bits. -/
theorem of_readSymbols {offset : Nat} {text : List UInt8} {digits : List Nat}
    (h : readSymbols offset text = .ok digits) :
    (∀ d ∈ digits, d < 64) ∧ digits.map symbol = text := by
  induction text generalizing offset digits with
  | nil => cases h; simp
  | cons b bs ih =>
    rw [readSymbols] at h
    cases hb : bits? b with
    | none => simp [hb] at h
    | some n =>
      cases hr : readSymbols (offset + 1) bs with
      | error fault => simp [hb, hr, Except.map] at h
      | ok ns =>
        obtain ⟨small, rfl⟩ := ih hr
        obtain ⟨lt, rfl⟩ := symbol_of_bits? hb
        simp only [hb, hr, Except.map, Except.ok.injEq] at h
        subst h
        exact ⟨List.forall_mem_cons.2 ⟨lt, small⟩, rfl⟩

/-- The first symbol that is not in the alphabet ends the reading. -/
theorem of_readSymbols_error {offset : Nat} {text : List UInt8} {fault : Fault}
    (h : readSymbols offset text = .error fault) :
    ∃ front b back, text = front ++ b :: back ∧ (∀ c ∈ front, IsSymbol c) ∧ ¬IsSymbol b ∧
      fault = .invalidByte (offset + front.length) b := by
  induction text generalizing offset with
  | nil => cases h
  | cons b bs ih =>
    rw [readSymbols] at h
    cases hb : bits? b with
    | none =>
      simp only [hb, Except.error.injEq] at h
      exact ⟨[], b, bs, rfl, by simp, bits?_eq_none_iff.1 hb, h.symm⟩
    | some n =>
      cases hr : readSymbols (offset + 1) bs with
      | ok ns => simp [hb, hr, Except.map] at h
      | error cause =>
        simp only [hb, hr, Except.map, Except.error.injEq] at h
        subst h
        obtain ⟨front, c, back, rfl, inside, outside, rfl⟩ := ih hr
        refine ⟨b :: front, c, back, rfl, ?_, outside, by simp; omega⟩
        exact List.forall_mem_cons.2 ⟨⟨n, symbol_of_bits? hb⟩, inside⟩

/-! ## Groups -/

/-- The last group, by its symbols and by what fills it up. -/
theorem decodeLast_append {digits : List Nat} {filling : List UInt8}
    (small : ∀ d ∈ digits, d < 64) (fill : ∀ b ∈ filling.head?, b = pad) (offset : Nat) :
    decodeLast offset (digits.map symbol ++ filling) =
      if filling ≠ [] ∧ (digits.length < 2 ∨ filling.any (· != pad)) then
        .error (.invalidByte (offset + digits.length) pad)
      else if digits.length < 2 then .error (.invalidLength (offset + digits.length))
      else if digits.length + filling.length ≠ 4 then .error .invalidPadding
      else closeGroup offset (digits.map symbol) digits := by
  have plain : ∀ b ∈ digits.map symbol, (b != pad) = true := by
    intro b hb
    rw [bne_iff_ne]
    rintro rfl
    exact pad_not_mem_map small hb
  have stop : filling.takeWhile (· != pad) = [] ∧ filling.dropWhile (· != pad) = filling := by
    cases filling with
    | nil => exact ⟨rfl, rfl⟩
    | cons b bs =>
      obtain rfl : b = pad := fill b rfl
      exact ⟨rfl, rfl⟩
  have taken : (digits.map symbol ++ filling).takeWhile (· != pad) = digits.map symbol := by
    rw [List.takeWhile_append_of_pos plain, stop.1, List.append_nil]
  have left : (digits.map symbol ++ filling).dropWhile (· != pad) = filling := by
    rw [List.dropWhile_append_of_pos plain, stop.2]
  simp only [decodeLast, taken, left, readSymbols_map small, List.length_append, List.length_map]
  split_ifs <;> rfl

/-- A group has symbols up to its first padding symbol, if all of them are in the alphabet. -/
theorem exists_split (group : List UInt8) (offset : Nat) :
    (∃ (digits : List Nat) (filling : List UInt8), (∀ d ∈ digits, d < 64) ∧
      (∀ b ∈ filling.head?, b = pad) ∧ group = digits.map symbol ++ filling) ∨
    ∃ front b back, group = front ++ b :: back ∧ (∀ c ∈ front, IsSymbol c) ∧ ¬IsSymbol b ∧
      decodeLast offset group = .error (.invalidByte (offset + front.length) b) := by
  cases hr : readSymbols offset (group.takeWhile (· != pad)) with
  | ok digits =>
    obtain ⟨small, whole⟩ := of_readSymbols hr
    refine .inl ⟨digits, group.dropWhile (· != pad), small, fun b hb => ?_, ?_⟩
    · have := List.head?_dropWhile_not (· != pad) group
      simpa [Option.mem_def.1 hb] using this
    · rw [whole, List.takeWhile_append_dropWhile]
  | error fault =>
    obtain ⟨front, b, back, whole, inside, outside, rfl⟩ := of_readSymbols_error hr
    refine .inr ⟨front, b, back ++ group.dropWhile (· != pad), ?_, inside, outside, ?_⟩
    · rw [← List.cons_append, ← List.append_assoc, ← whole, List.takeWhile_append_dropWhile]
    · simp only [decodeLast, hr]
      rfl

/-- The symbol that a fault names, if it names one, stands where the fault says, in a text behind
`offset` bytes, and nothing but symbols of the alphabet stands before it in that text. -/
def Fault.Marks (offset : Nat) (text : List UInt8) : Fault → Prop
  | invalidByte i b | invalidLastSymbol i b =>
    ∃ front back, text = front ++ b :: back ∧ i = offset + front.length ∧ ∀ c ∈ front, IsSymbol c
  | invalidLength _ | invalidPadding => True

/-- A mark stays where it is when symbols are put in front and bytes behind. -/
theorem Fault.Marks.extend {offset : Nat} {text : List UInt8} {fault : Fault}
    (front back : List UInt8) (inside : ∀ c ∈ front, IsSymbol c)
    (h : fault.Marks (offset + front.length) text) :
    fault.Marks offset (front ++ text ++ back) := by
  have moved {i : Nat} {b : UInt8} (h : ∃ before after, text = before ++ b :: after ∧
      i = offset + front.length + before.length ∧ ∀ c ∈ before, IsSymbol c) :
      ∃ before after, front ++ text ++ back = before ++ b :: after ∧
        i = offset + before.length ∧ ∀ c ∈ before, IsSymbol c := by
    obtain ⟨before, after, rfl, rfl, symbols⟩ := h
    refine ⟨front ++ before, after ++ back, by simp, by simp [Nat.add_assoc], fun c hc => ?_⟩
    exact (List.mem_append.1 hc).elim (inside c) (symbols c)
  cases fault with
  | invalidByte i b => exact moved h
  | invalidLastSymbol i b => exact moved h
  | invalidLength n => trivial
  | invalidPadding => trivial

theorem marks_of_closeGroup {offset : Nat} {digits : List Nat} {fault : Fault}
    (small : ∀ d ∈ digits, d < 64)
    (h : closeGroup offset (digits.map symbol) digits = .error fault) :
    fault.Marks offset (digits.map symbol) := by
  unfold closeGroup at h
  split at h
  · next p q =>
    split at h
    · cases h
    · cases h
      refine ⟨[symbol p], [], rfl, rfl, fun c hc => ?_⟩
      exact isSymbol_of_mem_map small c (List.mem_append_left [symbol q] hc)
  · next p q r =>
    dsimp only at h
    split at h
    · cases h
    · cases h
      refine ⟨[symbol p, symbol q], [], rfl, rfl, fun c hc => ?_⟩
      exact isSymbol_of_mem_map small c (List.mem_append_left [symbol r] hc)
  · cases h
  · cases h
    trivial

theorem spells_of_decodeLast {offset : Nat} {group bytes : List UInt8}
    (h : decodeLast offset group = .ok bytes) : Spells group bytes := by
  rcases exists_split group offset with
    ⟨digits, filling, small, fill, rfl⟩ | ⟨_, _, _, _, _, _, failed⟩
  · rw [decodeLast_append small fill] at h
    split_ifs at h with misplaced few size
    have padded : filling = List.replicate (4 - digits.length) pad := by
      rw [List.eq_replicate_iff]
      refine ⟨by omega, fun b hb => ?_⟩
      by_contra other
      refine misplaced ⟨List.ne_nil_of_mem hb, .inr (List.any_eq_true.2 ⟨b, hb, ?_⟩)⟩
      exact bne_iff_ne.2 other
    rw [padded]
    exact spells_of_closeGroup small h
  · rw [failed] at h
    cases h

theorem marks_of_decodeLast {offset : Nat} {group : List UInt8} {fault : Fault}
    (h : decodeLast offset group = .error fault) : fault.Marks offset group := by
  rcases exists_split group offset with
    ⟨digits, filling, small, fill, rfl⟩ | ⟨front, b, back, rfl, inside, _, failed⟩
  · rw [decodeLast_append small fill] at h
    have inside := isSymbol_of_mem_map small
    split_ifs at h with misplaced few size
    · cases h
      obtain ⟨b, back, rfl⟩ := List.exists_cons_of_ne_nil misplaced.1
      obtain rfl : b = pad := fill b rfl
      exact ⟨digits.map symbol, back, rfl, by simp, inside⟩
    · cases h
      trivial
    · cases h
      trivial
    · exact (marks_of_closeGroup small h).extend [] filling (by simp)
  · rw [failed] at h
    cases h
    exact ⟨front, back, rfl, rfl, inside⟩

theorem bind_eq_ok {α β : Type} {x : Except Fault α} {f : α → Except Fault β} {b : β}
    (h : (x >>= f) = .ok b) : ∃ a, x = .ok a ∧ f a = .ok b := by
  cases x with
  | error fault => cases h
  | ok a => exact ⟨a, rfl, h⟩

theorem bind_eq_error {α β : Type} {x : Except Fault α} {f : α → Except Fault β} {fault : Fault}
    (h : (x >>= f) = .error fault) : x = .error fault ∨ ∃ a, x = .ok a ∧ f a = .error fault := by
  cases x with
  | error cause => exact .inl (by cases h; rfl)
  | ok a => exact .inr ⟨a, rfl, h⟩

theorem spells_of_decodeGroups {offset : Nat} {text bytes : List UInt8}
    (h : decodeGroups offset text = .ok bytes) : Spells text bytes := by
  fun_induction decodeGroups offset text generalizing bytes with
  | case1 offset a b c d e rest ih =>
    obtain ⟨first, hf, h⟩ := bind_eq_ok h
    obtain ⟨digits, hr, hc⟩ := bind_eq_ok hf
    obtain ⟨others, ho, h⟩ := bind_eq_ok h
    cases h
    obtain ⟨small, whole⟩ := of_readSymbols hr
    have four : digits.length = 4 := by simpa using congrArg List.length whole
    -- A group in front of others is all symbols, so it is closed without padding.
    have closed : Spells [a, b, c, d] first := by
      simpa [four, whole] using spells_of_closeGroup small hc
    exact closed.append (whole ▸ pad_not_mem_map small) (ih ho)
  | case2 offset =>
    cases h
    exact spells_nil
  | case3 offset group _ _ => exact spells_of_decodeLast h

theorem marks_of_decodeGroups {offset : Nat} {text : List UInt8} {fault : Fault}
    (h : decodeGroups offset text = .error fault) : fault.Marks offset text := by
  fun_induction decodeGroups offset text with
  | case1 offset a b c d e rest ih =>
    -- The fault lies in the first group, or behind it, and then the first group has been read.
    rcases bind_eq_error h with hf | ⟨first, hf, h⟩
    · have here : fault.Marks offset [a, b, c, d] := by
        rcases bind_eq_error hf with hr | ⟨digits, hr, hc⟩
        · obtain ⟨front, x, back, whole, inside, -, rfl⟩ := of_readSymbols_error hr
          exact ⟨front, back, whole, rfl, inside⟩
        · obtain ⟨small, whole⟩ := of_readSymbols hr
          rw [← whole] at hc ⊢
          exact marks_of_closeGroup small hc
      exact here.extend [] (e :: rest) (by simp)
    · rcases bind_eq_error h with ho | ⟨others, ho, h⟩
      · obtain ⟨digits, hr, -⟩ := bind_eq_ok hf
        obtain ⟨small, whole⟩ := of_readSymbols hr
        have inside : ∀ x ∈ [a, b, c, d], IsSymbol x := by
          rw [← whole]
          exact isSymbol_of_mem_map small
        have behind : fault.Marks offset ([a, b, c, d] ++ (e :: rest) ++ []) :=
          (ih ho).extend [a, b, c, d] [] inside
        rwa [List.append_nil] at behind
      · cases h
  | case2 offset => cases h
  | case3 offset group _ _ => exact marks_of_decodeLast h

theorem decodeGroups_of_length_le {group : List UInt8} (short : group.length ≤ 4)
    (ne : group ≠ []) (offset : Nat) : decodeGroups offset group = decodeLast offset group := by
  match group with
  | [_] | [_, _] | [_, _, _] | [_, _, _, _] => rfl

/-- The last group of a spelling is decoded. -/
theorem IsGroup.decodeGroups_encode {digits : List Nat} {bytes : List UInt8}
    (h : IsGroup digits bytes) (ne : bytes ≠ []) (short : bytes.length ≤ 3) (offset : Nat) :
    decodeGroups offset (encode bytes) = .ok bytes := by
  have some : 0 < bytes.length := List.length_pos_iff.2 ne
  have four : (encode bytes).length = 4 := by
    rw [h.encode_eq, List.length_append, List.length_map, List.length_replicate, h.length_eq]
    omega
  have padded : (List.replicate (3 - bytes.length) pad).any (· != pad) = false := by
    rw [List.any_eq_false]
    intro b hb
    rw [List.eq_of_mem_replicate hb]
    decide
  have inPlace := not_or.2 ⟨(by omega : ¬bytes.length + 1 < 2), ne_true_of_eq_false padded⟩
  rw [decodeGroups_of_length_le four.le (List.ne_nil_of_length_pos (by omega)), h.encode_eq,
    decodeLast_append h.small (fun b hb => List.eq_of_mem_replicate (List.mem_of_mem_head? hb)),
    h.length_eq, List.length_replicate, if_neg fun misplaced => inPlace misplaced.2,
    if_neg (by omega), if_neg (by omega), h.closeGroup_eq]

/-- A full group in front of others is decoded. -/
theorem IsGroup.decodeGroups_append {digits : List Nat} {first text : List UInt8}
    (h : IsGroup digits first) (full : first.length = 3) (ne : text ≠ []) (offset : Nat) :
    decodeGroups offset (encode first ++ text) =
      (decodeGroups (offset + 4) text).map (first ++ ·) := by
  obtain ⟨e, rest, rfl⟩ := List.exists_cons_of_ne_nil ne
  have four : digits.length = 4 := by rw [h.length_eq, full]
  obtain ⟨p, q, r, s, rfl⟩ : ∃ p q r s, digits = [p, q, r, s] := by
    match digits, four with
    | [p, q, r, s], _ => exact ⟨p, q, r, s, rfl⟩
  have read := readSymbols_map h.small offset
  have close := h.closeGroup_eq offset ([p, q, r, s].map symbol)
  rw [h.encode_eq, full]
  simp only [List.map_cons, List.map_nil] at read close ⊢
  change decodeGroups offset (_ :: _ :: _ :: _ :: _ :: _) = _
  rw [decodeGroups, read]
  simp only [bind, Except.bind, close]
  cases decodeGroups (offset + 4) (e :: rest) <;> rfl

theorem decodeGroups_encode (bytes : List UInt8) (offset : Nat) :
    decodeGroups offset (encode bytes) = .ok bytes := by
  fun_induction encode bytes generalizing offset with
  | case1 => rfl
  | case2 a n =>
    obtain ⟨_, group⟩ := isGroup_one a
    exact group.decodeGroups_encode (by simp) (by simp) offset
  | case3 a b n =>
    obtain ⟨_, group⟩ := isGroup_two a b
    exact group.decodeGroups_encode (by simp) (by simp) offset
  | case4 a b c rest n ih =>
    obtain ⟨_, group⟩ := isGroup_three a b c
    change decodeGroups offset (encode [a, b, c] ++ encode rest) = _
    by_cases last : rest = []
    · subst last
      exact group.decodeGroups_encode (by simp) (by simp) offset
    · rw [group.decodeGroups_append rfl (encode_ne_nil last), ih]
      rfl

/-- A text whose last byte stands alone behind full groups and is neither a symbol nor padding. -/
def EndsAstray (text : List UInt8) : Prop :=
  text.length % 4 = 1 ∧ ∃ last ∈ text.getLast?, last ≠ pad ∧ ¬IsSymbol last

/-- A last byte that is astray is reported, whatever stands before it. -/
theorem decode_of_endsAstray {text : List UInt8} (h : EndsAstray text) :
    ∃ front last, text = front ++ [last] ∧
      decode text = .error (.invalidByte front.length last) := by
  obtain ⟨alone, last, hl, notPad, outside⟩ := h
  obtain ⟨front, rfl⟩ := List.getLast?_eq_some_iff.1 hl
  refine ⟨front, last, rfl, ?_⟩
  simp only [decode, Option.mem_def.1 hl]
  rw [if_pos ⟨alone, notPad, bits?_eq_none_iff.2 outside⟩, List.length_append,
    List.length_singleton, Nat.add_sub_cancel]

/-- All other texts are decoded group by group. -/
theorem decode_of_not_endsAstray {text : List UInt8} (h : ¬EndsAstray text) :
    decode text = decodeGroups 0 text := by
  rw [decode]
  cases hl : text.getLast? with
  | none =>
    rw [List.getLast?_eq_none_iff.1 hl]
    rfl
  | some last =>
    refine if_neg fun ⟨alone, notPad, outside⟩ => h ⟨alone, last, hl, notPad, ?_⟩
    exact bits?_eq_none_iff.1 outside

theorem not_endsAstray_encode (bytes : List UInt8) : ¬EndsAstray (encode bytes) := by
  obtain ⟨_, _, -, -, -, len, -⟩ := spells_encode bytes
  rintro ⟨alone, -⟩
  omega

/-- A text is decoded exactly if it is the spelling of some bytes, and then to these. -/
theorem decode_eq_ok_iff {text bytes : List UInt8} :
    decode text = .ok bytes ↔ text = encode bytes := by
  constructor
  · intro h
    have grouped : ¬EndsAstray text := by
      intro astray
      obtain ⟨_, _, -, failed⟩ := decode_of_endsAstray astray
      rw [failed] at h
      cases h
    rw [decode_of_not_endsAstray grouped] at h
    exact spells_iff.1 (spells_of_decodeGroups h)
  · rintro rfl
    rw [decode_of_not_endsAstray (not_endsAstray_encode bytes), decodeGroups_encode]

/-- In all other texts the fault points to the first symbol that is out of place. -/
theorem marks_of_decode {text : List UInt8} {fault : Fault} (h : decode text = .error fault)
    (grouped : ¬EndsAstray text) : fault.Marks 0 text :=
  marks_of_decodeGroups (decode_of_not_endsAstray grouped ▸ h)

end SecretTemplate.Text.Base64
