import SecretTemplate.Proofs.Text.Bytes
import SecretTemplate.Url.Parser
import SecretTemplate.Vault.Endpoint

/-!
# Escaped names as segments

A name that is escaped for an endpoint becomes segments of a URL. The escapes hide everything that
has a meaning in a URL, with two exceptions: a backslash separates segments just as a slash does,
and a name of one or two dots says where to go and names nothing.

Results:
1. `splitOnP_encode`: an escaped name falls apart at its backslashes, and nowhere else.
2. `dots?_encode`: an escaped name counts as dots only if the name consists of dots.
3. `writeSegment_encode`: a URL shows an escaped name as it is.
4. `resolveDots_of_named`: where no segment is of dots, the path consists of the segments.
5. `mem_resolveDots`: every segment of a path is empty or one that is not of dots.
-/

namespace SecretTemplate

open Text

namespace Text

section Split

variable {α : Type} {p : α → Bool}

/-- What stands in front of a text without separators belongs to its first piece. -/
theorem splitOnP_append_of_forall {u : List α} (free : ∀ a ∈ u, p a = false) (s : List α) :
    (u ++ s).splitOnP p = (s.splitOnP p).modifyHead (u ++ ·) := by
  induction u with
  | nil => exact (congrFun List.modifyHead_id _).symm
  | cons a u ih =>
    rw [List.forall_mem_cons] at free
    rw [List.cons_append, List.splitOnP_cons_eq_if_modifyHead, if_neg (by simp [free.1]), ih free.2,
      List.modifyHead_modifyHead]
    rfl

/-- Texts with a separator between them fall apart into their own pieces. -/
theorem splitOnP_intercalate {sep : α} (hsep : p sep = true) {texts : List (List α)}
    (ne : texts ≠ []) :
    ([sep].intercalate texts).splitOnP p = texts.flatMap (List.splitOnP p) := by
  induction texts with
  | nil => exact absurd rfl ne
  | cons t texts ih =>
    cases texts with
    | nil => simp
    | cons u texts =>
      rw [List.intercalate_cons_cons, List.append_assoc, List.singleton_append,
        List.splitOnP_append_cons _ _ hsep, ih (List.cons_ne_nil _ _)]
      rfl

end Split

namespace Percent

/-- What holds of every character that an escaped text can show. -/
theorem forall_mem_encode {allowed : Char → Bool} {P : Char → Prop} {s : List Char} (mark : P '%')
    (digit : ∀ n < 16, P (hexDigit n))
    (shown : ∀ c ∈ s, c.toNat < 0x80 → allowed c = true → P c) : ∀ c ∈ encode allowed s, P c := by
  intro c hc
  obtain ⟨a, ha, hc⟩ := List.mem_flatMap.1 hc
  unfold encodeChar at hc
  split at hc
  · next plain =>
    rw [Bool.and_eq_true, decide_eq_true_eq] at plain
    rw [List.mem_singleton.1 hc]
    exact shown a ha plain.1 plain.2
  · obtain ⟨b, -, hc⟩ := List.mem_flatMap.1 hc
    have hb := b.toNat_lt
    simp only [escapeByte, List.mem_cons, List.not_mem_nil, or_false] at hc
    rcases hc with rfl | rfl | rfl
    · exact mark
    · exact digit _ (by omega)
    · exact digit _ (by omega)

/-- A text without anything to escape is its own escaped form. -/
theorem encode_of_allowed {allowed : Char → Bool} {s : List Char}
    (h : ∀ c ∈ s, c.toNat < 0x80 ∧ allowed c = true) : encode allowed s = s := by
  induction s with
  | nil => rfl
  | cons c s ih =>
    rw [List.forall_mem_cons] at h
    rw [encode, List.flatMap_cons, ← encode, ih h.2, encodeChar, if_pos (by simp [h.1])]
    rfl

theorem encode_cons (allowed : Char → Bool) (c : Char) (s : List Char) :
    encode allowed (c :: s) = encodeChar allowed c ++ encode allowed s := rfl

end Percent

end Text

namespace Endpoint

/-! ## Characters of escaped names -/

/-- What escaping leaves of a name. -/
def IsShown (c : Char) : Prop := c = '%' ∨ isPlain c = true

instance : DecidablePred IsShown := fun _ => inferInstanceAs (Decidable (_ ∨ _))

theorem isShown_encode (s : List Char) : ∀ c ∈ Percent.encode isPlain s, IsShown c := by
  have digits : ∀ n : Fin 16, isPlain (Percent.hexDigit n) = true := by decide
  exact Percent.forall_mem_encode (.inl rfl) (fun n hn => .inr (digits ⟨n, hn⟩))
    (fun _ _ _ plain => .inr plain)

theorem IsShown.toNat_lt {c : Char} (h : IsShown c) : c.toNat < 0x80 := by
  rcases h with rfl | h
  · decide
  · simp only [isPlain, Bool.and_eq_true, decide_eq_true_eq] at h
    omega

/-- What holds of all characters in ASCII that are left by escaping holds of all that are left. -/
theorem forall_isShown (P : Char → Prop)
    (h : ∀ n : Fin 0x80, IsShown (Char.ofNat n) → P (Char.ofNat n)) {c : Char} (hc : IsShown c) :
    P c := by
  have at_c := h ⟨c.toNat, hc.toNat_lt⟩
  rw [Char.ofNat_toNat] at at_c
  exact at_c hc

/-- Nothing that is left is escaped, or ends a path, or is dropped from a URL. -/
theorem IsShown.url {c : Char} (h : IsShown c) :
    Url.pathAllows c = true ∧ Url.endsPath c = false ∧ Url.isEdgeBlank c = false ∧
      Url.isDropped c = false ∧ c ≠ '/' := by
  refine forall_isShown (fun c => Url.pathAllows c = true ∧ Url.endsPath c = false ∧
    Url.isEdgeBlank c = false ∧ Url.isDropped c = false ∧ c ≠ '/') ?_ h
  decide

/-! ## Separators -/

/-- Of the characters that separate segments, a backslash is left by escaping. -/
theorem IsShown.isSeparator {c : Char} (h : IsShown c) (hc : c ≠ '\\') :
    Url.isSeparator true c = false := by
  simp [Url.isSeparator, h.url, hc]

/-- Where the name has no backslash, its escaped form has none. -/
theorem backslash_not_mem_encode {s : List Char} (h : '\\' ∉ s) :
    ∀ c ∈ Percent.encode isPlain s, c ≠ '\\' := by
  have digits : ∀ n : Fin 16, Percent.hexDigit n ≠ '\\' := by decide
  refine Percent.forall_mem_encode (by decide) (fun n hn => digits ⟨n, hn⟩) ?_
  rintro c hc - - rfl
  exact h hc

theorem isSeparator_encode {s : List Char} (h : '\\' ∉ s) :
    ∀ c ∈ Percent.encode isPlain s, Url.isSeparator true c = false :=
  fun c hc => (isShown_encode s c hc).isSeparator (backslash_not_mem_encode h c hc)

/-- An escaped name falls apart at its backslashes, and nowhere else. -/
theorem splitOnP_encode (s : List Char) :
    (Percent.encode isPlain s).splitOnP (Url.isSeparator true) =
      (s.splitOn '\\').map (Percent.encode isPlain) := by
  induction s with
  | nil => rfl
  | cons c s ih =>
    obtain ⟨t, ts, ht⟩ := List.exists_cons_of_ne_nil (List.splitOn_ne_nil '\\' s)
    rw [Percent.encode_cons, List.splitOn_cons_eq_if_modifyHead]
    by_cases hc : c = '\\'
    · have written : Percent.encodeChar isPlain c = ['\\'] := by rw [hc]; decide
      rw [written, List.singleton_append, List.splitOnP_cons_eq_if_modifyHead, if_pos (by decide),
        if_pos (by simp [hc]), ih]
      rfl
    · have free : ∀ a ∈ Percent.encodeChar isPlain c, Url.isSeparator true a = false := by
        simpa [Percent.encode] using isSeparator_encode (s := [c]) (by simpa using Ne.symm hc)
      rw [splitOnP_append_of_forall free, ih, if_neg (by simp [hc]), ht]
      rfl

/-! ## Dots -/

theorem dots?_escape {x y : Char} (h : ¬(x = '2' ∧ (y = 'e' ∨ y = 'E'))) (s : List Char) :
    Url.dots? ('%' :: x :: y :: s) = none := by
  unfold Url.dots?
  split <;> simp_all

/-- A character that is no dot is not written as one. -/
theorem dots?_encodeChar {c : Char} (hc : c ≠ '.') (s : List Char) :
    Url.dots? (Percent.encodeChar isPlain c ++ s) = none := by
  unfold Percent.encodeChar
  split
  · next plain =>
    have mark : c ≠ '%' := by
      rintro rfl
      revert plain
      decide
    rw [List.singleton_append]
    unfold Url.dots?
    split <;> simp_all only [List.cons.injEq, reduceCtorEq, false_and]
  · obtain ⟨b, bs, hb⟩ := List.exists_cons_of_ne_nil (Utf8.encodeChar_ne_nil c)
    rw [hb, List.flatMap_cons, Percent.escapeByte]
    refine dots?_escape ?_ _
    -- Only the byte of a dot is escaped like one.
    have digits : ∀ n : Fin 256, Percent.hexDigit (n / 16) = '2' →
        Percent.hexDigit (n % 16) = 'e' ∨ Percent.hexDigit (n % 16) = 'E' → n.val = 0x2E := by
      decide +kernel
    rintro ⟨high, low⟩
    have dot : b.toNat = 0x2E := digits ⟨b.toNat, b.toNat_lt⟩ high low
    have same : c.toNat = b.toNat :=
      Utf8.toNat_of_mem_encodeChar (hb ▸ List.mem_cons_self) (by omega)
    refine hc ?_
    rw [← Char.ofNat_toNat c, same, dot]

/-- An escaped name counts as dots only if the name consists of dots. -/
theorem dots?_encode {s : List Char} {n : Nat} :
    Url.dots? (Percent.encode isPlain s) = some n ↔ s = List.replicate n '.' := by
  induction s generalizing n with
  | nil => cases n <;> simp [Percent.encode, Url.dots?, List.replicate_succ]
  | cons c s ih =>
    rw [Percent.encode_cons]
    by_cases hc : c = '.'
    · have written : Percent.encodeChar isPlain c = ['.'] := by rw [hc]; decide
      rw [written, List.singleton_append, Url.dots?]
      cases n with
      | zero => simp
      | succ n => simp [ih, hc, List.replicate_succ]
    · rw [dots?_encodeChar hc]
      cases n with
      | zero => simp
      | succ n => simp [List.replicate_succ, hc]

/-! ## Paths -/

/-- A URL shows an escaped name as it is. -/
theorem writeSegment_encode (s : List Char) :
    Url.writeSegment false (Percent.encode isPlain s) =
      String.ofList (Percent.encode isPlain s) := by
  have same : Percent.encode Url.pathAllows (Percent.encode isPlain s) =
      Percent.encode isPlain s :=
    Percent.encode_of_allowed fun c hc =>
      ⟨(isShown_encode s c hc).toNat_lt, (isShown_encode s c hc).url.1⟩
  simp [Url.writeSegment, same]

end Endpoint

namespace Url

/-- Where no segment is of dots, the path consists of the segments. -/
theorem resolveDots_of_named {ss : List (List Char)}
    (named : ∀ s ∈ ss, dots? s ≠ some 1 ∧ dots? s ≠ some 2) (done : List String) :
    resolveDots false done ss = done.reverse ++ ss.map (writeSegment false) := by
  induction ss generalizing done with
  | nil => simp [resolveDots]
  | cons s ss ih =>
    rw [List.forall_mem_cons] at named
    rw [resolveDots_append_plain named.1.1 named.1.2, ih named.2]
    simp [writeSegment]

theorem parent_subset (done : List String) : parent false done ⊆ done := by
  intro x hx
  unfold parent at hx
  split at hx
  · simp at hx
  · exact List.mem_of_mem_tail hx

/-- Every segment of a path is empty or one that is not of dots. -/
theorem mem_resolveDots {x : String} {done : List String} {ss : List (List Char)}
    (h : x ∈ resolveDots false done ss) :
    x ∈ done ∨ x = "" ∨
      ∃ s ∈ ss, (dots? s ≠ some 1 ∧ dots? s ≠ some 2) ∧ x = writeSegment false s := by
  induction ss generalizing done with
  | nil =>
    rw [resolveDots, List.mem_reverse] at h
    exact .inl h
  | cons s ss ih =>
    -- Whatever `s` makes of the path so far, the other segments are those of the tail.
    have go_on {front : List String} (hx : x ∈ resolveDots false front ss)
        (own : x ∈ front → x ∈ done ∨ x = "" ∨
          (dots? s ≠ some 1 ∧ dots? s ≠ some 2) ∧ x = writeSegment false s) :
        x ∈ done ∨ x = "" ∨
          ∃ t ∈ s :: ss, (dots? t ≠ some 1 ∧ dots? t ≠ some 2) ∧ x = writeSegment false t := by
      rcases ih hx with hx | hx | ⟨t, ht, hx⟩
      · refine (own hx).imp_right (Or.imp_right fun written => ?_)
        exact ⟨s, List.mem_cons_self, written⟩
      · exact .inr (.inl hx)
      · exact .inr (.inr ⟨t, List.mem_cons_of_mem _ ht, hx⟩)
    have finish {front : List String} (hx : x ∈ if ss.isEmpty then "" :: front else front) :
        x ∈ front ∨ x = "" := by
      split at hx
      · exact (List.mem_cons.1 hx).symm
      · exact .inl hx
    simp only [resolveDots] at h
    split at h
    · exact go_on h fun hx => (finish hx).imp_right .inl
    · refine go_on h fun hx => ?_
      exact (finish hx).imp (fun hx => parent_subset done hx) .inl
    · next one two =>
      refine go_on h fun hx => ?_
      rcases List.mem_cons.1 hx with hx | hx
      · exact .inr (.inr ⟨⟨one, two⟩, hx⟩)
      · exact .inl hx

end Url

end SecretTemplate
