import SecretTemplate.Proofs.Text.Split
import SecretTemplate.Url.Domain.Ascii

/-!
# Blanks in domains

A control character or a space makes a text no domain, wherever it stands. It survives everything
that happens to the text on the way to its form in ASCII: it is mapped to itself, takes no part in
composition, stays in its label when that is read from Punycode or written in it, and is refused
in the end.

Results:
1. `mem_normalize`: a blank is not lost by composition.
2. `mem_decodeLabel?`, `mem_encodeLabel`: it stays in its label.
3. `toAscii?_eq_none_of_blank`: a text with a blank is no domain.
-/

namespace SecretTemplate

open Text

namespace Domain

/-- Whether a code point is a control character or a space. -/
def IsBlank (n : Nat) : Prop := n ≤ 0x20

instance : DecidablePred IsBlank := fun n => inferInstanceAs (Decidable (n ≤ 0x20))

/-- What holds of the characters below the limit holds of every blank. -/
theorem forall_isBlank (P : Char → Prop) (h : ∀ n : Fin 0x21, P (Char.ofNat n)) {c : Char}
    (blank : IsBlank c.toNat) : P c := by
  have at_c := h ⟨c.toNat, Nat.lt_succ_of_le blank⟩
  rwa [Char.ofNat_toNat] at at_c

/-! ## Mapping -/

theorem mapCode?_of_blank {n : Nat} (blank : IsBlank n) : mapCode? n = some [n] := by
  have all : ∀ m : Fin 0x21, mapCode? m = some [m.val] := by decide +kernel
  exact all ⟨n, Nat.lt_succ_of_le blank⟩

theorem mem_map? {n : Nat} {s mapped : List Nat} (blank : IsBlank n) (h : map? s = some mapped)
    (hn : n ∈ s) : n ∈ mapped := by
  induction s generalizing mapped with
  | nil => cases hn
  | cons m s ih =>
    obtain ⟨first, hfirst, h⟩ := Option.bind_eq_some_iff.1 h
    obtain ⟨later, hlater, h⟩ := Option.bind_eq_some_iff.1 h
    obtain rfl : first ++ later = mapped := Option.some.inj h
    rcases List.mem_cons.1 hn with rfl | hn
    · rw [mapCode?_of_blank blank] at hfirst
      obtain rfl := Option.some.inj hfirst
      exact List.mem_append_left _ List.mem_cons_self
    · exact List.mem_append_right _ (ih hlater hn)

/-! ## Composition -/

theorem takeApart_of_blank {n : Nat} (blank : IsBlank n) : takeApart 4 n = [n] := by
  have all : ∀ m : Fin 0x21, takeApart 4 m = [m.val] := by decide +kernel
  exact all ⟨n, Nat.lt_succ_of_le blank⟩

theorem mem_insertMark {n m : Nat} {s : List Nat} : n ∈ insertMark m s ↔ n = m ∨ n ∈ s := by
  induction s with
  | nil => simp [insertMark]
  | cons k s ih =>
    rw [insertMark]
    split
    · exact List.mem_cons
    · rw [List.mem_cons, ih, List.mem_cons]
      tauto

theorem mem_reorder {n : Nat} {marks s : List Nat} : n ∈ reorder marks s ↔ n ∈ marks ∨ n ∈ s := by
  induction s generalizing marks with
  | nil => simp [reorder]
  | cons m s ih =>
    rw [reorder]
    split
    · simp [ih]
    · rw [ih, mem_insertMark, List.mem_cons]
      tauto

/-- A blank joins nothing in front of it. -/
theorem pair?_of_blank_right {n m : Nat} (blank : IsBlank n) : pair? m n = none := by
  have low : n < 0x300 := Nat.lt_of_le_of_lt blank (by decide)
  rw [pair?, if_pos low]

/-- Nothing behind a blank joins it. -/
theorem pair?_of_blank_left {n m : Nat} (blank : IsBlank n) : pair? n m = none := by
  have above : (composites.all fun e => 0x20 < e.2.1) = true := by decide +kernel
  have low : n ≤ 0x20 := blank
  unfold pair?
  split
  · rfl
  · rw [if_neg (by omega), if_neg (by omega), List.find?_eq_none.2, Option.map_none]
    rintro ⟨k, x, y⟩ h
    have hx : 0x20 < x := by simpa using List.all_eq_true.1 above _ h
    have hn : x ≠ n := by
      rintro rfl
      exact absurd hx (Nat.not_lt.2 low)
    simp [hn]

/-- A blank is not lost by the composition behind a base: it can neither be joined nor join. -/
theorem mem_composeFrom {n base : Nat} {between s : List Nat} (blank : IsBlank n)
    (hn : n = base ∨ n ∈ between ∨ n ∈ s) : n ∈ composeFrom base between s := by
  -- The blank may be the base itself, wait behind it, or be still to come.
  induction s generalizing base between with
  | nil => simpa [composeFrom] using hn
  | cons m s ih =>
    simp only [composeFrom]
    split
    · next joined h =>
      have apart : n ≠ base ∧ n ≠ m := by
        constructor <;> rintro rfl
        · simp [pair?_of_blank_left blank] at h
        · simp [pair?_of_blank_right blank] at h
      refine ih (.inr ?_)
      simpa [apart] using hn
    · split
      · simp only [List.cons_append, List.mem_cons, List.mem_append, List.mem_reverse]
        rcases hn with hn | hn | hn
        · exact .inl hn
        · exact .inr (.inl hn)
        · rw [List.mem_cons] at hn
          exact .inr (.inr (ih (hn.imp id .inr)))
      · refine ih ?_
        simp only [List.mem_cons] at hn ⊢
        tauto

theorem mem_compose {n : Nat} {s : List Nat} (blank : IsBlank n) (hn : n ∈ s) : n ∈ compose s := by
  induction s with
  | nil => cases hn
  | cons m s ih =>
    rw [List.mem_cons] at hn
    rw [compose]
    split
    · exact mem_composeFrom blank (hn.imp id .inr)
    · exact List.mem_cons.2 (hn.imp id ih)

/-- A blank is not lost by composition. -/
theorem mem_normalize {n : Nat} {s : List Nat} (blank : IsBlank n) (hn : n ∈ s) :
    n ∈ normalize s := by
  refine mem_compose blank (mem_reorder.2 (.inr (List.mem_flatMap.2 ⟨n, hn, ?_⟩)))
  rw [takeApart_of_blank blank]
  exact List.mem_singleton_self n

end Domain

/-! ## Labels -/

namespace Punycode

/-- The digits of insertions are all read. -/
theorem value?_ne_none_of_insertAll {codes : List Nat} {next bias start : Nat} {r : Reading}
    {cs : List Char} {result : List Nat}
    (h : insertAll codes next bias start r cs = some result) : ∀ c ∈ cs, value? c ≠ none := by
  induction cs generalizing codes next bias start r with
  | nil => exact fun _ hc => nomatch hc
  | cons c cs ih =>
    obtain ⟨d, hd, h⟩ := Option.bind_eq_some_iff.1 h
    have first : value? c ≠ none := by simp [hd]
    simp only at h
    split at h
    · split at h
      · cases h
      · exact List.forall_mem_cons.2 ⟨first, ih h⟩
    · exact List.forall_mem_cons.2 ⟨first, ih h⟩

/-- Insertions leave all there is. -/
theorem subset_of_insertAll {codes : List Nat} {next bias start : Nat} {r : Reading}
    {cs : List Char} {result : List Nat}
    (h : insertAll codes next bias start r cs = some result) : codes ⊆ result := by
  induction cs generalizing codes next bias start r with
  | nil =>
    simp only [insertAll, Option.ite_none_right_eq_some, Option.some.injEq] at h
    exact h.2 ▸ List.Subset.refl _
  | cons c cs ih =>
    obtain ⟨d, hd, h⟩ := Option.bind_eq_some_iff.1 h
    simp only at h
    split at h
    · split at h
      · cases h
      · intro n hn
        rw [← List.take_append_drop ((r.sum + d * r.weight) % (codes.length + 1)) codes,
          List.mem_append] at hn
        exact ih h (List.mem_append.2 (hn.imp id (List.mem_cons_of_mem _)))
    · exact ih h

/-- What is no digit is copied from the form in ASCII, unless it is the hyphen in front of the
digits. -/
theorem mem_of_decode? {s label : List Char} {c : Char} (h : decode? s = some label) (hc : c ∈ s)
    (digit : value? c = none) (hyphen : c ≠ '-') : c ∈ label := by
  obtain ⟨codes, hcodes, rfl⟩ := Option.map_eq_some_iff.1 h
  -- The digits are what follows the last hyphen, and all of it if there is none.
  generalize hrest : s.reverse.takeWhile (· != '-') = rest at hcodes
  generalize hbasic : (s.reverse.drop (rest.length + 1)).reverse = basic at hcodes
  have read := value?_ne_none_of_insertAll hcodes
  split at hcodes
  · next empty =>
    rw [if_pos empty] at read
    exact absurd digit (read c hc)
  · next more =>
    rw [if_neg more] at read
    have split : s.reverse = rest ++ s.reverse.dropWhile (· != '-') := by
      rw [← hrest, List.takeWhile_append_dropWhile]
    have behind : c ∈ s.reverse.dropWhile (· != '-') := by
      rw [← List.mem_reverse, split, List.mem_append] at hc
      exact hc.resolve_left fun hr => read c (List.mem_reverse.2 hr) digit
    have copied : c ∈ basic := by
      cases hd : s.reverse.dropWhile (· != '-') with
      | nil => simp [hd] at behind
      | cons a t =>
        have ha : a = '-' := by
          simpa [hd] using List.head?_dropWhile_not (· != '-') s.reverse
        have ht : s.reverse.drop (rest.length + 1) = t := by
          rw [split, hd, List.drop_append]
          simp
        rw [hd, List.mem_cons, ha] at behind
        rw [← hbasic, ht, List.mem_reverse]
        exact behind.resolve_left hyphen
    have kept := subset_of_insertAll hcodes (List.mem_map_of_mem copied)
    exact List.mem_map.2 ⟨c.toNat, kept, Char.ofNat_toNat c⟩

/-- The characters in ASCII of a label are copied into its form in ASCII. -/
theorem mem_encode {label : List Char} {c : Char} (hc : c ∈ label) (ascii : c.toNat < 0x80) :
    c ∈ encode label := by
  have basic : c ∈ label.filter (·.toNat < 0x80) := List.mem_filter.2 ⟨hc, by simpa using ascii⟩
  simp only [encode, List.mem_append]
  exact .inl (.inl basic)

end Punycode

namespace Domain

theorem toNat_ofNat_of_blank {n : Nat} (blank : IsBlank n) : (Char.ofNat n).toNat = n := by
  have all : ∀ m : Fin 0x21, (Char.ofNat m).toNat = m.val := by decide
  exact all ⟨n, Nat.lt_succ_of_le blank⟩

theorem not_mem_punycodeMark {n : Nat} (blank : IsBlank n) : n ∉ punycodeMark := by
  have above : ∀ m ∈ punycodeMark, 0x20 < m := by decide
  exact fun h => Nat.not_le.2 (above n h) blank

/-- A blank stays in its label when the label is read. -/
theorem mem_decodeLabel? {n : Nat} {label decoded : List Nat} (blank : IsBlank n)
    (h : decodeLabel? label = some decoded) (hn : n ∈ label) : n ∈ decoded := by
  unfold decodeLabel? at h
  split at h
  · next marked =>
    have behind : n ∈ label.drop 4 := by
      rw [← List.take_append_drop 4 label, marked, List.mem_append] at hn
      exact hn.resolve_left (not_mem_punycodeMark blank)
    obtain ⟨s, hs, h⟩ := Option.bind_eq_some_iff.1 h
    have digit : ∀ m : Fin 0x21, Punycode.value? (Char.ofNat m) = none := by decide
    have hyphen : ∀ m : Fin 0x21, Char.ofNat m ≠ '-' := by decide
    have read : Char.ofNat n ∈ s :=
      Punycode.mem_of_decode? hs (List.mem_map_of_mem behind) (digit ⟨n, Nat.lt_succ_of_le blank⟩)
        (hyphen ⟨n, Nat.lt_succ_of_le blank⟩)
    simp only [Option.ite_none_left_eq_some, Option.some.injEq] at h
    rw [← h.2]
    exact List.mem_map.2 ⟨_, read, toNat_ofNat_of_blank blank⟩
  · simp only [Option.ite_none_right_eq_some, Option.some.injEq] at h
    exact h.2 ▸ hn

/-- A blank stays in its label when the label is written. -/
theorem mem_encodeLabel {n : Nat} {label : List Nat} (blank : IsBlank n) (hn : n ∈ label) :
    n ∈ encodeLabel label := by
  unfold encodeLabel
  split
  · exact hn
  · have same := toNat_ofNat_of_blank blank
    have ascii : (Char.ofNat n).toNat < 0x80 := by
      rw [same]
      exact Nat.lt_of_le_of_lt blank (by decide)
    refine List.mem_append_right _ (List.mem_map.2 ⟨Char.ofNat n, ?_, same⟩)
    exact Punycode.mem_encode (List.mem_map_of_mem hn) ascii

/-! ## Whole domains -/

theorem exists_mem_of_mapM {α β : Type} {f : α → Option β} {s : List α} {t : List β} {a : α}
    (h : s.mapM f = some t) (ha : a ∈ s) : ∃ b ∈ t, f a = some b := by
  induction s generalizing t with
  | nil => cases ha
  | cons x s ih =>
    rw [List.mapM_cons] at h
    obtain ⟨b, hb, h⟩ := Option.bind_eq_some_iff.1 h
    obtain ⟨bs, hbs, h⟩ := Option.bind_eq_some_iff.1 h
    obtain rfl : b :: bs = t := Option.some.inj h
    rcases List.mem_cons.1 ha with rfl | ha
    · exact ⟨b, List.mem_cons_self, hb⟩
    · obtain ⟨b', hb', hf⟩ := ih hbs ha
      exact ⟨b', List.mem_cons_of_mem _ hb', hf⟩

/-- A blank is in one of the labels. -/
theorem exists_mem_labels? {domain : List Char} {labels : List (List Nat)} {c : Char}
    (blank : IsBlank c.toNat) (h : labels? domain = some labels) (hc : c ∈ domain) :
    ∃ label ∈ labels, c.toNat ∈ label := by
  obtain ⟨mapped, hmapped, h⟩ := Option.bind_eq_some_iff.1 h
  obtain ⟨read, hread, h⟩ := Option.bind_eq_some_iff.1 h
  obtain rfl : read = labels := by
    split at h
    · cases h
    · exact Option.some.inj h
  have kept : c.toNat ∈ normalize mapped :=
    mem_normalize blank (mem_map? blank hmapped (List.mem_map_of_mem hc))
  have whole : [0x2E].intercalate ((normalize mapped).splitOn 0x2E) = normalize mapped :=
    List.intercalate_splitOn 0x2E
  rw [← whole, mem_intercalate_iff] at kept
  rcases kept with ⟨label, hlabel, hn⟩ | ⟨dot, -⟩
  · obtain ⟨decoded, hdecoded, hd⟩ := exists_mem_of_mapM hread hlabel
    exact ⟨decoded, hdecoded, mem_decodeLabel? blank hd hn⟩
  · exact absurd (dot ▸ blank : IsBlank 0x2E) (by decide)

/-- A text with a blank is no domain. -/
theorem toAscii?_eq_none_of_blank {domain : List Char} {c : Char} (blank : IsBlank c.toNat)
    (hc : c ∈ domain) : toAscii? domain = none := by
  cases h : toAscii? domain with
  | none => rfl
  | some text =>
    exfalso
    have clean := toAscii?_noForbidden h
    obtain ⟨labels, hlabels, rfl⟩ := Option.map_eq_some_iff.1 (Option.filter_eq_some_iff.1 h).1
    obtain ⟨label, hlabel, hn⟩ := exists_mem_labels? blank hlabels hc
    have shown : c ∈ joinLabels labels := by
      refine List.mem_map.2 ⟨c.toNat, ?_, Char.ofNat_toNat c⟩
      exact mem_intercalate_iff.2
        (.inl ⟨_, List.mem_map_of_mem hlabel, mem_encodeLabel blank hn⟩)
    have forbidden : isForbidden c = true := by
      simp only [isForbidden, Bool.or_eq_true, decide_eq_true_eq]
      exact .inl (.inl blank)
    rw [clean c shown] at forbidden
    cases forbidden

end Domain

end SecretTemplate
