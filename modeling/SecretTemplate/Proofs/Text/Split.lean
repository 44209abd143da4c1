import Mathlib.Data.List.DropRight
import SecretTemplate.Text.Blank

/-!
# Splitting and trimming

What the pieces of a text are that is split at a separator, and when trimming leaves a text as it
is. A trimmed text is one that neither starts nor ends with a blank character.

Results:
1. `mem_intercalate_iff`: what stands in pieces with a separator between them.
2. `mem_of_mem_splitOn`, `not_mem_of_mem_splitOn`: a piece holds characters of the text, and not
   the separator.
3. `trimEnd_eq_iff`: what is cut off an end, and what is left there.
4. `trim_eq_self_iff`, `trim_eq_iff`: trimmed texts by their ends, and what trimming cuts off.
5. `trim_append_cons`: trimmed texts with a separator between them are trimmed.
6. `trim_intercalate`: so are any number of them.
-/

namespace SecretTemplate.Text

section Split

variable {α : Type} [BEq α] [LawfulBEq α] {sep : α}

/-- The separator is in none of the pieces. -/
theorem not_mem_of_mem_splitOn {s piece : List α} (h : piece ∈ s.splitOn sep) : sep ∉ piece := by
  induction s generalizing piece with
  | nil =>
    rw [List.splitOn_nil, List.mem_singleton] at h
    exact h ▸ List.not_mem_nil
  | cons a s ih =>
    rw [List.splitOn_cons_eq_if_modifyHead] at h
    obtain ⟨p, ps, hp⟩ := List.exists_cons_of_ne_nil (List.splitOn_ne_nil sep s)
    rw [hp] at h ih
    split at h
    · next ha =>
      rcases List.mem_cons.1 h with rfl | h
      · exact List.not_mem_nil
      · exact ih h
    · next ha =>
      rcases List.mem_cons.1 h with rfl | h
      · rw [List.mem_cons, not_or]
        exact ⟨fun e => ha (by simp [e]), ih List.mem_cons_self⟩
      · exact ih (List.mem_cons_of_mem _ h)

omit [BEq α] [LawfulBEq α] in
/-- What stands in pieces with a separator between them. -/
theorem mem_intercalate_iff {pieces : List (List α)} {a : α} :
    a ∈ [sep].intercalate pieces ↔ (∃ p ∈ pieces, a ∈ p) ∨ a = sep ∧ 1 < pieces.length := by
  induction pieces with
  | nil => simp
  | cons p ps ih =>
    cases ps with
    | nil => simp
    | cons q qs =>
      have long : 1 < (p :: q :: qs).length := by simp
      have split : (∃ r ∈ p :: q :: qs, a ∈ r) ↔ a ∈ p ∨ ∃ r ∈ q :: qs, a ∈ r :=
        List.exists_mem_cons_iff (fun r => a ∈ r) p (q :: qs)
      rw [List.intercalate_cons_cons, List.mem_append, List.mem_append, ih, List.mem_singleton,
        split, and_iff_left long]
      constructor
      · rintro ((h | h) | h | ⟨h, -⟩)
        · exact .inl (.inl h)
        · exact .inr h
        · exact .inl (.inr h)
        · exact .inr h
      · rintro ((h | h) | h)
        · exact .inl (.inl h)
        · exact .inr (.inl h)
        · exact .inl (.inr h)

/-- A piece holds characters of the text only. -/
theorem mem_of_mem_splitOn {s piece : List α} {a : α} (h : piece ∈ s.splitOn sep)
    (ha : a ∈ piece) : a ∈ s := by
  have whole : [sep].intercalate (s.splitOn sep) = s := List.intercalate_splitOn sep
  rw [← whole, mem_intercalate_iff]
  exact .inl ⟨piece, h, ha⟩

end Split

/-! ## Cutting the end -/

/-- A text starts as its prefixes do. -/
theorem mem_head?_of_isPrefix {s t : List Char} (front : s <+: t) {c : Char} (hc : c ∈ s.head?) :
    c ∈ t.head? := by
  obtain ⟨rest, rfl⟩ := front
  rw [List.head?_append, Option.mem_def.1 hc]
  rfl

theorem trimEnd_isPrefix (p : Char → Bool) (s : List Char) : trimEnd p s <+: s :=
  List.rdropWhile_prefix p s

/-- What is cut off the end of a text. -/
theorem exists_eq_trimEnd_append (p : Char → Bool) (s : List Char) :
    ∃ cut, s = trimEnd p s ++ cut ∧ ∀ c ∈ cut, p c = true := by
  refine ⟨(s.reverse.takeWhile p).reverse, ?_, fun c hc => ?_⟩
  · rw [trimEnd, ← List.reverse_append, List.takeWhile_append_dropWhile, List.reverse_reverse]
  · exact List.mem_takeWhile_imp (List.mem_reverse.1 hc)

/-- A text ends with a character that is not cut off. -/
theorem getLast?_trimEnd (p : Char → Bool) (s : List Char) :
    ∀ c ∈ (trimEnd p s).getLast?, p c = false := by
  intro c hc
  rw [trimEnd, List.getLast?_reverse] at hc
  have first := List.head?_dropWhile_not p s.reverse
  rw [Option.mem_def.1 hc] at first
  exact first

theorem trimEnd_eq_nil_of_forall {p : Char → Bool} {s : List Char} (h : ∀ c ∈ s, p c = true) :
    trimEnd p s = [] := by
  rw [trimEnd, List.dropWhile_eq_nil_iff.2 fun c hc => h c (List.mem_reverse.1 hc)]
  rfl

/-- Where something is left of the second text, the first is not cut. -/
theorem trimEnd_append_of_ne_nil {p : Char → Bool} {t : List Char} (ne : trimEnd p t ≠ [])
    (s : List Char) : trimEnd p (s ++ t) = s ++ trimEnd p t := by
  have left : t.reverse.dropWhile p ≠ [] := fun empty => ne (by rw [trimEnd, empty]; rfl)
  rw [trimEnd, List.reverse_append, List.dropWhile_append, if_neg (by simpa using left),
    List.reverse_append, List.reverse_reverse, trimEnd]

/-- Where nothing is left of the second text, the first is cut as if it stood alone. -/
theorem trimEnd_append_of_eq_nil {p : Char → Bool} {t : List Char} (empty : trimEnd p t = [])
    (s : List Char) : trimEnd p (s ++ t) = trimEnd p s := by
  have nothing : t.reverse.dropWhile p = [] := List.reverse_eq_nil_iff.1 empty
  rw [trimEnd, List.reverse_append, List.dropWhile_append, nothing]
  rfl

/-- A character that is kept shields everything in front of it. -/
theorem trimEnd_append_cons {p : Char → Bool} {c : Char} (h : p c = false) (s t : List Char) :
    trimEnd p (s ++ c :: t) = s ++ c :: trimEnd p t := by
  simp only [trimEnd, List.reverse_append, List.reverse_cons, List.append_assoc,
    List.singleton_append, List.dropWhile_append]
  split
  · next empty =>
    have : t.reverse.dropWhile p = [] := by simpa using empty
    simp [h, this]
  · simp

/-- What is left where an end is cut off: a text that does not end with a character that is cut off,
and behind which nothing else stood. -/
theorem trimEnd_eq_iff {p : Char → Bool} {s t : List Char} :
    trimEnd p s = t ↔
      (∃ cut, s = t ++ cut ∧ ∀ c ∈ cut, p c = true) ∧ ∀ c ∈ t.getLast?, p c = false := by
  constructor
  · rintro rfl
    exact ⟨exists_eq_trimEnd_append p s, getLast?_trimEnd p s⟩
  · rintro ⟨⟨cut, rfl, gone⟩, last⟩
    rw [trimEnd_append_of_eq_nil (trimEnd_eq_nil_of_forall gone)]
    obtain rfl | ⟨front, c, rfl⟩ := List.eq_nil_or_concat t
    · rfl
    · rw [List.concat_eq_append] at last ⊢
      exact trimEnd_append_singleton (last c List.getLast?_concat) front

/-! ## Trimming -/

theorem trim_subset (s : List Char) : trim s ⊆ s := by
  intro c hc
  have hd : c ∈ s.dropWhile isBlank :=
    (List.rdropWhile_prefix isBlank _).subset hc
  exact (List.dropWhile_suffix isBlank).subset hd

/-- A text is trimmed when it neither starts nor ends with a blank character. -/
theorem trim_eq_self_iff {s : List Char} :
    trim s = s ↔
      (∀ c, s.head? = some c → isBlank c = false) ∧
        ∀ c, s.getLast? = some c → isBlank c = false := by
  constructor
  · intro h
    have hd : s.dropWhile isBlank = s := by
      refine (List.dropWhile_suffix isBlank).eq_of_length_le ?_
      calc s.length = (trim s).length := by rw [h]
        _ ≤ (s.dropWhile isBlank).length := (List.rdropWhile_prefix isBlank _).length_le
    have he : s.rdropWhile isBlank = s := by
      rw [trim, hd] at h
      exact h
    refine ⟨fun c hc => ?_, fun c hc => ?_⟩
    · have := List.head?_dropWhile_not isBlank s
      simpa [hd, hc] using this
    · have hne : s ≠ [] := by
        rintro rfl
        cases hc
      rw [List.getLast?_eq_some_getLast hne, Option.some.injEq] at hc
      simpa [hc] using List.rdropWhile_eq_self_iff.1 he hne
  · rintro ⟨hfirst, hlast⟩
    have hd : s.dropWhile isBlank = s := by
      cases s with
      | nil => rfl
      | cons c s => simp [hfirst c rfl]
    rw [trim, hd]
    refine List.rdropWhile_eq_self_iff.2 fun hne => ?_
    simp [hlast _ (List.getLast?_eq_some_getLast hne)]

theorem trim_trim (s : List Char) : trim (trim s) = trim s := by
  rw [trim, show (trim s).dropWhile isBlank = trim s from dropWhile_trimEnd _ _ s]
  exact List.rdropWhile_idempotent ..

/-- What is left of a text by trimming: a trimmed text around which only blanks stood. -/
theorem trim_eq_iff {s t : List Char} :
    trim s = t ↔
      (∃ front back, s = front ++ t ++ back ∧ (∀ c ∈ front, isBlank c = true) ∧
        ∀ c ∈ back, isBlank c = true) ∧ trim t = t := by
  constructor
  · rintro rfl
    obtain ⟨back, whole, blank⟩ := exists_eq_trimEnd_append isBlank (s.dropWhile isBlank)
    refine ⟨⟨s.takeWhile isBlank, back, ?_, fun c hc => List.mem_takeWhile_imp hc, blank⟩,
      trim_trim s⟩
    calc s = s.takeWhile isBlank ++ s.dropWhile isBlank := List.takeWhile_append_dropWhile.symm
      _ = s.takeWhile isBlank ++ (trim s ++ back) := congrArg (_ ++ ·) whole
      _ = s.takeWhile isBlank ++ trim s ++ back := (List.append_assoc ..).symm
  · rintro ⟨⟨front, back, rfl, hfront, hback⟩, trimmed⟩
    have nothing : trimEnd isBlank back = [] := trimEnd_eq_nil_of_forall hback
    rw [List.append_assoc, trim, List.dropWhile_append_of_pos hfront]
    cases t with
    | nil => rw [List.nil_append, List.dropWhile_eq_nil_iff.2 hback, trimEnd_nil]
    | cons c t =>
      have shown : isBlank c = false := (trim_eq_self_iff.1 trimmed).1 c rfl
      rw [trim, List.dropWhile_cons_of_neg (by simp [shown])] at trimmed
      rw [List.cons_append, List.dropWhile_cons_of_neg (by simp [shown]), ← List.cons_append,
        trimEnd_append_of_eq_nil nothing, trimmed]

/-- Trimmed texts with a character between them that is not blank are a trimmed text. -/
theorem trim_append_cons {x y : List Char} {c : Char} (hx : trim x = x) (hc : isBlank c = false)
    (hy : trim y = y) : trim (x ++ c :: y) = x ++ c :: y := by
  rw [trim_eq_self_iff] at hx hy ⊢
  refine ⟨fun a ha => ?_, fun a ha => ?_⟩
  · cases x with
    | nil => simp_all
    | cons b x => exact hx.1 a ha
  · rw [List.getLast?_append_cons] at ha
    cases y with
    | nil => simp_all
    | cons b y => exact hy.2 a (by simpa using ha)

/-- Trimmed texts with a separator between them that is not blank are a trimmed text. -/
theorem trim_intercalate {sep : Char} (hsep : isBlank sep = false) {pieces : List (List Char)}
    (h : ∀ p ∈ pieces, trim p = p) :
    trim ([sep].intercalate pieces) = [sep].intercalate pieces := by
  induction pieces with
  | nil => rfl
  | cons p ps ih =>
    cases ps with
    | nil =>
      rw [List.intercalate_singleton]
      exact h p List.mem_cons_self
    | cons q qs =>
      rw [List.intercalate_cons_cons, List.append_assoc, List.singleton_append]
      exact trim_append_cons (h p List.mem_cons_self) hsep
        (ih fun r hr => h r (List.mem_cons_of_mem _ hr))

end SecretTemplate.Text
