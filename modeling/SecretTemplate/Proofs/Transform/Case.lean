import Mathlib.Data.List.Induction
import SecretTemplate.Proofs.Text.Blank
import SecretTemplate.Transform

/-!
# Blanks and letter case

Changing the case of a text leaves its blanks alone. A blank has no case, no character turns into a
blank or into nothing, and a capital sigma, whose small form depends on the letters around it, sees
no letter across the blanks at the ends of a text. So it does not matter whether a text is trimmed
before its case is changed or behind that.

Results:
1. `TablesSpare.mapChar_of_blank`, `TablesSpare.mapChar_of_shown`: what tables that have nothing to
   do with blanks make of a character.
2. `SparesBlanks.trim_rewriteFrom`: rewriting that spares the blanks commutes with trimming.
3. `Transformation.applyAll_trim_case`: so do both changes of case.
-/

namespace SecretTemplate

namespace Text

/-! ## Tables -/

/-- A run gives the images of the characters between its ends. -/
theorem Run.exists_of_lookup {rs : List Run} {n m : Nat} (h : Run.lookup rs n = some m) :
    ∃ r ∈ rs, r.first ≤ n ∧ n ≤ r.last ∧ m = r.image n := by
  induction rs with
  | nil => cases h
  | cons r rs ih =>
    rw [Run.lookup] at h
    split at h
    · cases h
    split at h
    · next covered =>
      simp only [Run.covers, Bool.and_eq_true, decide_eq_true_eq] at covered
      exact ⟨r, List.mem_cons_self, covered.1.1, covered.1.2, (Option.some.inj h).symm⟩
    · obtain ⟨r, hr, found⟩ := ih h
      exact ⟨r, List.mem_cons_of_mem _ hr, found⟩

theorem mem_of_valueAt? {α : Type} {l : List (Nat × α)} {n : Nat} {a : α}
    (h : valueAt? l n = some a) : (n, a) ∈ l := by
  induction l with
  | nil => cases h
  | cons entry l ih =>
    rw [valueAt?] at h
    split at h
    · cases h
    split at h
    · next key =>
      rw [key, ← Option.some.inj h]
      exact List.mem_cons_self
    · exact List.mem_cons_of_mem _ (ih h)

/-- What tables of single characters and of several make of a character. -/
def mapChar (runs : List Run) (expansions : List (Nat × List Nat)) (c : Char) : List Char :=
  match Run.lookup runs c.toNat with
  | some n => [Char.ofNat n]
  | none =>
    match valueAt? expansions c.toNat with
    | some ns => ns.map Char.ofNat
    | none => [c]

/-- Tables that have nothing to do with blanks: they have no entry for a blank, and no entry of
theirs gives a blank or nothing. -/
structure TablesSpare (runs : List Run) (expansions : List (Nat × List Nat)) : Prop where
  keys : ∀ n ∈ blanks, Run.lookup runs n = none ∧ valueAt? expansions n = none
  images : ∀ r ∈ runs, ∀ n ∈ blanks, ¬(r.first + r.delta ≤ (n : Int) ∧ n ≤ r.last + r.delta)
  values : ∀ entry ∈ expansions, entry.2 ≠ [] ∧ ∀ n ∈ entry.2, n ∉ blanks

namespace TablesSpare

variable {runs : List Run} {expansions : List (Nat × List Nat)} {c : Char}

theorem mapChar_of_blank (h : TablesSpare runs expansions) (blank : isBlank c = true) :
    mapChar runs expansions c = [c] := by
  obtain ⟨alone, together⟩ := h.keys _ (isBlank_iff.1 blank)
  rw [mapChar, alone, together]

theorem image_notMem_blanks (h : TablesSpare runs expansions) {n m : Nat}
    (found : Run.lookup runs n = some m) : m ∉ blanks := by
  obtain ⟨r, hr, low, high, rfl⟩ := Run.exists_of_lookup found
  intro blank
  have pos : ∀ n ∈ blanks, 0 < n := by decide
  have positive := pos _ blank
  refine h.images r hr _ blank ?_
  rw [Run.image] at positive ⊢
  omega

theorem mapChar_of_shown (h : TablesSpare runs expansions) (shown : isBlank c = false) :
    mapChar runs expansions c ≠ [] ∧ ∀ d ∈ mapChar runs expansions c, isBlank d = false := by
  unfold mapChar
  split
  · next n found =>
    have single := isBlank_ofNat (h.image_notMem_blanks found)
    exact ⟨List.cons_ne_nil _ _, by simpa using single⟩
  · split
    · next ns found =>
      obtain ⟨some, plain⟩ := h.values _ (mem_of_valueAt? found)
      refine ⟨by simpa using some, ?_⟩
      rw [List.forall_mem_map]
      exact fun n hn => isBlank_ofNat (plain n hn)
    · exact ⟨List.cons_ne_nil _ _, by simpa using shown⟩

end TablesSpare

theorem tablesSpare_upper : TablesSpare upperRuns upperExpansions :=
  ⟨by decide +kernel, by decide +kernel, by decide +kernel⟩

theorem tablesSpare_lower : TablesSpare lowerRuns lowerExpansions :=
  ⟨by decide +kernel, by decide +kernel, by decide +kernel⟩

/-! ## Rewriting in context -/

/-- What `f` makes of a character that stands between two texts, the one in front in reverse. -/
abbrev Rewriting := (before : List Char) → Char → (after : List Char) → List Char

/-- A text that stands behind `before`, with every character rewritten where it stands. -/
def rewriteFrom (f : Rewriting) (before : List Char) : List Char → List Char
  | [] => []
  | c :: s => f before c s ++ rewriteFrom f (c :: before) s

/-- Rewriting that leaves blanks alone, makes a blank of nothing else, loses no character, and pays
no heed to blanks at the ends of the whole text. -/
structure SparesBlanks (f : Rewriting) : Prop where
  blank : ∀ before c after, isBlank c = true → f before c after = [c]
  shown : ∀ before c after, isBlank c = false →
    f before c after ≠ [] ∧ ∀ d ∈ f before c after, isBlank d = false
  front : ∀ before c after b, isBlank b = true → f (before ++ [b]) c after = f before c after
  back : ∀ before c after b, isBlank b = true → f before c (after ++ [b]) = f before c after

namespace SparesBlanks

variable {f : Rewriting} {b : Char}

theorem rewriteFrom_front (h : SparesBlanks f) (hb : isBlank b = true) (before s : List Char) :
    rewriteFrom f (before ++ [b]) s = rewriteFrom f before s := by
  induction s generalizing before with
  | nil => rfl
  | cons c s ih =>
    rw [rewriteFrom, rewriteFrom, h.front _ _ _ _ hb, ← List.cons_append, ih]

theorem rewriteFrom_back (h : SparesBlanks f) (hb : isBlank b = true) (before s : List Char) :
    rewriteFrom f before (s ++ [b]) = rewriteFrom f before s ++ [b] := by
  induction s generalizing before with
  | nil => exact congrArg (· ++ []) (h.blank before b [] hb)
  | cons c s ih =>
    rw [List.cons_append, rewriteFrom, rewriteFrom, h.back _ _ _ _ hb, ih, List.append_assoc]

/-- A rewritten text ends with a character that is shown, if the text does. -/
theorem exists_rewriteFrom_append (h : SparesBlanks f) {c : Char} (hc : isBlank c = false)
    (before s : List Char) :
    ∃ text d, rewriteFrom f before (s ++ [c]) = text ++ [d] ∧ isBlank d = false := by
  induction s generalizing before with
  | nil =>
    obtain ⟨some, plain⟩ := h.shown before c [] hc
    obtain empty | ⟨text, d, split⟩ := List.eq_nil_or_concat (f before c [])
    · exact absurd empty some
    · rw [List.concat_eq_append] at split
      refine ⟨text, d, ?_, plain d (by simp [split])⟩
      rw [← split]
      exact List.append_nil _
  | cons a s ih =>
    obtain ⟨text, d, whole, hd⟩ := ih (a :: before)
    exact ⟨f before a (s ++ [c]) ++ text, d, by
      rw [List.cons_append, rewriteFrom, whole, List.append_assoc], hd⟩

theorem dropWhile_rewriteFrom (h : SparesBlanks f) (s : List Char) :
    (rewriteFrom f [] s).dropWhile isBlank = rewriteFrom f [] (s.dropWhile isBlank) := by
  induction s with
  | nil => rfl
  | cons c s ih =>
    cases hc : isBlank c with
    | true =>
      rw [rewriteFrom, h.blank _ _ _ hc, List.singleton_append, List.dropWhile_cons_of_pos hc,
        List.dropWhile_cons_of_pos hc, ← ih]
      exact congrArg _ (h.rewriteFrom_front hc [] s)
    | false =>
      obtain ⟨some, plain⟩ := h.shown [] c s hc
      obtain ⟨d, rest, split⟩ := List.exists_cons_of_ne_nil some
      have hd : isBlank d = false := plain d (split ▸ List.mem_cons_self)
      rw [List.dropWhile_cons_of_neg (by simp [hc]), rewriteFrom, split, List.cons_append,
        List.dropWhile_cons_of_neg (by simp [hd])]

theorem trimEnd_rewriteFrom (h : SparesBlanks f) (s : List Char) :
    trimEnd isBlank (rewriteFrom f [] s) = rewriteFrom f [] (trimEnd isBlank s) := by
  induction s using List.reverseRecOn with
  | nil => rfl
  | append_singleton s c ih =>
    cases hc : isBlank c with
    | true =>
      rw [h.rewriteFrom_back hc, trimEnd_append_drop hc, trimEnd_append_drop hc, ih]
    | false =>
      obtain ⟨text, d, whole, hd⟩ := h.exists_rewriteFrom_append hc [] s
      rw [trimEnd_append_singleton hc, whole, trimEnd_append_singleton hd]

/-- Rewriting that spares the blanks commutes with trimming. -/
theorem trim_rewriteFrom (h : SparesBlanks f) (s : List Char) :
    trim (rewriteFrom f [] s) = rewriteFrom f [] (trim s) := by
  rw [trim, trim, h.dropWhile_rewriteFrom, h.trimEnd_rewriteFrom]

end SparesBlanks

/-! ## Upper case -/

/-- Uppercasing as rewriting. -/
def upperAt : Rewriting := fun _ c _ => upperChar c

theorem rewriteFrom_upperAt (before s : List Char) : rewriteFrom upperAt before s = upper s := by
  induction s generalizing before with
  | nil => rfl
  | cons c s ih => exact congrArg (upperChar c ++ ·) (ih _)

theorem sparesBlanks_upperAt : SparesBlanks upperAt where
  blank _ _ _ hc := tablesSpare_upper.mapChar_of_blank hc
  shown _ _ _ hc := tablesSpare_upper.mapChar_of_shown hc
  front _ _ _ _ _ := rfl
  back _ _ _ _ _ := rfl

theorem trim_upper (s : List Char) : trim (upper s) = upper (trim s) := by
  rw [← rewriteFrom_upperAt [], ← rewriteFrom_upperAt [], sparesBlanks_upperAt.trim_rewriteFrom]

/-! ## Lower case -/

/-- Lowercasing as rewriting. -/
def lowerAt : Rewriting := fun before c after =>
  if c = capitalSigma then
    if meetsCased before && !meetsCased after then ['ς'] else ['σ']
  else lowerChar c

theorem rewriteFrom_lowerAt (before s : List Char) :
    rewriteFrom lowerAt before s = lowerFrom before s := by
  induction s generalizing before with
  | nil => rfl
  | cons c s ih => rw [rewriteFrom, lowerFrom, ih, lowerAt]

/-- A blank at the end of a text is no letter, and it is seen as such. -/
theorem meetsCased_append_blank {b : Char} (hb : isBlank b = true) (s : List Char) :
    meetsCased (s ++ [b]) = meetsCased s := by
  have plain : isCaseIgnorable b = false ∧ isCased b = false :=
    forall_of_blanks (fun b => isCaseIgnorable b = false ∧ isCased b = false) (by decide +kernel) hb
  rw [meetsCased, meetsCased, List.dropWhile_append]
  cases s.dropWhile isCaseIgnorable with
  | nil =>
    rw [List.isEmpty_nil, if_pos rfl, List.dropWhile_cons_of_neg (by simp [plain.1])]
    exact plain.2
  | cons c rest => rfl

theorem sparesBlanks_lowerAt : SparesBlanks lowerAt where
  blank before c after hc := by
    have other : c ≠ capitalSigma := by
      rintro rfl
      revert hc
      decide
    rw [lowerAt, if_neg other]
    exact tablesSpare_lower.mapChar_of_blank hc
  shown before c after hc := by
    rw [lowerAt]
    split
    · split <;> exact ⟨List.cons_ne_nil _ _, List.forall_mem_singleton.2 (by decide)⟩
    · exact tablesSpare_lower.mapChar_of_shown hc
  front before c after b hb := by rw [lowerAt, lowerAt, meetsCased_append_blank hb]
  back before c after b hb := by rw [lowerAt, lowerAt, meetsCased_append_blank hb]

theorem trim_lower (s : List Char) : trim (lower s) = lower (trim s) := by
  rw [lower, lower, ← rewriteFrom_lowerAt, ← rewriteFrom_lowerAt,
    sparesBlanks_lowerAt.trim_rewriteFrom]

end Text

open Text

namespace Transformation

/-- Trimming and then changing the case gives what changing the case and then trimming gives. -/
theorem applyAll_trim_case (s : String) :
    (∃ text, applyAll ["trim", "upper"] s = .ok text ∧ applyAll ["upper", "trim"] s = .ok text) ∧
      ∃ text, applyAll ["trim", "lower"] s = .ok text ∧ applyAll ["lower", "trim"] s = .ok text := by
  have upper : trimString (upperString s) = upperString (trimString s) := by
    simp only [trimString, upperString, String.toList_ofList, trim_upper]
  have lower : trimString (lowerString s) = lowerString (trimString s) := by
    simp only [trimString, lowerString, String.toList_ofList, trim_lower]
  exact ⟨⟨_, rfl, congrArg Except.ok upper⟩, ⟨_, rfl, congrArg Except.ok lower⟩⟩

example : (applyAll ["lower", "trim"] " ΑΣ\u2003").toOption = some "ας" := by decide +kernel

end Transformation

end SecretTemplate
