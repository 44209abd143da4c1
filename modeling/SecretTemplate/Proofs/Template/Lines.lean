import SecretTemplate.Proofs.Template.Splice

/-!
# Lines of a template

A token stands on one line, so a line end stops the search for one, and the search behind it starts
afresh. What a line holds, a delimiter without its partner among it, has no say in the tokens of
another line. The tokens of a template are those of its lines, one line after the other. All this
is so for a delimiter that stands on one line itself.

Results:
1. `opening?_append_newline`: what stands behind a line end does not make or break a token in front.
2. `tokensFrom_append_newline`: the scan for tokens starts afresh behind a line end.
3. `tokens_lines`: the tokens of a template are those of its lines.
-/

namespace SecretTemplate

namespace Text

/-- What does not hold `c` starts a text just if it starts the part in front of a `c`. -/
theorem after?_append_cons {p : List Char} {c : Char} (hc : c ∉ p) (s t : List Char) :
    after? p (s ++ c :: t) = (after? p s).map (· ++ c :: t) := by
  induction p generalizing s with
  | nil => rfl
  | cons a p ih =>
    rw [List.mem_cons, not_or] at hc
    cases s with
    | nil => exact if_neg (Ne.symm hc.1)
    | cons b s =>
      rw [List.cons_append, after?, after?]
      split
      · exact ih hc.2 s
      · rfl

end Text

open Text

namespace Delimiter

variable {d : List Char}

/-- A line that ends before a delimiter stands on it has none, whatever comes behind. -/
theorem closing?_append_newline (hd : d ≠ []) (line : '\n' ∉ d) (s t : List Char) :
    closing? d (s ++ '\n' :: t) = closing? d s := by
  induction s with
  | nil =>
    have none : after? d ('\n' :: t) = none := by
      obtain ⟨a, d, rfl⟩ := List.exists_cons_of_ne_nil hd
      exact after?_append_cons line [] t
    have empty : closing? d [] = Option.none := if_neg (by simpa using hd)
    rw [List.nil_append, empty]
    simp [closing?, none]
  | cons c s ih =>
    rw [List.cons_append, closing?, closing?, ← List.cons_append, after?_append_cons line,
      Option.isSome_map, ih]

/-- What stands behind a line end does not make or break a token in front of it. -/
theorem opening?_append_newline (hd : d ≠ []) (line : '\n' ∉ d) (s t : List Char) :
    opening? d (s ++ '\n' :: t) = opening? d s := by
  rw [opening?, opening?, after?_append_cons line, Option.bind_map]
  exact Option.bind_congr fun rest _ => closing?_append_newline hd line rest t

/-- The scan for tokens starts afresh behind a line end, if the token before it ends in front. -/
theorem tokensFrom_append_newline (hd : d ≠ []) (line : '\n' ∉ d) {used : Nat} {s : List Char}
    (inside : used ≤ s.length) (t : List Char) :
    tokensFrom d used (s ++ '\n' :: t) = tokensFrom d used s ++ tokensFrom d 0 t := by
  induction s generalizing used with
  | nil =>
    obtain rfl : used = 0 := Nat.le_zero.1 inside
    have none : opening? d ('\n' :: t) = opening? d [] := opening?_append_newline hd line [] t
    have empty : opening? d [] = Option.none := by
      obtain ⟨a, d, rfl⟩ := List.exists_cons_of_ne_nil hd
      rfl
    simp [tokensFrom, none, empty]
  | cons c s ih =>
    cases used with
    | succ used => exact ih (Nat.le_of_succ_le_succ inside)
    | zero =>
      have same : opening? d (c :: (s ++ '\n' :: t)) = opening? d (c :: s) :=
        opening?_append_newline hd line (c :: s) t
      rw [List.cons_append, tokensFrom, tokensFrom, same]
      cases found : opening? d (c :: s) with
      | none => exact ih (Nat.zero_le _)
      | some body =>
        -- The token stands in `c :: s`, so what it has used does not reach the line end.
        obtain ⟨-, rest, whole⟩ := opening?_eq_some found
        have length := congrArg List.length whole
        simp only [List.length_cons, List.length_append] at length
        exact congrArg (body :: ·) (ih (by omega))

theorem tokens_append_newline {d : Delimiter} (line : '\n' ∉ d.text.toList) (a b : String) :
    d.tokens (a ++ "\n" ++ b) = d.tokens a ++ d.tokens b := by
  have text : (a ++ "\n" ++ b).toList = a.toList ++ '\n' :: b.toList := by
    rw [String.toList_append, String.toList_append, List.append_assoc]
    rfl
  rw [tokens, tokens, tokens, text,
    tokensFrom_append_newline d.toList_text_ne_nil line (Nat.zero_le _), List.map_append]

/-- The tokens of two texts with a line end between them are those of the one and then those of the
other, and so for any number of lines. -/
theorem tokens_lines (d : Delimiter) (line : '\n' ∉ d.text.toList) :
    (∀ a b, d.tokens (a ++ "\n" ++ b) = d.tokens a ++ d.tokens b) ∧
      ∀ lines, d.tokens ("\n".intercalate lines) = lines.flatMap d.tokens := by
  refine ⟨tokens_append_newline line, fun lines => ?_⟩
  induction lines with
  | nil => rfl
  | cons first lines ih =>
    cases lines with
    | nil => simp
    | cons second lines =>
      rw [List.flatMap_cons, ← ih, ← tokens_append_newline line]
      exact congrArg d.tokens String.intercalate_cons_cons

theorem tokens_lines_unbalanced :
    '\n' ∉ standard.text.toList ∧
      standard.tokens ("x@@y@@ @@z" ++ "\n" ++ "@@@@@ @@") =
        standard.tokens "x@@y@@ @@z" ++ standard.tokens "@@@@@ @@" ∧
      standard.tokens ("\n".intercalate ["@@", "a@@b@@", "@@"]) = ["b"] := by
  refine ⟨by decide, (tokens_lines standard (by decide)).1 _ _, ?_⟩
  rw [(tokens_lines standard (by decide)).2]
  decide +kernel

-- A delimiter that is a line end itself finds a token that lies across two lines.
example : Delimiter.tokens ⟨"\n", by decide⟩ ("\na" ++ "\n" ++ "b") = ["a"] := by decide +kernel
example : Delimiter.tokens ⟨"\n", by decide⟩ "\na" = [] := by decide +kernel

end Delimiter

end SecretTemplate
