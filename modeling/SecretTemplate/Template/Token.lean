import SecretTemplate.Error
import SecretTemplate.Text.Search

/-!
# Tokens

A token is a text between two copies of a delimiter on one line. Tokens are found from left to
right: at the first place where the delimiter stands and stands again further on in the same line,
the token ends at the nearest such copy, and the search goes on behind it. The delimiter is any
text that is not empty.

Results:
1. `closing?_eq_some`: the body ends at a delimiter and holds no line end.
2. `tokensFrom_drop`: the characters that a token has used are passed over.
3. `tokens_open`: a token at the start is found, and the search goes on behind it.
-/

namespace SecretTemplate

open Text

/-- A text that marks both ends of a token. -/
structure Delimiter where
  text : String
  text_ne_empty : text ≠ ""

namespace Delimiter

/-- The delimiter of a template about which nothing else is said. -/
def standard : Delimiter := ⟨"@@", by decide⟩

def ofString (s : String) : Except Error Delimiter :=
  if h : s = "" then .error (.config .emptyDelimiter) else .ok ⟨s, h⟩

/-- The text in front of the nearest `d`, if none of it is a line end. -/
def closing? (d : List Char) : List Char → Option (List Char)
  | [] => if d.isEmpty then some [] else none
  | c :: s =>
    if (after? d (c :: s)).isSome then some []
    else if c = '\n' then none
    else (closing? d s).map (c :: ·)

/-- The body of the token that starts here. -/
def opening? (d s : List Char) : Option (List Char) :=
  (after? d s).bind (closing? d)

/-- The bodies of the tokens behind the next `used` characters, which belong to the token before
them. -/
def tokensFrom (d : List Char) : (used : Nat) → List Char → List (List Char)
  | _, [] => []
  | used + 1, _ :: s => tokensFrom d used s
  | 0, c :: s =>
    match opening? d (c :: s) with
    | some body => body :: tokensFrom d (d.length + body.length + d.length - 1) s
    | none => tokensFrom d 0 s

def tokens (d : Delimiter) (input : String) : List String :=
  (tokensFrom d.text.toList 0 input.toList).map String.ofList

/-- The whole token with that body. -/
def wrap (d : Delimiter) (body : String) : String :=
  d.text ++ body ++ d.text

/-- The body ends at a delimiter and holds no line end. -/
theorem closing?_eq_some {d s body : List Char} (found : closing? d s = some body) :
    '\n' ∉ body ∧ ∃ rest, s = body ++ d ++ rest := by
  induction s generalizing body with
  | nil =>
    cases d with
    | nil =>
      simp only [closing?, List.isEmpty_nil, if_true, Option.some.injEq] at found
      subst found
      exact ⟨by simp, [], rfl⟩
    | cons a d => simp [closing?] at found
  | cons c s ih =>
    cases ha : after? d (c :: s) with
    | some rest =>
      simp only [closing?, ha, Option.isSome_some, if_true, Option.some.injEq] at found
      subst found
      exact ⟨by simp, rest, by simpa using after?_eq_some.1 ha⟩
    | none =>
      by_cases hc : c = '\n'
      · subst hc
        simp [closing?, ha] at found
      · simp only [closing?, ha, Option.isSome_none, hc, if_false, Option.map_eq_some_iff,
          Bool.false_eq_true] at found
        obtain ⟨b, hb, rfl⟩ := found
        obtain ⟨hn, rest, hs⟩ := ih hb
        exact ⟨by simp [hn, Ne.symm hc], rest, by simp [hs]⟩

/-- The characters that a token has used are passed over. -/
theorem tokensFrom_drop (d : List Char) (n : Nat) (s : List Char) :
    tokensFrom d n s = tokensFrom d 0 (s.drop n) := by
  induction s generalizing n with
  | nil => cases n <;> rfl
  | cons c s ih =>
    cases n with
    | zero => rfl
    | succ n => simpa [tokensFrom] using ih n

/-- A token at the start is found, and the search goes on behind it. -/
theorem tokens_open {d s body : List Char} (hd : d ≠ []) (found : opening? d s = some body) :
    tokensFrom d 0 s =
      body :: tokensFrom d 0 (s.drop (d.length + body.length + d.length)) := by
  cases s with
  | nil =>
    obtain ⟨a, d, rfl⟩ := List.exists_cons_of_ne_nil hd
    simp [opening?, after?] at found
  | cons c s =>
    obtain ⟨n, hn⟩ : ∃ n, d.length + body.length + d.length = n + 1 :=
      Nat.exists_eq_succ_of_ne_zero (by have := List.length_pos_iff.2 hd; omega)
    simp only [tokensFrom, found, hn, Nat.add_sub_cancel, List.drop_succ_cons]
    rw [tokensFrom_drop]

end Delimiter

end SecretTemplate
