import SecretTemplate.Proofs.Template.Sequence
import SecretTemplate.Proofs.Text.Layout
import SecretTemplate.Secret.Store

/-!
# Values in the places of their tokens

A template has a layout: its text with a slot for every token. One would like its rendering to be
that layout with the values in its slots. But patching searches for the text of a token in the whole
buffer, and so it also replaces what looks like a token in a value, or across two tokens. The values
end up in the places of their tokens, and nowhere else, when every search finds just the tokens that
it is meant for.

Results:
1. `slots_layout`, `write_layout`: the layout of a template holds its tokens and its text.
2. `undisturbedAt_iff`: a search is undisturbed when replacing is right for every value.
3. `against_patch_of_undisturbed`: undisturbed searches write every value into its slot.
4. `undisturbed_of_length_le_one`: a single token is never disturbed.
5. `outcome_patch_of_resolved`: the rendering, and when it is the layout with the values in its
   slots.
6. `outcome_patch_ne_write`: what becomes of disturbed templates.
-/

namespace SecretTemplate

open Text Lookup Reference

namespace Delimiter

/-- The layout of a text behind the next `used` characters, which belong to the token before them:
a slot for every token. -/
def layoutFrom (d : List Char) : (used : Nat) → List Char → Layout String
  | _, [] => []
  | used + 1, _ :: s => layoutFrom d used s
  | 0, c :: s =>
    match opening? d (c :: s) with
    | some body =>
      .slot (String.ofList body) :: layoutFrom d (d.length + body.length + d.length - 1) s
    | none => .char c :: layoutFrom d 0 s

/-- The layout of a template: its text with a slot for every token, which holds the body. -/
def layout (d : Delimiter) (input : String) : Layout String :=
  layoutFrom d.text.toList 0 input.toList

variable {d : Delimiter} {input : String} {reader : Reader} {value : String → String}

/-! ## The layout of a template -/

theorem toList_text_ne_nil (d : Delimiter) : d.text.toList ≠ [] :=
  fun h => d.text_ne_empty (String.toList_eq_nil_iff.1 h)

theorem toList_wrap (d : Delimiter) (body : String) :
    (d.wrap body).toList = d.text.toList ++ body.toList ++ d.text.toList := by
  rw [wrap, String.toList_append, String.toList_append]

theorem slots_layoutFrom (d : List Char) (n : Nat) (s : List Char) :
    (layoutFrom d n s).slots = (tokensFrom d n s).map String.ofList := by
  induction s generalizing n with
  | nil => cases n <;> rfl
  | cons c s ih =>
    cases n with
    | succ n => exact ih n
    | zero =>
      rw [layoutFrom, tokensFrom]
      cases opening? d (c :: s) with
      | none => exact ih 0
      | some body => exact congrArg (String.ofList body :: ·) (ih _)

/-- The slots of a template are its tokens. -/
theorem slots_layout (d : Delimiter) (input : String) :
    (d.layout input).slots = d.tokens input :=
  slots_layoutFrom _ 0 _

/-- A token that starts here has a body on one line between two delimiters. -/
theorem opening?_eq_some {d s body : List Char} (found : opening? d s = some body) :
    '\n' ∉ body ∧ ∃ rest, s = d ++ body ++ d ++ rest := by
  obtain ⟨behind, hs, closed⟩ := Option.bind_eq_some_iff.1 found
  obtain ⟨line, rest, hb⟩ := closing?_eq_some closed
  refine ⟨line, rest, ?_⟩
  rw [after?_eq_some.1 hs, hb, List.append_assoc, List.append_assoc, List.append_assoc]

/-- What stands behind a token. -/
theorem drop_token {d body rest s : List Char} {c : Char} (hd : d ≠ [])
    (hs : c :: s = d ++ body ++ d ++ rest) :
    s.drop (d.length + body.length + d.length - 1) = rest := by
  have pos : 0 < d.length := List.length_pos_iff.2 hd
  have long : (d ++ body ++ d).length = d.length + body.length + d.length - 1 + 1 := by
    simp only [List.length_append]
    omega
  calc s.drop (d.length + body.length + d.length - 1)
      = (c :: s).drop (d ++ body ++ d).length := by rw [long, List.drop_succ_cons]
    _ = rest := by rw [hs, List.drop_left]

theorem chars_layoutFrom {d : List Char} (hd : d ≠ []) (n : Nat) (s : List Char) :
    (layoutFrom d n s).chars (fun body => d ++ body.toList ++ d) = s.drop n := by
  induction s generalizing n with
  | nil => cases n <;> rfl
  | cons c s ih =>
    cases n with
    | succ n => exact ih n
    | zero =>
      rw [layoutFrom]
      cases found : opening? d (c :: s) with
      | none => exact congrArg (c :: ·) (ih 0)
      | some body =>
        obtain ⟨-, rest, hs⟩ := opening?_eq_some found
        dsimp only
        rw [Layout.chars, ih, drop_token hd hs, String.toList_ofList, List.drop_zero, hs]

theorem layoutFrom_drop (d : List Char) (n : Nat) (s : List Char) :
    layoutFrom d n s = layoutFrom d 0 (s.drop n) := by
  induction s generalizing n with
  | nil => cases n <;> rfl
  | cons c s ih =>
    cases n with
    | zero => rfl
    | succ n => exact ih n

/-- A token at the start is a slot, and the scan goes on behind it. -/
theorem layoutFrom_of_opening {d body rest : List Char} (hd : d ≠ [])
    (found : opening? d (d ++ body ++ d ++ rest) = some body) :
    layoutFrom d 0 (d ++ body ++ d ++ rest) =
      .slot (String.ofList body) :: layoutFrom d 0 rest := by
  obtain ⟨c, s, hs⟩ := List.exists_cons_of_ne_nil
    (show d ++ body ++ d ++ rest ≠ [] by simp [hd])
  have used : s.drop (d.length + body.length + d.length - 1) = rest := drop_token hd hs.symm
  have behind : layoutFrom d (d.length + body.length + d.length - 1) s = layoutFrom d 0 rest := by
    rw [layoutFrom_drop, used]
  rw [hs] at found ⊢
  rw [layoutFrom, found]
  exact congrArg (.slot (String.ofList body) :: ·) behind

/-- The template is its layout with the tokens in its slots. -/
theorem write_layout (d : Delimiter) (input : String) : (d.layout input).write d.wrap = input := by
  rw [← String.toList_inj, Layout.toList_write]
  simp only [toList_wrap]
  exact chars_layoutFrom d.toList_text_ne_nil 0 input.toList

/-! ## Undisturbed searches -/

/-- What stands in a slot when the tokens whose bodies are in `done` have been resolved. -/
def halfway (d : Delimiter) (value : String → String) (done : List String) (body : String) :
    String :=
  if body ∈ done then value body else d.wrap body

/-- What the search for the tokens with the body `next` should find in a slot by then. -/
def sought (d : Delimiter) (value : String → String) (done : List String) (next body : String) :
    Layout Unit :=
  if body ∈ done then .plain (value body).toList
  else if body = next then [.slot ()]
  else .plain (d.wrap body).toList

/-- The search for the tokens with the body `next` finds these tokens and nothing else in the
template as it is when the bodies in `done` have been resolved. -/
def UndisturbedAt (d : Delimiter) (value : String → String) (input : String) (done : List String)
    (next : String) : Prop :=
  occurrences (d.wrap next).toList ((d.layout input).write (d.halfway value done)).toList =
    (d.layout input).expand (d.sought value done next)

instance (d : Delimiter) (value : String → String) (input : String) (done : List String)
    (next : String) : Decidable (d.UndisturbedAt value input done next) :=
  inferInstanceAs (Decidable (_ = _))

/-- Every token is searched for without disturbance, in its turn. -/
def Undisturbed (d : Delimiter) (value : String → String) (input : String) : Prop :=
  ∀ k (h : k < (d.tokens input).length),
    d.UndisturbedAt value input ((d.tokens input).take k) (d.tokens input)[k]

instance (d : Delimiter) (value : String → String) (input : String) :
    Decidable (d.Undisturbed value input) :=
  inferInstanceAs (Decidable (∀ k (_ : k < _), _))

/-- What the search should find, with `v` written into the slots that it should find. -/
theorem toList_write_sought (l : Layout String) (v : String) (done : List String)
    (next : String) :
    (l.write fun body =>
        if body ∈ done then value body else if body = next then v else d.wrap body).toList =
      (l.expand (d.sought value done next)).chars fun _ => v.toList := by
  rw [Layout.toList_write, Layout.chars_expand]
  refine Layout.chars_congr fun body _ => ?_
  unfold sought
  split_ifs
  · exact (Layout.chars_plain _ _).symm
  · exact (List.append_nil _).symm
  · exact (Layout.chars_plain _ _).symm

theorem toList_replaceAllString (old v s : String) :
    (replaceAllString old v s).toList =
      (occurrences old.toList s.toList).chars fun _ => v.toList := by
  rw [replaceAllString, String.toList_ofList, replaceAll_eq_chars]

/-- An undisturbed search is one after which replacing is right, whatever the value. -/
theorem undisturbedAt_iff {done : List String} {next : String} :
    d.UndisturbedAt value input done next ↔
      ∀ v, replaceAllString (d.wrap next) v ((d.layout input).write (d.halfway value done)) =
        (d.layout input).write fun body =>
          if body ∈ done then value body else if body = next then v else d.wrap body := by
  constructor
  · intro undisturbed v
    rw [← String.toList_inj, toList_replaceAllString, toList_write_sought, undisturbed]
  · intro right
    -- what becomes of the slots for all values tells which slots there are
    refine Layout.ext_of_chars fun v => ?_
    have h := congrArg String.toList (right (String.ofList v))
    rwa [toList_replaceAllString, toList_write_sought, String.toList_ofList] at h

/-- An undisturbed search is followed by the next text halfway. -/
theorem substitute_halfway {done : List String} {next : String}
    (undisturbed : d.UndisturbedAt value input done next) :
    d.substitute value ((d.layout input).write (d.halfway value done)) next =
      (d.layout input).write (d.halfway value (done ++ [next])) := by
  rw [substitute, undisturbedAt_iff.1 undisturbed]
  refine congrArg (fun f => (d.layout input).write f) (funext fun body => ?_)
  unfold halfway
  by_cases hd : body ∈ done
  · rw [if_pos hd, if_pos (List.mem_append_left _ hd)]
  · by_cases hn : body = next
    · rw [if_neg hd, if_pos hn, if_pos (by simp [hn]), hn]
    · rw [if_neg hd, if_neg hn, if_neg (by simp [hd, hn])]

/-- From one text halfway to a later one. -/
theorem foldl_substitute_halfway (undisturbed : d.Undisturbed value input)
    {done later : List String} (split : d.tokens input = done ++ later) :
    later.foldl (d.substitute value) ((d.layout input).write (d.halfway value done)) =
      (d.layout input).write (d.halfway value (d.tokens input)) := by
  induction later generalizing done with
  | nil => rw [List.foldl_nil, split, List.append_nil]
  | cons next later ih =>
    have turn : d.UndisturbedAt value input done next := by
      have h := undisturbed done.length (by simp [split])
      simpa [split] using h
    rw [List.foldl_cons, substitute_halfway turn, ih (by rw [split]; simp)]

theorem write_halfway_nil : (d.layout input).write (d.halfway value []) = input := by
  have wraps : d.halfway value [] = d.wrap := by
    funext body
    exact if_neg List.not_mem_nil
  rw [wraps, write_layout]

theorem write_halfway_tokens :
    (d.layout input).write (d.halfway value (d.tokens input)) = (d.layout input).write value := by
  rw [← String.toList_inj, Layout.toList_write, Layout.toList_write]
  refine Layout.chars_congr fun body hb => ?_
  rw [slots_layout] at hb
  rw [halfway, if_pos hb]

/-- When every search is undisturbed, every value ends up in the places of its tokens. -/
theorem against_patch_of_undisturbed
    (resolved : ∀ body ∈ d.tokens input, (resolve body).outcome reader = .ok (value body))
    (undisturbed : d.Undisturbed value input) :
    (d.patch input).against reader =
      (.ok ((d.layout input).write value),
        (d.tokens input).flatMap fun body => (resolve body).reads reader) := by
  have run := against_foldlM_of_resolved (d := d) resolved input
  have text : (d.tokens input).foldl (d.substitute value) input =
      (d.layout input).write value := by
    calc (d.tokens input).foldl (d.substitute value) input
        = (d.tokens input).foldl (d.substitute value)
            ((d.layout input).write (d.halfway value [])) := by rw [write_halfway_nil]
      _ = (d.layout input).write (d.halfway value (d.tokens input)) :=
          foldl_substitute_halfway undisturbed (List.nil_append _).symm
      _ = (d.layout input).write value := write_halfway_tokens
  rw [patch, run, text]

/-! ## Tokens that are alike -/

/-- A delimiter ends a token at once. -/
theorem closing?_append_self (d rest : List Char) : closing? d (d ++ rest) = some [] := by
  cases hs : d ++ rest with
  | nil =>
    rw [(List.append_eq_nil_iff.1 hs).1]
    rfl
  | cons c s =>
    have here : after? d (c :: s) = some rest := hs ▸ after?_append d rest
    rw [closing?, here]
    rfl

/-- A delimiter is found again wherever it stands further on in the line. -/
theorem closing?_isSome {d body rest : List Char} (line : '\n' ∉ body) :
    (closing? d (body ++ (d ++ rest))).isSome := by
  induction body with
  | nil =>
    rw [List.nil_append, closing?_append_self]
    rfl
  | cons c body ih =>
    rw [List.mem_cons, not_or] at line
    rw [List.cons_append, closing?, if_neg (Ne.symm line.1)]
    split
    · rfl
    · rw [Option.isSome_map]
      exact ih line.2

/-- Behind a delimiter, a token starts when it is closed. -/
theorem opening?_append (d body rest : List Char) :
    opening? d (d ++ body ++ d ++ rest) = closing? d (body ++ (d ++ rest)) := by
  have behind : after? d (d ++ body ++ d ++ rest) = some (body ++ (d ++ rest)) := by
    rw [List.append_assoc, List.append_assoc]
    exact after?_append d _
  rw [opening?, behind]
  rfl

/-- A token starts wherever the text of a token on one line does. -/
theorem opening?_isSome_of_prefix {d body s : List Char} (line : '\n' ∉ body)
    (h : d ++ body ++ d <+: s) : (opening? d s).isSome := by
  obtain ⟨rest, rfl⟩ := h
  rw [opening?_append]
  exact closing?_isSome line

/-- Where all tokens are alike, the search for their text finds just them. -/
theorem occurrencesFrom_of_alike {d b : List Char} (hd : d ≠ []) (line : '\n' ∉ b) {n : Nat}
    {s : List Char} (alike : ∀ body ∈ tokensFrom d n s, body = b) :
    occurrencesFrom (d ++ b ++ d) n s = (layoutFrom d n s).expand fun _ => [.slot ()] := by
  induction s generalizing n with
  | nil => cases n <;> rfl
  | cons c s ih =>
    cases n with
    | succ n => exact ih alike
    | zero =>
      rw [tokensFrom] at alike
      cases found : opening? d (c :: s) with
      | none =>
        have absent : ¬ d ++ b ++ d <+: c :: s := fun h => by
          simpa [found] using opening?_isSome_of_prefix line h
        rw [found] at alike
        rw [← occurrences, occurrences_cons_of_absent absent, occurrences, ih alike, layoutFrom,
          found]
        rfl
      | some body =>
        rw [found, List.forall_mem_cons] at alike
        obtain ⟨rfl, alike⟩ := alike
        -- the scan and the search go on behind the same token
        obtain ⟨-, rest, hs⟩ := opening?_eq_some found
        have here : after? (d ++ body ++ d) (c :: s) = some rest := after?_eq_some.2 hs
        have enter : ((some rest).isSome && d ++ body ++ d != []) = true := by simp [hd]
        have used : (d ++ body ++ d).length - 1 = d.length + body.length + d.length - 1 := by
          simp only [List.length_append]
        rw [occurrencesFrom, layoutFrom, here, found, if_pos enter, used, ih alike]
        rfl

/-- No token goes over the end of a line. -/
theorem newline_not_mem_of_mem_tokensFrom {d : List Char} {n : Nat} {s body : List Char}
    (h : body ∈ tokensFrom d n s) : '\n' ∉ body := by
  induction s generalizing n with
  | nil => cases n <;> cases h
  | cons c s ih =>
    cases n with
    | succ n => exact ih h
    | zero =>
      rw [tokensFrom] at h
      cases found : opening? d (c :: s) with
      | none =>
        rw [found] at h
        exact ih h
      | some b =>
        rw [found] at h
        rcases List.mem_cons.1 h with rfl | h
        · exact (opening?_eq_some found).1
        · exact ih h

/-- The first search in a template whose tokens are alike is undisturbed. -/
theorem undisturbedAt_of_alike {b : String} (alike : ∀ body ∈ d.tokens input, body = b)
    (present : b ∈ d.tokens input) : d.UndisturbedAt value input [] b := by
  have line : '\n' ∉ b.toList := by
    obtain ⟨body, hb, rfl⟩ := List.mem_map.1 present
    rw [String.toList_ofList]
    exact newline_not_mem_of_mem_tokensFrom hb
  have alike' : ∀ body ∈ tokensFrom d.text.toList 0 input.toList, body = b.toList := by
    intro body hb
    rw [← alike (String.ofList body) (List.mem_map_of_mem hb), String.toList_ofList]
  rw [UndisturbedAt, write_halfway_nil, toList_wrap, occurrences,
    occurrencesFrom_of_alike d.toList_text_ne_nil line alike']
  refine Layout.expand_congr fun body hb => ?_
  rw [slots_layoutFrom] at hb
  rw [sought, if_neg List.not_mem_nil, if_pos (alike body hb)]

/-- A single token is never disturbed. -/
theorem undisturbed_of_length_le_one (h : (d.tokens input).length ≤ 1) :
    d.Undisturbed value input := by
  intro k hk
  obtain ⟨b, single⟩ : ∃ b, d.tokens input = [b] := List.length_eq_one_iff.1 (by omega)
  have hk0 : k = 0 := by omega
  subst hk0
  refine undisturbedAt_of_alike (fun body hb => ?_) (List.getElem_mem hk)
  simpa [single] using hb

/-! ## The rendering -/

/-- In the rendering of a template whose tokens resolve, the texts of the tokens are replaced by
their values, one after the other and wherever they stand by then. It is the layout of the template
with the values in its slots, if there is one token at most, or if every search is undisturbed. -/
theorem outcome_patch_of_resolved
    (resolved : ∀ body ∈ d.tokens input, (resolve body).outcome reader = .ok (value body)) :
    (d.layout input).slots = d.tokens input ∧
      (d.layout input).write d.wrap = input ∧
      (d.patch input).outcome reader =
        .ok ((d.tokens input).foldl (d.substitute value) input) ∧
      ((d.tokens input).length ≤ 1 ∨ d.Undisturbed value input →
        (d.patch input).outcome reader = .ok ((d.layout input).write value)) := by
  refine ⟨d.slots_layout input, d.write_layout input, ?_, ?_⟩
  · rw [outcome, patch, against_foldlM_of_resolved resolved]
  · intro clear
    have undisturbed : d.Undisturbed value input :=
      clear.elim undisturbed_of_length_le_one id
    rw [outcome, against_patch_of_undisturbed resolved undisturbed]

/-! ## Disturbed and undisturbed templates -/

/-- A store with a value in the field `f` at each of the places `k/a`, `k/b` and `k/c`. -/
def threeSecrets (a b c : String) : Store where
  entries := [
    (⟨.v2, "k", "a"⟩, .ok ⟨[("f", .string a)]⟩),
    (⟨.v2, "k", "b"⟩, .ok ⟨[("f", .string b)]⟩),
    (⟨.v2, "k", "c"⟩, .ok ⟨[("f", .string c)]⟩)]

/-- The values of the references to these places. -/
def threeValues (a b c body : String) : String :=
  if body = "path=k/a,field=f" then a else if body = "path=k/b,field=f" then b else c

/-- Three tokens; the text of the first stands once more across the two others. -/
def crossedTemplate : String :=
  "@@path=k/b,field=f@@ @@path=k/a,field=f@@path=k/b,field=f@@path=k/c,field=f@@"

/-- Two tokens that stand apart. -/
def separateTemplate : String :=
  "@@path=k/a,field=f@@-@@path=k/b,field=f@@"

/-- The values of a template may stand somewhere else, or not at all: the text of a token is also
replaced where it stands across two other tokens, and where it stands in a value. -/
theorem outcome_patch_ne_write :
    ((∀ body ∈ standard.tokens crossedTemplate,
        (resolve body).outcome (threeSecrets "A" "B" "C").reader =
          .ok (threeValues "A" "B" "C" body)) ∧
      (standard.patch crossedTemplate).outcome (threeSecrets "A" "B" "C").reader =
        .ok "B @@path=k/a,field=fBpath=k/c,field=f@@" ∧
      (standard.patch crossedTemplate).outcome (threeSecrets "A" "B" "C").reader ≠
        .ok ((standard.layout crossedTemplate).write (threeValues "A" "B" "C"))) ∧
    (∀ body ∈ standard.tokens separateTemplate,
        (resolve body).outcome (threeSecrets "@@path=k/b,field=f@@" "B" "C").reader =
          .ok (threeValues "@@path=k/b,field=f@@" "B" "C" body)) ∧
      (standard.patch separateTemplate).outcome
          (threeSecrets "@@path=k/b,field=f@@" "B" "C").reader = .ok "B-B" ∧
      (standard.patch separateTemplate).outcome
          (threeSecrets "@@path=k/b,field=f@@" "B" "C").reader ≠
        .ok ((standard.layout separateTemplate).write
          (threeValues "@@path=k/b,field=f@@" "B" "C")) := by
  have crossed : (standard.patch crossedTemplate).outcome (threeSecrets "A" "B" "C").reader =
      .ok "B @@path=k/a,field=fBpath=k/c,field=f@@" := by decide +kernel
  have apart : (standard.layout crossedTemplate).write (threeValues "A" "B" "C") =
      "B Apath=k/b,field=fC" := by decide +kernel
  have reread : (standard.patch separateTemplate).outcome
      (threeSecrets "@@path=k/b,field=f@@" "B" "C").reader = .ok "B-B" := by decide +kernel
  have once : (standard.layout separateTemplate).write
      (threeValues "@@path=k/b,field=f@@" "B" "C") = "@@path=k/b,field=f@@-B" := by
    decide +kernel
  refine ⟨⟨by decide +kernel, crossed, ?_⟩, by decide +kernel, reread, ?_⟩
  · rw [crossed, apart]
    decide
  · rw [reread, once]
    decide

/-- Values that hold the delimiter, or nothing, need not disturb a template. -/
theorem outcome_patch_separateTemplate :
    (∀ body ∈ standard.tokens separateTemplate,
        (resolve body).outcome (threeSecrets "x@@y" "" "C").reader =
          .ok (threeValues "x@@y" "" "C" body)) ∧
      standard.Undisturbed (threeValues "x@@y" "" "C") separateTemplate ∧
      (standard.patch separateTemplate).outcome (threeSecrets "x@@y" "" "C").reader =
        .ok "x@@y-" := by
  have resolved : ∀ body ∈ standard.tokens separateTemplate,
      (resolve body).outcome (threeSecrets "x@@y" "" "C").reader =
        .ok (threeValues "x@@y" "" "C" body) := by decide +kernel
  have undisturbed : standard.Undisturbed (threeValues "x@@y" "" "C") separateTemplate := by
    decide +kernel
  have text : (standard.layout separateTemplate).write (threeValues "x@@y" "" "C") =
      "x@@y-" := by decide +kernel
  refine ⟨resolved, undisturbed, ?_⟩
  rw [← text]
  obtain ⟨_, _, _, rendered⟩ := outcome_patch_of_resolved resolved
  exact rendered (.inr undisturbed)

end Delimiter

end SecretTemplate
