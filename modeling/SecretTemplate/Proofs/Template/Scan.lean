import Mathlib.Data.List.Infix
import SecretTemplate.Proofs.Template.Splice

/-!
# Where the tokens of a template stand

The tokens of a template are spans of its text. A span is a delimiter, a body on one line, and the
nearest delimiter behind that. Spans do not overlap, and wherever a token could start one of them
stands already. These rules leave nothing open: a text has one list of spans that keeps them, and
its tokens are those of that list, in order.

Results:
1. `opening?_eq_some_iff`: the token that starts somewhere has the shortest body.
2. `isScan_spansFrom`: the scan for tokens finds a list of spans that keeps the rules.
3. `IsScan.unique`: there is no other list.
4. `tokens_isScan`: the tokens of a template are the spans that keep the rules.
-/

namespace SecretTemplate

open Text

/-- A stretch of a text: where it starts, and what stands in it between two delimiters. -/
structure Span where
  start : Nat
  body : List Char
  deriving DecidableEq, Repr

namespace Span

/-- Where the text goes on behind a span. -/
def stop (d : List Char) (σ : Span) : Nat :=
  σ.start + (d.length + σ.body.length + d.length)

/-- What a text holds in a span. -/
def text (d s : List Char) (σ : Span) : List Char :=
  (s.drop σ.start).take (σ.stop d - σ.start)

end Span

namespace Delimiter

variable {d s body rest : List Char} {n p : Nat} {σ τ : Span} {σs τs : List Span}

/-- The delimiter is in a body that is followed by a delimiter only behind the body. -/
def ClosesFirst (d body : List Char) : Prop :=
  ∀ i < body.length, ¬ d <+: (body ++ d).drop i

/-- A token could start at `p`: there is a delimiter, and another one further on in the line. -/
def Opens (d s : List Char) (p : Nat) : Prop :=
  ∃ w, '\n' ∉ w ∧ d ++ w ++ d <+: s.drop p

/-- A span of a delimiter, a body on one line and the nearest delimiter behind it. -/
structure IsToken (d s : List Char) (σ : Span) : Prop where
  wrapped : d ++ σ.body ++ d <+: s.drop σ.start
  line : '\n' ∉ σ.body
  first : ClosesFirst d σ.body

/-- The spans behind the first `n` characters: each of them is a token, one ends before the next
starts, and no place in front of them, between them or behind them is one where a token could
start. -/
structure IsScan (d s : List Char) (n : Nat) (σs : List Span) : Prop where
  tokens : ∀ σ ∈ σs, IsToken d s σ
  ordered : σs.Pairwise fun σ τ => σ.stop d ≤ τ.start
  behind : ∀ σ ∈ σs, n ≤ σ.start
  covered : ∀ p, n ≤ p → Opens d s p → ∃ σ ∈ σs, σ.start ≤ p ∧ p < σ.stop d

/-! ## The nearest delimiter -/

/-- A delimiter behind a body is found in every text that starts with both. -/
theorem prefix_drop_iff {i : Nat} (hi : i ≤ body.length) (h : body ++ d <+: s) :
    d <+: (body ++ d).drop i ↔ d <+: s.drop i := by
  have inside : (body ++ d).drop i <+: s.drop i := h.drop i
  constructor
  · intro found
    exact found.trans inside
  · intro found
    refine List.prefix_of_prefix_length_le found inside ?_
    rw [List.length_drop, List.length_append]
    omega

/-- The nearest delimiter is in one place only. -/
theorem eq_of_closesFirst {a b : List Char} (ha : a ++ d <+: s) (hb : b ++ d <+: s)
    (fa : ClosesFirst d a) (fb : ClosesFirst d b) : a = b := by
  have notShorter {a b : List Char} (ha : a ++ d <+: s) (hb : b ++ d <+: s)
      (fb : ClosesFirst d b) : b.length ≤ a.length := by
    by_contra shorter
    have lt : a.length < b.length := Nat.lt_of_not_le shorter
    have here : d <+: s.drop a.length := by
      obtain ⟨rest, rfl⟩ := ha
      rw [List.append_assoc, List.drop_left]
      exact List.prefix_append d rest
    exact fb a.length lt ((prefix_drop_iff (Nat.le_of_lt lt) hb).2 here)
  have length : a.length = b.length := Nat.le_antisymm (notShorter hb ha fa) (notShorter ha hb fb)
  have pa : a <+: s := (List.prefix_append a d).trans ha
  have pb : b <+: s := (List.prefix_append b d).trans hb
  exact (List.prefix_of_prefix_length_le pa pb (Nat.le_of_eq length)).eq_of_length length

/-- No delimiter stands in front of the one at which a body ends. -/
theorem not_prefix_of_closing? (found : closing? d s = some body) :
    ∀ i < body.length, ¬ d <+: s.drop i := by
  induction s generalizing body with
  | nil =>
    intro i hi
    unfold closing? at found
    split at found
    · cases found
      cases hi
    · cases found
  | cons c s ih =>
    intro i hi
    unfold closing? at found
    split at found
    · cases found
      cases hi
    · next absent =>
      split at found
      · cases found
      · obtain ⟨b, hb, rfl⟩ := Option.map_eq_some_iff.1 found
        cases i with
        | zero =>
          rintro ⟨rest, hrest⟩
          have : after? d (c :: s) = some rest := after?_eq_some.2 hrest.symm
          exact absent (by rw [this]; rfl)
        | succ i => exact ih hb i (Nat.lt_of_succ_lt_succ hi)

/-- The token that starts somewhere has the shortest body on one line. -/
theorem opening?_eq_some_iff :
    opening? d s = some body ↔ d ++ body ++ d <+: s ∧ '\n' ∉ body ∧ ClosesFirst d body := by
  have sound {b : List Char} (found : opening? d s = some b) :
      d ++ b ++ d <+: s ∧ '\n' ∉ b ∧ ClosesFirst d b := by
    obtain ⟨line, rest, hs⟩ := opening?_eq_some found
    refine ⟨⟨rest, hs.symm⟩, line, fun i hi h => ?_⟩
    rw [hs, opening?_append] at found
    have whole : b ++ d <+: b ++ (d ++ rest) := by
      rw [← List.append_assoc]
      exact List.prefix_append _ _
    exact not_prefix_of_closing? found i hi ((prefix_drop_iff (Nat.le_of_lt hi) whole).1 h)
  constructor
  · exact sound
  · rintro ⟨wrapped, line, first⟩
    have some : (opening? d s).isSome := opening?_isSome_of_prefix line wrapped
    obtain ⟨b, found⟩ := Option.isSome_iff_exists.1 some
    obtain ⟨wrapped', -, first'⟩ := sound found
    -- both bodies stand behind the same delimiter
    have same : b = body := by
      obtain ⟨t, ht⟩ := wrapped
      obtain ⟨t', ht'⟩ := wrapped'
      have e : d ++ (b ++ d ++ t') = d ++ (body ++ d ++ t) := by
        simpa only [List.append_assoc] using ht'.trans ht.symm
      exact eq_of_closesFirst ⟨t', List.append_cancel_left e⟩ ⟨t, rfl⟩ first' first
    rw [← same]
    exact found

theorem opens_iff : Opens d s p ↔ (opening? d (s.drop p)).isSome := by
  constructor
  · rintro ⟨w, line, wrapped⟩
    exact opening?_isSome_of_prefix line wrapped
  · intro some
    obtain ⟨body, found⟩ := Option.isSome_iff_exists.1 some
    obtain ⟨wrapped, line, -⟩ := opening?_eq_some_iff.1 found
    exact ⟨body, line, wrapped⟩

/-! ## The rules for spans -/

theorem IsToken.opens (h : IsToken d s σ) : Opens d s σ.start :=
  ⟨σ.body, h.line, h.wrapped⟩

theorem IsToken.eq_of_start (hσ : IsToken d s σ) (hτ : IsToken d s τ) (h : σ.start = τ.start) :
    σ = τ := by
  have found : opening? d (s.drop σ.start) = some σ.body :=
    opening?_eq_some_iff.2 ⟨hσ.wrapped, hσ.line, hσ.first⟩
  have found' : opening? d (s.drop τ.start) = some τ.body :=
    opening?_eq_some_iff.2 ⟨hτ.wrapped, hτ.line, hτ.first⟩
  rw [h, found'] at found
  cases σ
  cases τ
  cases h
  cases found
  rfl

/-- What a text holds in a token is the body between two delimiters. -/
theorem IsToken.text (h : IsToken d s σ) : σ.text d s = d ++ σ.body ++ d := by
  have length : σ.stop d - σ.start = (d ++ σ.body ++ d).length := by
    rw [Span.stop, Nat.add_sub_cancel_left, List.length_append, List.length_append]
  rw [Span.text, length]
  exact (List.prefix_iff_eq_take.1 h.wrapped).symm

/-- Where no token could start, the spans are those behind that place. -/
theorem IsScan.of_not_opens (h : IsScan d s (p + 1) σs) (none : ¬ Opens d s p) :
    IsScan d s p σs where
  tokens := h.tokens
  ordered := h.ordered
  behind σ hσ := Nat.le_of_succ_le (h.behind σ hσ)
  covered q hq opens := by
    rcases Nat.eq_or_lt_of_le hq with rfl | later
    · exact absurd opens none
    · exact h.covered q later opens

theorem IsScan.cons (token : IsToken d s σ) (h : IsScan d s (σ.stop d) σs) :
    IsScan d s σ.start (σ :: σs) where
  tokens := List.forall_mem_cons.2 ⟨token, h.tokens⟩
  ordered := List.pairwise_cons.2 ⟨h.behind, h.ordered⟩
  behind := by
    refine List.forall_mem_cons.2 ⟨Nat.le_refl _, fun τ hτ => ?_⟩
    exact Nat.le_trans (Nat.le_add_right _ _) (h.behind τ hτ)
  covered q hq opens := by
    rcases Nat.lt_or_ge q (σ.stop d) with inside | later
    · exact ⟨σ, List.mem_cons_self, hq, inside⟩
    · obtain ⟨τ, hτ, around⟩ := h.covered q later opens
      exact ⟨τ, List.mem_cons_of_mem _ hτ, around⟩

theorem IsScan.tail (h : IsScan d s n (σ :: σs)) : IsScan d s (σ.stop d) σs where
  tokens τ hτ := h.tokens τ (List.mem_cons_of_mem _ hτ)
  ordered := (List.pairwise_cons.1 h.ordered).2
  behind := (List.pairwise_cons.1 h.ordered).1
  covered q hq opens := by
    have after : n ≤ q := by
      have first : n ≤ σ.start := h.behind σ List.mem_cons_self
      exact Nat.le_trans first (Nat.le_trans (Nat.le_add_right _ _) hq)
    obtain ⟨τ, hτ, low, high⟩ := h.covered q after opens
    rcases List.mem_cons.1 hτ with rfl | hτ
    · exact absurd high (Nat.not_lt.2 hq)
    · exact ⟨τ, hτ, low, high⟩

theorem IsScan.opens (h : IsScan d s n (σ :: σs)) : n ≤ σ.start ∧ Opens d s σ.start :=
  ⟨h.behind σ List.mem_cons_self, (h.tokens σ List.mem_cons_self).opens⟩

theorem IsScan.start_le (h : IsScan d s n (σ :: σs)) (hp : n ≤ p) (opens : Opens d s p) :
    σ.start ≤ p := by
  obtain ⟨τ, hτ, low, -⟩ := h.covered p hp opens
  rcases List.mem_cons.1 hτ with rfl | hτ
  · exact low
  · have later : σ.stop d ≤ τ.start := (List.pairwise_cons.1 h.ordered).1 τ hτ
    exact Nat.le_trans (Nat.le_add_right _ _) (Nat.le_trans later low)

/-- A text has one list of spans that keeps the rules. -/
theorem IsScan.unique (h : IsScan d s n σs) (h' : IsScan d s n τs) : σs = τs := by
  induction σs generalizing n τs with
  | nil =>
    cases τs with
    | nil => rfl
    | cons τ τs =>
      obtain ⟨hn, opens⟩ := h'.opens
      obtain ⟨σ, hσ, -⟩ := h.covered _ hn opens
      cases hσ
  | cons σ σs ih =>
    cases τs with
    | nil =>
      obtain ⟨hn, opens⟩ := h.opens
      obtain ⟨τ, hτ, -⟩ := h'.covered _ hn opens
      cases hτ
    | cons τ τs =>
      obtain ⟨hσ, opensσ⟩ := h.opens
      obtain ⟨hτ, opensτ⟩ := h'.opens
      have start : σ.start = τ.start :=
        Nat.le_antisymm (h.start_le hτ opensτ) (h'.start_le hσ opensσ)
      have same : σ = τ := (h.tokens σ List.mem_cons_self).eq_of_start
        (h'.tokens τ List.mem_cons_self) start
      subst same
      rw [ih h.tail h'.tail]

/-! ## The scan for tokens -/

/-- The spans of the tokens in a text that starts at `p`, behind its next `used` characters, which
belong to the token before them. -/
def spansFrom (d : List Char) : (p used : Nat) → List Char → List Span
  | _, _, [] => []
  | p, used + 1, _ :: s => spansFrom d (p + 1) used s
  | p, 0, c :: s =>
    match opening? d (c :: s) with
    | some body =>
      ⟨p, body⟩ :: spansFrom d (p + 1) (d.length + body.length + d.length - 1) s
    | none => spansFrom d (p + 1) 0 s

/-- The scan for tokens finds the bodies of these spans. -/
theorem map_body_spansFrom (d : List Char) (p used : Nat) (s : List Char) :
    (spansFrom d p used s).map Span.body = tokensFrom d used s := by
  induction s generalizing p used with
  | nil => cases used <;> rfl
  | cons c s ih =>
    cases used with
    | succ used => exact ih (p + 1) used
    | zero =>
      rw [spansFrom, tokensFrom]
      cases opening? d (c :: s) with
      | none => exact ih (p + 1) 0
      | some body => exact congrArg (body :: ·) (ih (p + 1) _)

/-- The scan for tokens finds a list of spans that keeps the rules. The induction is on what is
left of the text, which starts at `p`. -/
theorem isScan_spansFrom (hd : d ≠ []) (used : Nat) (hs : s.drop p = rest) :
    IsScan d s (p + used) (spansFrom d p used rest) := by
  induction rest generalizing p used with
  | nil =>
    have nothing : ¬∃ q, p + used ≤ q ∧ Opens d s q := by
      rintro ⟨q, hq, w, -, wrapped⟩
      have empty : s.drop q = [] := by
        rw [List.drop_eq_nil_iff] at hs ⊢
        omega
      rw [empty, List.prefix_nil, List.append_assoc, List.append_eq_nil_iff] at wrapped
      exact hd wrapped.1
    rw [spansFrom]
    exact ⟨by simp, .nil, by simp, fun q hq opens => absurd ⟨q, hq, opens⟩ nothing⟩
  | cons c rest ih =>
    have next : s.drop (p + 1) = rest := by rw [← List.tail_drop, hs, List.tail_cons]
    cases used with
    | succ used =>
      have later := ih used next
      rwa [Nat.add_assoc, Nat.add_comm 1] at later
    | zero =>
      rw [spansFrom]
      cases found : opening? d (c :: rest) with
      | none =>
        have none : ¬ Opens d s p := by
          rw [opens_iff, hs, found]
          exact Bool.false_ne_true
        exact (ih 0 next).of_not_opens none
      | some body =>
        rw [← hs] at found
        obtain ⟨wrapped, line, first⟩ := opening?_eq_some_iff.1 found
        have token : IsToken d s ⟨p, body⟩ := ⟨wrapped, line, first⟩
        have later := ih (d.length + body.length + d.length - 1) next
        have stop : p + 1 + (d.length + body.length + d.length - 1) = Span.stop d ⟨p, body⟩ := by
          have pos : 0 < d.length := List.length_pos_iff.2 hd
          unfold Span.stop
          dsimp only
          omega
        rw [stop] at later
        exact later.cons token

/-- There is one list of spans that keeps the rules for a template: each span is a delimiter, a body
on one line and the nearest delimiter behind it, and a token could start nowhere else than in one of
them. The tokens of the template are the texts of these spans, with their bodies, in order. -/
theorem tokens_isScan (d : Delimiter) (input : String) :
    ∃ σs, (∀ τs, IsScan d.text.toList input.toList 0 τs ↔ τs = σs) ∧
      (d.tokens input).map (fun body => (d.wrap body, body)) =
        σs.map fun σ =>
          (String.ofList (σ.text d.text.toList input.toList), String.ofList σ.body) := by
  have scan : IsScan d.text.toList input.toList 0 (spansFrom d.text.toList 0 0 input.toList) :=
    isScan_spansFrom (p := 0) d.toList_text_ne_nil 0 rfl
  refine ⟨_, fun τs => ⟨fun h => h.unique scan, fun h => h ▸ scan⟩, ?_⟩
  rw [tokens, ← map_body_spansFrom _ 0, List.map_map, List.map_map]
  refine List.map_congr_left fun σ hσ => Prod.ext ?_ rfl
  rw [(scan.tokens σ hσ).text, ← String.toList_inj, String.toList_ofList]
  exact (d.toList_wrap _).trans (by rw [String.toList_ofList])

example : spansFrom "@@".toList 0 0 "@@@@@ @@a\n@@b@@".toList = [⟨0, []⟩, ⟨10, ['b']⟩] := by decide

end Delimiter

end SecretTemplate
