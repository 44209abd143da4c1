import SecretTemplate.Json.Tree
import SecretTemplate.Proofs.Json.Spelling

/-!
# The grammar of JSON texts

How a tree may be written, by the productions of the grammar. Values may be nested to any depth, and
an object may have any members.

Results:
1. `parseFrom_tokens`: the tokens of a tree are read as the tree.
2. `lexFrom_of_written`: a text that the grammar derives has the tokens of what it writes.
3. `parse?_of_written`: a text that the grammar derives is read as what it writes.
-/

namespace SecretTemplate.JsonTree

open JsonToken

/-! ## The tokens of a tree -/

mutual

/-- The tokens of a tree. -/
def tokens : JsonTree → List JsonToken
  | null => [.null]
  | bool b => [.bool b]
  | number literal => [.number literal]
  | string content => [.string content]
  | array [] => [.openBracket, .closeBracket]
  | array (t :: items) => .openBracket :: (tokens t ++ (itemTokens items ++ [.closeBracket]))
  | object [] => [.openBrace, .closeBrace]
  | object ((k, t) :: members) =>
    .openBrace :: .string k :: .colon :: (tokens t ++ (memberTokens members ++ [.closeBrace]))

/-- The tokens of items behind the first. -/
def itemTokens : List JsonTree → List JsonToken
  | [] => []
  | t :: items => .comma :: (tokens t ++ itemTokens items)

/-- The tokens of members behind the first. -/
def memberTokens : List (List UInt8 × JsonTree) → List JsonToken
  | [] => []
  | (k, t) :: members => .comma :: .string k :: .colon :: (tokens t ++ memberTokens members)

end

theorem parseFrom_step {expect expect' : Expect} {stack stack' : List Frame} {token : JsonToken}
    (h : advance? expect stack token = some (expect', stack')) (rest : List JsonToken) :
    parseFrom expect stack (token :: rest) = parseFrom expect' stack' rest := by
  cases expect <;> cases stack <;> simp [parseFrom, h]

/-- Where a value or the first item may stand, a value may. -/
theorem advance?_item {token : JsonToken} (other : token ≠ .closeBracket) (stack : List Frame) :
    advance? .item stack token = advance? .value stack token := by
  rcases stack with _ | ⟨_ | _, stack⟩ <;> cases token <;> first | rfl | exact absurd rfl other

mutual

/-- The tokens of a tree are read as the tree, wherever a value may stand. -/
theorem parseFrom_tokens {expect : Expect} (value : expect = .value ∨ expect = .item)
    (t : JsonTree) (stack : List Frame) (rest : List JsonToken) :
    parseFrom expect stack (t.tokens ++ rest) = parseFrom (.more t) stack rest := by
  have begins {token : JsonToken} (other : token ≠ .closeBracket) :
      advance? expect stack token = advance? .value stack token := by
    rcases value with rfl | rfl
    · rfl
    · exact advance?_item other stack
  match t with
  | null => exact parseFrom_step (begins (by decide)) rest
  | bool b => exact parseFrom_step (begins (by simp)) rest
  | number literal => exact parseFrom_step (begins (by simp)) rest
  | string content => exact parseFrom_step (begins (by simp)) rest
  | array [] =>
    have close : advance? .item (.array [] :: stack) .closeBracket =
        some (.more (array []), stack) := rfl
    rw [tokens, List.cons_append, parseFrom_step (begins (by decide)), List.singleton_append,
      parseFrom_step close]
  | array (t :: items) =>
    rw [tokens, List.cons_append, parseFrom_step (begins (by decide)), List.append_assoc,
      parseFrom_tokens (.inr rfl), List.append_assoc, List.singleton_append, parseFrom_itemTokens]
    rfl
  | object [] =>
    have close : advance? (.key [] true) stack .closeBrace = some (.more (object []), stack) := rfl
    rw [tokens, List.cons_append, parseFrom_step (begins (by decide)), List.singleton_append,
      parseFrom_step close]
  | object ((k, t) :: members) =>
    have key : advance? (.key [] true) stack (.string k) = some (.colon [] k, stack) := rfl
    have colon : advance? (.colon [] k) stack .colon =
        some (.value, .object [] k :: stack) := rfl
    rw [tokens, List.cons_append, parseFrom_step (begins (by decide)), List.cons_append,
      parseFrom_step key, List.cons_append, parseFrom_step colon, List.append_assoc,
      parseFrom_tokens (.inl rfl), List.append_assoc, List.singleton_append, parseFrom_memberTokens]
    rfl

theorem parseFrom_itemTokens (t : JsonTree) (before items : List JsonTree) (stack : List Frame)
    (rest : List JsonToken) :
    parseFrom (.more t) (.array before :: stack) (itemTokens items ++ .closeBracket :: rest) =
      parseFrom (.more (array (before.reverse ++ t :: items))) stack rest := by
  match items with
  | [] =>
    have close : advance? (.more t) (.array before :: stack) .closeBracket =
        some (.more (array (t :: before).reverse), stack) := rfl
    rw [itemTokens, List.nil_append, parseFrom_step close, List.reverse_cons]
  | next :: items =>
    have comma : advance? (.more t) (.array before :: stack) .comma =
        some (.value, .array (t :: before) :: stack) := rfl
    rw [itemTokens, List.cons_append, parseFrom_step comma, List.append_assoc,
      parseFrom_tokens (.inl rfl), parseFrom_itemTokens, List.reverse_cons, List.append_assoc]
    rfl

theorem parseFrom_memberTokens (k : List UInt8) (t : JsonTree)
    (before members : List (List UInt8 × JsonTree)) (stack : List Frame) (rest : List JsonToken) :
    parseFrom (.more t) (.object before k :: stack) (memberTokens members ++ .closeBrace :: rest) =
      parseFrom (.more (object (before.reverse ++ (k, t) :: members))) stack rest := by
  match members with
  | [] =>
    have close : advance? (.more t) (.object before k :: stack) .closeBrace =
        some (.more (object ((k, t) :: before).reverse), stack) := rfl
    rw [memberTokens, List.nil_append, parseFrom_step close, List.reverse_cons]
  | (k', next) :: members =>
    have comma : advance? (.more t) (.object before k :: stack) .comma =
        some (.key ((k, t) :: before) false, stack) := rfl
    have key : advance? (.key ((k, t) :: before) false) stack (.string k') =
        some (.colon ((k, t) :: before) k', stack) := rfl
    have colon : advance? (.colon ((k, t) :: before) k') stack .colon =
        some (.value, .object ((k, t) :: before) k' :: stack) := rfl
    rw [memberTokens, List.cons_append, List.cons_append, List.cons_append, parseFrom_step comma,
      parseFrom_step key, parseFrom_step colon, List.append_assoc, parseFrom_tokens (.inl rfl),
      parseFrom_memberTokens, List.reverse_cons, List.append_assoc]
    rfl

end

/-! ## Texts -/

/-- What a part of a text writes. -/
inductive Phrase where
  /-- A value. -/
  | value (t : JsonTree)
  /-- A value with white space around it. -/
  | element (t : JsonTree)
  /-- The items of an array, one at least. -/
  | items (t : JsonTree) (rest : List JsonTree)
  /-- A member of an object. -/
  | member (k : List UInt8) (t : JsonTree)
  /-- The members of an object, one at least. -/
  | members (k : List UInt8) (t : JsonTree) (rest : List (List UInt8 × JsonTree))

/-- A string with its quotes. -/
def quoted (content : List UInt8) : List UInt8 :=
  byteOf '"' :: (content ++ [byteOf '"'])

/-- A text writes a phrase. -/
inductive Written : Phrase → List UInt8 → Prop
  | null : Written (.value null) ("null".toList.map byteOf)
  | true : Written (.value (bool .true)) ("true".toList.map byteOf)
  | false : Written (.value (bool .false)) ("false".toList.map byteOf)
  | number {literal : List Char} :
      IsNumber literal → Written (.value (number literal)) (literal.map byteOf)
  | string {content : List UInt8} :
      IsContent content → Written (.value (string content)) (quoted content)
  | emptyArray {gap : List UInt8} :
      IsGap gap → Written (.value (array [])) (byteOf '[' :: (gap ++ [byteOf ']']))
  | array {t : JsonTree} {rest : List JsonTree} {text : List UInt8} :
      Written (.items t rest) text →
      Written (.value (array (t :: rest))) (byteOf '[' :: (text ++ [byteOf ']']))
  | emptyObject {gap : List UInt8} :
      IsGap gap → Written (.value (object [])) (byteOf '\x7b' :: (gap ++ [byteOf '\x7d']))
  | object {k : List UInt8} {t : JsonTree} {rest : List (List UInt8 × JsonTree)}
      {text : List UInt8} :
      Written (.members k t rest) text →
      Written (.value (object ((k, t) :: rest))) (byteOf '\x7b' :: (text ++ [byteOf '\x7d']))
  | element {t : JsonTree} {front text back : List UInt8} :
      IsGap front → Written (.value t) text → IsGap back →
      Written (.element t) (front ++ (text ++ back))
  | lastItem {t : JsonTree} {text : List UInt8} :
      Written (.element t) text → Written (.items t []) text
  | item {t next : JsonTree} {rest : List JsonTree} {text behind : List UInt8} :
      Written (.element t) text → Written (.items next rest) behind →
      Written (.items t (next :: rest)) (text ++ byteOf ',' :: behind)
  | member {k : List UInt8} {t : JsonTree} {front back text : List UInt8} :
      IsGap front → IsContent k → IsGap back → Written (.element t) text →
      Written (.member k t) (front ++ (quoted k ++ (back ++ byteOf ':' :: text)))
  | lastMember {k : List UInt8} {t : JsonTree} {text : List UInt8} :
      Written (.member k t) text → Written (.members k t []) text
  | members {k k' : List UInt8} {t next : JsonTree} {rest : List (List UInt8 × JsonTree)}
      {text behind : List UInt8} :
      Written (.member k t) text → Written (.members k' next rest) behind →
      Written (.members k t ((k', next) :: rest)) (text ++ byteOf ',' :: behind)

/-- A value may stand without white space. -/
theorem Written.tight {t : JsonTree} {text : List UInt8} (h : Written (.value t) text) :
    Written (.element t) text := by
  have none : IsGap [] := List.forall_mem_nil _
  simpa using Written.element none h none

/-- So may a member. -/
theorem Written.tightMember {t : JsonTree} {k text : List UInt8} (hk : IsContent k)
    (h : Written (.value t) text) : Written (.member k t) (quoted k ++ byteOf ':' :: text) := by
  have none : IsGap [] := List.forall_mem_nil _
  exact Written.member none hk none h.tight

namespace Phrase

/-- The tokens of a phrase. -/
def tokens : Phrase → List JsonToken
  | value t | element t => t.tokens
  | items t rest => t.tokens ++ itemTokens rest
  | member k t => .string k :: .colon :: t.tokens
  | members k t rest => .string k :: .colon :: (t.tokens ++ memberTokens rest)

end Phrase

theorem lexFrom_quoted {content : List UInt8} (h : IsContent content) (rest : List UInt8) :
    lexFrom .start (quoted content ++ rest) = (lexFrom .start rest).map (.string content :: ·) := by
  have quote : step? .start (byteOf '"') = some ([], .string []) := rfl
  rw [quoted, List.cons_append, lexFrom_silent quote, List.append_assoc, List.singleton_append,
    lexFrom_string h]
  rfl

theorem ends_cons {c : Char} (h : charOf (byteOf c) ∈ [',', ']', '\x7d']) (rest : List UInt8) :
    Ends (byteOf c :: rest) := by
  rintro _ ⟨⟩
  exact .inl h

/-- The tokens of a text that the grammar derives, where a value may end. -/
theorem lexFrom_of_written {p : Phrase} {text : List UInt8} (h : Written p text) :
    ∀ rest, Ends rest →
      lexFrom .start (text ++ rest) = (lexFrom .start rest).map (p.tokens ++ ·) := by
  have openBracket : step? .start (byteOf '[') = some ([.openBracket], .start) := rfl
  have closeBracket : step? .start (byteOf ']') = some ([.closeBracket], .start) := rfl
  have openBrace : step? .start (byteOf '\x7b') = some ([.openBrace], .start) := rfl
  have closeBrace : step? .start (byteOf '\x7d') = some ([.closeBrace], .start) := rfl
  have comma : step? .start (byteOf ',') = some ([.comma], .start) := rfl
  have colon : step? .start (byteOf ':') = some ([.colon], .start) := rfl
  -- The letters of the words that are values are bytes.
  have ull : "ull".toList.Forall IsByte := by decide
  have rue : "rue".toList.Forall IsByte := by decide
  have alse : "alse".toList.Forall IsByte := by decide
  induction h with
  | null =>
    intro rest _
    have first : step? .start (byteOf 'n') = some ([], .word "ull".toList .null) := rfl
    exact (lexFrom_silent first _).trans
      (lexFrom_word (by decide) (List.forall_iff_forall_mem.1 ull) rest)
  | true =>
    intro rest _
    have first : step? .start (byteOf 't') = some ([], .word "rue".toList (.bool .true)) := rfl
    exact (lexFrom_silent first _).trans
      (lexFrom_word (by decide) (List.forall_iff_forall_mem.1 rue) rest)
  | false =>
    intro rest _
    have first : step? .start (byteOf 'f') = some ([], .word "alse".toList (.bool .false)) := rfl
    exact (lexFrom_silent first _).trans
      (lexFrom_word (by decide) (List.forall_iff_forall_mem.1 alse) rest)
  | number literal => exact fun rest ends => lexFrom_number literal ends
  | string content => exact fun rest _ => lexFrom_quoted content rest
  | emptyArray gap =>
    intro rest _
    rw [List.cons_append, lexFrom_token openBracket, List.append_assoc, lexFrom_gap gap,
      List.singleton_append, lexFrom_token closeBracket, Option.map_map]
    rfl
  | array _ ih =>
    intro rest _
    rw [List.cons_append, lexFrom_token openBracket, List.append_assoc, List.singleton_append,
      ih _ (ends_cons (by decide) rest), lexFrom_token closeBracket, Option.map_map, Option.map_map]
    simp [Phrase.tokens, tokens, Function.comp_def]
  | emptyObject gap =>
    intro rest _
    rw [List.cons_append, lexFrom_token openBrace, List.append_assoc, lexFrom_gap gap,
      List.singleton_append, lexFrom_token closeBrace, Option.map_map]
    rfl
  | object _ ih =>
    intro rest _
    rw [List.cons_append, lexFrom_token openBrace, List.append_assoc, List.singleton_append,
      ih _ (ends_cons (by decide) rest), lexFrom_token closeBrace, Option.map_map, Option.map_map]
    simp [Phrase.tokens, tokens, Function.comp_def]
  | element front _ back ih =>
    intro rest ends
    rw [List.append_assoc, lexFrom_gap front, List.append_assoc, ih _ (ends.gap back),
      lexFrom_gap back]
    rfl
  | lastItem _ ih =>
    intro rest ends
    rw [ih rest ends]
    simp [Phrase.tokens, itemTokens]
  | item _ _ ih ih' =>
    intro rest ends
    rw [List.append_assoc, List.cons_append, ih _ (ends_cons (by decide) _), lexFrom_token comma,
      ih' rest ends, Option.map_map, Option.map_map]
    simp [Phrase.tokens, itemTokens, Function.comp_def]
  | member front k back _ ih =>
    intro rest ends
    rw [List.append_assoc, lexFrom_gap front, List.append_assoc, lexFrom_quoted k,
      List.append_assoc, lexFrom_gap back, List.cons_append, lexFrom_token colon, ih rest ends,
      Option.map_map, Option.map_map]
    rfl
  | lastMember _ ih =>
    intro rest ends
    rw [ih rest ends]
    simp [Phrase.tokens, memberTokens]
  | members _ _ ih ih' =>
    intro rest ends
    rw [List.append_assoc, List.cons_append, ih _ (ends_cons (by decide) _), lexFrom_token comma,
      ih' rest ends, Option.map_map, Option.map_map]
    simp [Phrase.tokens, memberTokens, Function.comp_def]

/-- A text that the grammar derives is read as what it writes. -/
theorem parse?_of_written {t : JsonTree} {text : List UInt8} (h : Written (.element t) text) :
    parse? text = some t := by
  have ends : Ends [] := by
    rintro _ ⟨⟩
  have lexed := lexFrom_of_written h [] ends
  rw [List.append_nil] at lexed
  have parsed := parseFrom_tokens (.inl rfl) t [] []
  rw [parse?, lex, lexed]
  exact parsed

end SecretTemplate.JsonTree
