import Mathlib.Data.List.Basic
import SecretTemplate.Json.Token

/-!
# The spelling of tokens

How the tokens of a JSON text may be spelled: white space anywhere between them, a string as any
content between quotes in which the escapes are well formed, a number as an optional sign, an
integer, an optional fraction and an optional exponent. A number is the only token whose end shows
in what follows it.

Results:
1. `lexFrom_gap`: white space is passed over.
2. `lexFrom_word`, `lexFrom_string`, `lexFrom_number`: the tokens of more than one byte.
-/

namespace SecretTemplate

namespace JsonToken

/-- An ASCII character as a byte. -/
def byteOf (c : Char) : UInt8 :=
  UInt8.ofNat c.toNat

/-- White space. -/
def IsGap (text : List UInt8) : Prop :=
  ∀ b ∈ text, charOf b ∈ [' ', '\n', '\t', '\r']

/-- Digits, and at least one. -/
def IsDigits (s : List Char) : Prop :=
  s ≠ [] ∧ ∀ c ∈ s, c.isDigit

/-- The literal of a natural number, without a leading zero. -/
inductive IsInteger : List Char → Prop
  | zero : IsInteger ['0']
  | digits {s : List Char} : IsDigits s → s.head? ≠ some '0' → IsInteger s

/-- The fraction of a literal, if it has one. -/
inductive IsFraction : List Char → Prop
  | absent : IsFraction []
  | digits {s : List Char} : IsDigits s → IsFraction ('.' :: s)

/-- The exponent of a literal, if it has one. -/
inductive IsExponent : List Char → Prop
  | absent : IsExponent []
  | digits {mark : Char} {sign s : List Char} : mark ∈ ['e', 'E'] → sign ∈ [[], ['+'], ['-']] →
      IsDigits s → IsExponent (mark :: (sign ++ s))

/-- The literal of a number. -/
def IsNumber (literal : List Char) : Prop :=
  ∃ sign whole fraction exponent, sign ∈ [[], ['-']] ∧ IsInteger whole ∧ IsFraction fraction ∧
    IsExponent exponent ∧ literal = sign ++ (whole ++ (fraction ++ exponent))

/-- What may stand between the quotes of a string. -/
inductive IsContent : List UInt8 → Prop
  | nil : IsContent []
  | plain {b : UInt8} {rest : List UInt8} : charOf b ≠ '"' → charOf b ≠ '\\' → 0x20 ≤ b.toNat →
      IsContent rest → IsContent (b :: rest)
  | escape {b : UInt8} {rest : List UInt8} :
      charOf b ∈ ['"', '\\', '/', 'b', 'f', 'n', 'r', 't'] → IsContent rest →
      IsContent (byteOf '\\' :: b :: rest)
  | unicode {digits rest : List UInt8} : digits.length = 4 → (∀ b ∈ digits, isHexDigit b) →
      IsContent rest → IsContent (byteOf '\\' :: byteOf 'u' :: (digits ++ rest))

/-- Characters that need no escape may stand between quotes. -/
theorem isContent_of_plain {content : List UInt8}
    (plain : ∀ b ∈ content, charOf b ≠ '"' ∧ charOf b ≠ '\\' ∧ 0x20 ≤ b.toNat) :
    IsContent content := by
  induction content with
  | nil => exact .nil
  | cons b content ih =>
    obtain ⟨⟨quote, escape, control⟩, plain⟩ := List.forall_mem_cons.1 plain
    exact .plain quote escape control (ih plain)

/-! ## Tokens -/

theorem lexFrom_silent {mode mode' : Mode} {b : UInt8} (h : step? mode b = some ([], mode'))
    (rest : List UInt8) : lexFrom mode (b :: rest) = lexFrom mode' rest := by
  cases mode <;> simp [lexFrom, h]

theorem lexFrom_token {mode mode' : Mode} {b : UInt8} {token : JsonToken}
    (h : step? mode b = some ([token], mode')) (rest : List UInt8) :
    lexFrom mode (b :: rest) = (lexFrom mode' rest).map (token :: ·) := by
  rw [lexFrom, h, Option.map_eq_bind]
  rfl

theorem lexFrom_gap {gap : List UInt8} (h : IsGap gap) (rest : List UInt8) :
    lexFrom .start (gap ++ rest) = lexFrom .start rest := by
  induction gap with
  | nil => rfl
  | cons b gap ih =>
    obtain ⟨blank, h⟩ := List.forall_mem_cons.1 h
    rw [List.cons_append, lexFrom_append_start blank, ih h]

theorem lexFrom_hex {read digits : List UInt8} {owed : Nat} (len : digits.length = owed + 1)
    (h : ∀ b ∈ digits, isHexDigit b) (rest : List UInt8) :
    lexFrom (.hex (owed + 1) read) (digits ++ rest) =
      lexFrom (.string (digits.reverse ++ read)) rest := by
  induction digits generalizing owed read with
  | nil => cases len
  | cons b digits ih =>
    obtain ⟨hex, h⟩ := List.forall_mem_cons.1 h
    rw [List.length_cons, Nat.add_right_cancel_iff] at len
    cases owed with
    | zero =>
      have step : step? (.hex 1 read) b = some ([], .string (b :: read)) := by simp [step?, hex]
      obtain rfl := List.eq_nil_of_length_eq_zero len
      exact lexFrom_silent step rest
    | succ owed =>
      have step : step? (.hex (owed + 2) read) b = some ([], .hex (owed + 1) (b :: read)) := by
        simp [step?, hex]
      rw [List.cons_append, lexFrom_silent step, ih len h, List.reverse_cons, List.append_assoc]
      rfl

/-- A string ends at the first quote that is not escaped. -/
theorem lexFrom_string {content : List UInt8} (h : IsContent content) (read rest : List UInt8) :
    lexFrom (.string read) (content ++ byteOf '"' :: rest) =
      (lexFrom .start rest).map (.string (read.reverse ++ content) :: ·) := by
  induction h generalizing read with
  | nil =>
    have step : step? (.string read) (byteOf '"') = some ([.string read.reverse], .start) := rfl
    rw [List.nil_append, lexFrom_token step, List.append_nil]
  | @plain b content quote escape control _ ih =>
    have step : step? (.string read) b = some ([], .string (b :: read)) := by
      rw [step?.eq_def]
      dsimp only
      split
      · next h => exact absurd h quote
      · next h => exact absurd h escape
      · rw [if_neg (Nat.not_lt.2 control)]
    rw [List.cons_append, lexFrom_silent step, ih, List.reverse_cons, List.append_assoc]
    rfl
  | @escape b content known _ ih =>
    have first : step? (.string read) (byteOf '\\') =
        some ([], .escape (byteOf '\\' :: read)) := rfl
    have second : step? (.escape (byteOf '\\' :: read)) b =
        some ([], .string (b :: byteOf '\\' :: read)) := by
      simp only [List.mem_cons, List.not_mem_nil, or_false] at known
      rcases known with h | h | h | h | h | h | h | h <;> simp [step?, h]
    rw [List.cons_append, List.cons_append, lexFrom_silent first, lexFrom_silent second, ih]
    simp
  | @unicode digits content len hex _ ih =>
    have first : step? (.string read) (byteOf '\\') =
        some ([], .escape (byteOf '\\' :: read)) := rfl
    have second : step? (.escape (byteOf '\\' :: read)) (byteOf 'u') =
        some ([], .hex 4 (byteOf 'u' :: byteOf '\\' :: read)) := rfl
    rw [List.cons_append, List.cons_append, lexFrom_silent first, lexFrom_silent second,
      List.append_assoc, lexFrom_hex len hex, ih]
    simp

/-- Whether a character is its own byte. -/
def IsByte (c : Char) : Prop :=
  charOf (byteOf c) = c

instance (c : Char) : Decidable (IsByte c) :=
  inferInstanceAs (Decidable (charOf (byteOf c) = c))

theorem isByte_of_lt {c : Char} (h : c.toNat < 256) : IsByte c := by
  rw [IsByte, charOf, byteOf, UInt8.toNat_ofNat_of_lt' h, Char.ofNat_toNat]

theorem isByte_of_isDigit {c : Char} (h : c.isDigit) : IsByte c := by
  rw [Char.isDigit_iff_toNat] at h
  simp only [Char.reduceToNat] at h
  exact isByte_of_lt (by omega)

theorem lexFrom_word {token : JsonToken} {letters : List Char} (ne : letters ≠ [])
    (h : ∀ c ∈ letters, IsByte c) (rest : List UInt8) :
    lexFrom (.word letters token) (letters.map byteOf ++ rest) =
      (lexFrom .start rest).map (token :: ·) := by
  induction letters with
  | nil => exact absurd rfl ne
  | cons c letters ih =>
    obtain ⟨hc, h⟩ := List.forall_mem_cons.1 h
    rw [IsByte] at hc
    cases letters with
    | nil =>
      have step : step? (.word [c] token) (byteOf c) = some ([token], .start) := by
        simp [step?, hc]
      exact lexFrom_token step rest
    | cons d letters =>
      have step : step? (.word (c :: d :: letters) token) (byteOf c) =
          some ([], .word (d :: letters) token) := by
        simp [step?, hc]
      rw [List.map_cons, List.cons_append, lexFrom_silent step, ih (List.cons_ne_nil _ _) h]

/-! ## Numbers -/

namespace NumberPart

/-- Whether a literal that has got to a part may go on with these characters and end. -/
def Completes (part : NumberPart) (s : List Char) : Prop :=
  ∃ last, s.foldlM next? part = some last ∧ last.isComplete

theorem Completes.cons {part next : NumberPart} {c : Char} {s : List Char}
    (step : part.next? c = some next) (h : Completes next s) : Completes part (c :: s) := by
  obtain ⟨last, run, complete⟩ := h
  exact ⟨last, by rw [List.foldlM_cons, step]; exact run, complete⟩

theorem Completes.append {part next : NumberPart} {s t : List Char}
    (run : s.foldlM next? part = some next) (h : Completes next t) : Completes part (s ++ t) := by
  obtain ⟨last, run', complete⟩ := h
  exact ⟨last, by rw [List.foldlM_append, run]; exact run', complete⟩

/-- Parts that go on with digits. -/
theorem run_digits {part : NumberPart} (more : ∀ c, c.isDigit → part.next? c = some part)
    {s : List Char} (h : ∀ c ∈ s, c.isDigit) : s.foldlM next? part = some part := by
  induction s with
  | nil => rfl
  | cons c s ih =>
    obtain ⟨hc, h⟩ := List.forall_mem_cons.1 h
    rw [List.foldlM_cons, more c hc]
    exact ih h

/-- Parts that a digit leads to, and that go on with digits. -/
theorem run_first_digits {first part : NumberPart}
    (begins : ∀ c, c.isDigit → first.next? c = some part)
    (more : ∀ c, c.isDigit → part.next? c = some part) {s : List Char} (h : IsDigits s) :
    s.foldlM next? first = some part := by
  obtain ⟨ne, digits⟩ := h
  cases s with
  | nil => exact absurd rfl ne
  | cons c s =>
    obtain ⟨hc, digits⟩ := List.forall_mem_cons.1 digits
    rw [List.foldlM_cons, begins c hc]
    exact run_digits more digits

theorem completes_exponent {s : List Char} (h : IsExponent s) {part : NumberPart}
    (complete : part ∈ [zero, integer, fraction]) : Completes part s := by
  cases h with
  | absent =>
    refine ⟨part, rfl, ?_⟩
    revert part
    decide
  | @digits c sign s hc hs digits =>
    have first : part.next? c = some mark := by
      simp only [List.mem_cons, List.not_mem_nil, or_false] at complete hc
      rcases complete with rfl | rfl | rfl <;> rcases hc with rfl | rfl <;> rfl
    have more (c : Char) (h : c.isDigit) : exponent.next? c = some exponent := by simp [next?, h]
    have signed : Completes markSign s :=
      ⟨exponent, run_first_digits (fun c h => by simp [next?, h]) more digits, rfl⟩
    have unsigned : Completes mark s := by
      refine ⟨exponent, run_first_digits (fun c h => ?_) more digits, rfl⟩
      have plain : ¬(c = '+' ∨ c = '-') := by
        rintro (rfl | rfl) <;> cases h
      simp [next?, plain, h]
    refine .cons first ?_
    simp only [List.mem_cons, List.not_mem_nil, or_false] at hs
    rcases hs with rfl | rfl | rfl
    · exact unsigned
    · exact .cons rfl signed
    · exact .cons rfl signed

theorem completes_fraction {s t : List Char} (hs : IsFraction s) (ht : IsExponent t)
    {part : NumberPart} (complete : part ∈ [zero, integer]) : Completes part (s ++ t) := by
  cases hs with
  | absent => exact completes_exponent ht (by revert part; decide)
  | digits digits =>
    have first : part.next? '.' = some point := by
      revert part
      decide
    have begins (c : Char) (h : c.isDigit) : point.next? c = some fraction := by simp [next?, h]
    have more (c : Char) (h : c.isDigit) : fraction.next? c = some fraction := by simp [next?, h]
    exact .cons first (.append (run_first_digits begins more digits)
      (completes_exponent ht (by decide)))

/-- A literal begins in one way, whether behind a sign or not, and completes from there. -/
theorem completes_integer {s t : List Char} (hs : IsInteger s)
    (ht : ∀ part ∈ [zero, integer], Completes part t) :
    ∃ c rest part, s ++ t = c :: rest ∧ IsByte c ∧
      begin? (byteOf c) = some ([], .number part [c]) ∧ sign.next? c = some part ∧
      Completes part rest := by
  cases hs with
  | zero => exact ⟨'0', t, zero, rfl, rfl, rfl, rfl, ht zero (by decide)⟩
  | digits digits nonzero =>
    obtain ⟨ne, digits⟩ := digits
    cases s with
    | nil => exact absurd rfl ne
    | cons c s =>
      obtain ⟨hc, digits⟩ := List.forall_mem_cons.1 digits
      have more (c : Char) (h : c.isDigit) : integer.next? c = some integer := by simp [next?, h]
      have other : c ≠ '0' := fun same => nonzero (congrArg some same)
      refine ⟨c, s ++ t, integer, rfl, isByte_of_isDigit hc, ?_, by simp [next?, hc, other],
        .append (run_digits more digits) (ht integer (by decide))⟩
      have same : charOf (byteOf c) = c := isByte_of_isDigit hc
      rw [begin?, same]
      split <;> simp_all

end NumberPart

/-- A literal goes on with bytes only. -/
theorem isByte_of_next? {part next : NumberPart} {c : Char} (h : part.next? c = some next) :
    IsByte c := by
  by_cases digit : c.isDigit
  · exact isByte_of_isDigit digit
  · have known : c ∈ ['0', '.', 'e', 'E', '+', '-'] := by
      by_contra other
      simp only [List.mem_cons, List.not_mem_nil, or_false, not_or] at other
      cases part <;> simp [NumberPart.next?, NumberPart.next?.afterInteger,
        NumberPart.next?.afterFraction, digit, other] at h
    have bytes : ['0', '.', 'e', 'E', '+', '-'].Forall IsByte := by decide
    exact List.forall_iff_forall_mem.1 bytes c known

theorem lexFrom_part {part last : NumberPart} {s : List Char}
    (run : s.foldlM NumberPart.next? part = some last) (read : List Char) (rest : List UInt8) :
    lexFrom (.number part read) (s.map byteOf ++ rest) =
      lexFrom (.number last (s.reverse ++ read)) rest := by
  induction s generalizing part read with
  | nil =>
    obtain rfl := Option.some.inj run
    rfl
  | cons c s ih =>
    rw [List.foldlM_cons, Option.bind_eq_bind, Option.bind_eq_some_iff] at run
    obtain ⟨part', next, run⟩ := run
    have same : charOf (byteOf c) = c := isByte_of_next? next
    have step : step? (.number part read) (byteOf c) = some ([], .number part' (c :: read)) := by
      simp [step?, same, next]
    rw [List.map_cons, List.cons_append, lexFrom_silent step, ih run, List.reverse_cons,
      List.append_assoc]
    rfl

/-- What may stand behind a value: the end, a comma, a closing bracket or white space. -/
def Ends (rest : List UInt8) : Prop :=
  ∀ b ∈ rest.head?, charOf b ∈ [',', ']', '\x7d'] ∨ charOf b ∈ [' ', '\n', '\t', '\r']

theorem Ends.gap {gap rest : List UInt8} (h : IsGap gap) (ends : Ends rest) :
    Ends (gap ++ rest) := by
  cases gap with
  | nil => exact ends
  | cons b gap =>
    rintro _ ⟨⟩
    exact .inr (h b List.mem_cons_self)

theorem lexFrom_ends {part : NumberPart} (complete : part.isComplete) (read : List Char)
    {rest : List UInt8} (ends : Ends rest) :
    lexFrom (.number part read) rest = (lexFrom .start rest).map (.number read.reverse :: ·) := by
  cases rest with
  | nil => simp [lexFrom, complete]
  | cons b rest =>
    have stops : part.next? (charOf b) = none := by
      have delimiter := List.mem_append.2 (ends b rfl)
      simp only [List.cons_append, List.nil_append, List.mem_cons, List.not_mem_nil, or_false]
        at delimiter
      rcases delimiter with h | h | h | h | h | h | h <;> rw [h] <;> cases part <;> rfl
    simp only [lexFrom, step?, stops, complete, if_true]
    cases begin? b with
    | none => rfl
    | some next => cases h : lexFrom next.2 rest <;> simp [h]

/-- A number ends where a value may end. -/
theorem lexFrom_number {literal : List Char} (h : IsNumber literal) {rest : List UInt8}
    (ends : Ends rest) :
    lexFrom .start (literal.map byteOf ++ rest) =
      (lexFrom .start rest).map (.number literal :: ·) := by
  obtain ⟨sign, whole, fraction, exponent, hs, hw, hf, he, rfl⟩ := h
  obtain ⟨c, s, part, split, hc, first, signed, last, run, complete⟩ :=
    NumberPart.completes_integer hw fun part h => NumberPart.completes_fraction hf he h
  rw [split]
  simp only [List.mem_cons, List.not_mem_nil, or_false] at hs
  rcases hs with rfl | rfl
  · have step : step? .start (byteOf c) = some ([], .number part [c]) := first
    rw [List.nil_append, List.map_cons, List.cons_append, lexFrom_silent step, lexFrom_part run,
      lexFrom_ends complete _ ends]
    simp
  · have step : step? .start (byteOf '-') = some ([], .number .sign ['-']) := rfl
    have run' : (c :: s).foldlM NumberPart.next? .sign = some last := by
      rw [List.foldlM_cons, signed]
      exact run
    rw [List.singleton_append, List.map_cons, List.cons_append, lexFrom_silent step,
      lexFrom_part run', lexFrom_ends complete _ ends]
    simp

end JsonToken

end SecretTemplate
