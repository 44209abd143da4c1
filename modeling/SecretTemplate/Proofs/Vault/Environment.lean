import SecretTemplate.Proofs.Text.Blank
import SecretTemplate.Proofs.Text.Numeral
import SecretTemplate.Proofs.Text.Split
import SecretTemplate.Vault.Environment

/-!
# What an environment says

A variable has a value if it is bound to a text that is not empty. The token is the value of its
variable, and otherwise what the token file keeps in front of the line ends at its end. The timeout
is a number of seconds in decimal digits, perhaps with a plus sign in front, with any number of
letters `s` behind, and with blanks around.

A variable that is empty is passed over. A token file that keeps nothing is not: what it keeps is
taken for a token that is empty.

Results:
1. `get?_eq_some_iff`: which variables have a value.
2. `token_eq_ok_iff`: where tokens come from.
3. `settings_token`: settings have the token that the environment holds, unless the token file is
   blank.
4. `seconds?_eq_some_iff`: which texts write a number of seconds.
5. `settings_timeout`: settings have the timeout that its variable writes, and a variable that
   writes none is refused with its text.
-/

namespace SecretTemplate

open Text

namespace Environment

variable {env : Environment} {token : String}

/-! ## Variables -/

/-- A variable has a value: it is bound to a text, and that is not empty. -/
structure Sets (env : Environment) (name value : String) : Prop where
  bound : env.bindings.lookup name = some (Utf8.encodeString value)
  ne_empty : value ≠ ""

/-- Which variables have a value. -/
theorem get?_eq_some_iff {name value : String} :
    env.get? name = some value ↔ env.Sets name value := by
  constructor
  · intro h
    refine ⟨?_, get?_ne_empty h⟩
    unfold get? at h
    split at h
    · cases h
    · next bytes bound =>
      obtain ⟨text, -⟩ := Option.filter_eq_some_iff.1 h
      cases decoded : Utf8.decodeString bytes with
      | error fault =>
        rw [decoded] at text
        cases text
      | ok value' =>
        rw [decoded] at text
        cases text
        rw [bound, Utf8.decodeString_eq_ok_iff.1 decoded]
  · rintro ⟨bound, ne⟩
    rw [get?, bound]
    simp [Utf8.decodeString_encodeString, Except.toOption, ne]

theorem get?_eq_none_iff {name : String} :
    env.get? name = none ↔ ∀ value, ¬env.Sets name value := by
  simp only [← get?_eq_some_iff, Option.eq_none_iff_forall_ne_some, ne_eq]

/-! ## Tokens -/

/-- A token file keeps a token: it is a text, of the token and line ends behind it. -/
structure Keeps (file : Except FileFault (List UInt8)) (token : String) : Prop where
  text : ∃ ends : String, file = .ok (Utf8.encodeString (token ++ ends)) ∧
    ∀ c ∈ ends.toList, c = '\r' ∨ c = '\n'
  last : ∀ c ∈ token.toList.getLast?, c ≠ '\r' ∧ c ≠ '\n'

/-- An environment holds a token: the value of the variable, or, if that has none, what the token
file keeps. A token is not empty. -/
inductive Holds (env : Environment) : String → Prop
  | set {token : String} : env.Sets "VAULT_TOKEN" token → Holds env token
  | kept {token : String} : (∀ value, ¬env.Sets "VAULT_TOKEN" value) →
      Keeps env.tokenFile token → token ≠ "" → Holds env token

/-- The variable has no value, and the token file is empty or holds line ends only. -/
structure HasBlankFile (env : Environment) : Prop where
  unset : ∀ value, ¬env.Sets "VAULT_TOKEN" value
  blank : Keeps env.tokenFile ""

theorem Holds.ne_empty (h : env.Holds token) : token ≠ "" := by
  cases h with
  | set value => exact value.ne_empty
  | kept _ _ ne => exact ne

/-- What is left of a text without the line ends at its end. -/
theorem trimEndString_lineEnds_iff {text : String} :
    trimEndString (fun c => c = '\r' || c = '\n') text = token ↔
      (∃ ends : String, text = token ++ ends ∧ ∀ c ∈ ends.toList, c = '\r' ∨ c = '\n') ∧
        ∀ c ∈ token.toList.getLast?, c ≠ '\r' ∧ c ≠ '\n' := by
  rw [trimEndString, ← String.toList_inj, String.toList_ofList, trimEnd_eq_iff]
  simp only [Bool.or_eq_true, decide_eq_true_eq, Bool.or_eq_false_iff, decide_eq_false_iff_not]
  refine and_congr_left' ⟨?_, ?_⟩
  · rintro ⟨cut, whole, gone⟩
    refine ⟨String.ofList cut, ?_, by rwa [String.toList_ofList]⟩
    rw [← String.toList_inj, String.toList_append, String.toList_ofList, whole]
  · rintro ⟨ends, rfl, gone⟩
    exact ⟨ends.toList, String.toList_append, gone⟩

/-- What a token file keeps. -/
theorem fileToken_eq_ok_iff {file : Except FileFault (List UInt8)} :
    fileToken file = .ok token ↔ Keeps file token := by
  constructor
  · intro h
    unfold fileToken at h
    split at h
    · cases h
    · next bytes =>
      split at h
      · cases h
      · next text decoded =>
        obtain ⟨⟨ends, rfl, gone⟩, last⟩ := trimEndString_lineEnds_iff.1 (Except.ok.inj h)
        exact ⟨⟨ends, congrArg _ (Utf8.decodeString_eq_ok_iff.1 decoded), gone⟩, last⟩
  · rintro ⟨⟨ends, rfl, gone⟩, last⟩
    have left := trimEndString_lineEnds_iff.2 ⟨⟨ends, rfl, gone⟩, last⟩
    simp only [fileToken, Utf8.decodeString_encodeString, left]

/-- Without a value of the variable the file decides. -/
theorem token_of_unset (unset : ∀ value, ¬env.Sets "VAULT_TOKEN" value) :
    env.token = (fileToken env.tokenFile).mapError fun cause => .config (.noTokenFile cause) := by
  rw [Environment.token, get?_eq_none_iff.2 unset]
  cases fileToken env.tokenFile <;> rfl

/-- Where tokens come from. -/
theorem token_eq_ok_iff :
    env.token = .ok token ↔ env.Holds token ∨ token = "" ∧ env.HasBlankFile := by
  by_cases set : ∃ value, env.Sets "VAULT_TOKEN" value
  · -- The file is not looked at.
    obtain ⟨value, set⟩ := set
    constructor
    · intro h
      rw [token_of_variable (get?_eq_some_iff.2 set)] at h
      cases h
      exact .inl (.set set)
    · rintro (held | ⟨-, blank⟩)
      · cases held with
        | set same => exact token_of_variable (get?_eq_some_iff.2 same)
        | kept unset => exact absurd set (unset value)
      · exact absurd set (blank.unset value)
  · have unset : ∀ value, ¬env.Sets "VAULT_TOKEN" value := not_exists.1 set
    have file : env.token = .ok token ↔ Keeps env.tokenFile token := by
      rw [token_of_unset unset, ← fileToken_eq_ok_iff]
      cases fileToken env.tokenFile <;> simp [Except.mapError]
    rw [file]
    constructor
    · intro kept
      by_cases empty : token = ""
      · exact .inr ⟨empty, unset, empty ▸ kept⟩
      · exact .inl (.kept unset kept empty)
    · rintro (held | ⟨rfl, blank⟩)
      · cases held with
        | set value => exact absurd value (unset token)
        | kept _ kept => exact kept
      · exact blank.blank

/-- An environment without a token is one with a token file that yields no text. -/
theorem exists_token_eq_error (none : ∀ token, ¬env.Holds token) (shown : ¬env.HasBlankFile) :
    ∃ cause, env.token = .error (.config (.noTokenFile cause)) := by
  have unset : ∀ value, ¬env.Sets "VAULT_TOKEN" value := fun value set => none value (.set set)
  have token := token_of_unset unset
  cases file : fileToken env.tokenFile with
  | error cause => exact ⟨cause, by rw [token, file]; rfl⟩
  | ok text =>
    rw [file] at token
    rcases token_eq_ok_iff.1 token with held | ⟨-, blank⟩
    · exact absurd held (none text)
    · exact absurd blank shown

/-! ## Settings -/

/-- Without a token there are no settings. -/
theorem settings_of_token_error {cause : Error} (h : env.token = .error cause) :
    env.settings = .error cause := by
  rw [settings, h]
  rfl

/-- With a token the timeout decides. -/
theorem settings_of_token_ok (h : env.token = .ok token) :
    env.settings = env.timeout.map fun timeout => {
      address := (env.get? "VAULT_ADDR").getD Settings.defaultAddress
      token := some token
      vaultNamespace := env.get? "VAULT_NAMESPACE"
      timeout } := by
  rw [settings, h]
  cases env.timeout <;> rfl

theorem exists_token_of_settings {s : Settings} (h : env.settings = .ok s) :
    ∃ token, env.token = .ok token ∧ s.token = some token := by
  cases ht : env.token with
  | error cause =>
    rw [settings_of_token_error ht] at h
    cases h
  | ok token =>
    rw [settings_of_token_ok ht] at h
    cases timeout : env.timeout with
    | error cause =>
      rw [timeout] at h
      cases h
    | ok ms =>
      rw [timeout] at h
      cases h
      exact ⟨token, rfl, rfl⟩

/-- A timeout is refused as a part of the configuration. -/
theorem exists_of_timeout_eq_error {cause : Error} (h : env.timeout = .error cause) :
    ∃ fault, cause = .config fault := by
  unfold timeout at h
  split at h
  · cases h
  · split at h
    · cases h
      exact ⟨_, rfl⟩
    · cases h

/-- Settings from the environment have a token, and so have the configurations that they make. The
token is empty just if its variable has no value and the token file is empty or holds line ends
only. Otherwise it is the token that the environment holds. Where the environment holds no token
there are no settings, unless it is for such a file, with a timeout that is not refused. -/
theorem settings_token (env : Environment) :
    (∀ s, env.settings = .ok s → ∃ token, s.token = some token ∧
      (token = "" ↔ env.HasBlankFile) ∧ (token ≠ "" → env.Holds token) ∧
        ∀ config, s.configure = .ok config → config.token = token) ∧
      ((∀ token, ¬env.Holds token) →
        ((∃ cause, env.settings = .error (.config cause)) ↔
          ¬(env.HasBlankFile ∧ ∃ timeout, env.timeout = .ok timeout))) := by
  constructor
  · intro s h
    obtain ⟨token, given, carried⟩ := exists_token_of_settings h
    have source := token_eq_ok_iff.1 given
    refine ⟨token, carried, ⟨fun empty => ?_, fun blank => ?_⟩, fun ne => ?_, fun config made => ?_⟩
    · exact (source.resolve_left fun held => held.ne_empty empty).2
    · have given' := token_eq_ok_iff.2 (.inr ⟨rfl, blank⟩)
      exact Except.ok.inj (given.symm.trans given')
    · exact source.resolve_right fun blank => ne blank.1
    · have same := (Settings.configure_eq_ok_iff.1 made).2.1
      exact Option.some.inj (same.symm.trans carried)
  · intro none
    by_cases blank : env.HasBlankFile
    · have decides := settings_of_token_ok (token_eq_ok_iff.2 (.inr ⟨rfl, blank⟩))
      cases h : env.timeout with
      | error cause =>
        obtain ⟨fault, rfl⟩ := exists_of_timeout_eq_error h
        simp [decides, h, Except.map]
      | ok ms => simp [decides, h, Except.map, blank]
    · obtain ⟨cause, refused⟩ := exists_token_eq_error none blank
      simp [settings_of_token_error refused, blank]

/-- A token file of one line end makes settings, and these a configuration, with the empty token. -/
theorem exists_configure_empty_token :
    ∃ env s config, env.bindings = [] ∧ env.tokenFile = .ok (Utf8.encodeString "\n") ∧
      Environment.settings env = .ok s ∧ s.token = some "" ∧
      s.configure = .ok config ∧ config.token = "" :=
  ⟨{ tokenFile := .ok (Utf8.encodeString "\n") }, _, _, rfl, rfl, rfl, rfl, rfl, rfl⟩

/-! ## Timeouts -/

/-- A count of seconds: a plus sign or none, decimal digits, and any number of letters `s`. -/
inductive CountsSeconds : List Char → Nat → Prop
  | count {sign digits units : List Char} : sign = [] ∨ sign = ['+'] → digits ≠ [] →
      (∀ c ∈ digits, c.isDigit) → (∀ c ∈ units, c = 's') →
      CountsSeconds (sign ++ digits ++ units) (Nat.ofDigitChars 10 digits 0)

/-- A text writes a number of seconds: it is a count of them with blanks around. -/
def WritesSeconds (text : String) (n : Nat) : Prop :=
  ∃ front count back, text.toList = front ++ count ++ back ∧ (∀ c ∈ front, isBlank c = true) ∧
    (∀ c ∈ back, isBlank c = true) ∧ CountsSeconds count n

theorem CountsSeconds.isBlank_of_mem {count : List Char} {n : Nat} (h : CountsSeconds count n) :
    ∀ c ∈ count, isBlank c = false := by
  obtain ⟨signed, -, decimal, lettered⟩ := h
  intro c hc
  rcases List.mem_append.1 hc with hc | hc
  · rcases List.mem_append.1 hc with hc | hc
    · rcases signed with rfl | rfl
      · cases hc
      · obtain rfl := List.mem_singleton.1 hc
        rfl
    · exact isBlank_of_isDigit (decimal c hc)
  · obtain rfl := lettered c hc
    rfl

/-- Nothing is trimmed off a count. -/
theorem CountsSeconds.trim_eq {count : List Char} {n : Nat} (h : CountsSeconds count n) :
    trim count = count :=
  trim_eq_self_iff.2 ⟨fun c first => h.isBlank_of_mem c (List.mem_of_head? first),
    fun c last => h.isBlank_of_mem c (List.mem_of_getLast? last)⟩

theorem writesSeconds_iff {text : String} {n : Nat} :
    WritesSeconds text n ↔ CountsSeconds (trim text.toList) n := by
  constructor
  · rintro ⟨front, count, back, whole, hfront, hback, counts⟩
    rwa [trim_eq_iff.2 ⟨⟨front, back, whole, hfront, hback⟩, counts.trim_eq⟩]
  · intro counts
    obtain ⟨⟨front, back, whole, hfront, hback⟩, -⟩ := trim_eq_iff.1 (Eq.refl (trim text.toList))
    exact ⟨front, _, back, whole, hfront, hback, counts⟩

/-- A number without a plus sign in front of it. -/
def unsigned (s : List Char) : List Char :=
  if s.head? = some '+' then s.tail else s

theorem exists_sign (s : List Char) :
    ∃ sign, (sign = [] ∨ sign = ['+']) ∧ s = sign ++ unsigned s := by
  unfold unsigned
  split
  · next plus =>
    obtain ⟨rest, rfl⟩ := List.head?_eq_some_iff.1 plus
    exact ⟨['+'], .inr rfl, rfl⟩
  · exact ⟨[], .inl rfl, rfl⟩

theorem unsigned_append {sign digits : List Char} (signed : sign = [] ∨ sign = ['+'])
    (decimal : ∀ c ∈ digits, c.isDigit) : unsigned (sign ++ digits) = digits := by
  rcases signed with rfl | rfl
  · refine if_neg fun plus => ?_
    have digit := decimal '+' (List.mem_of_head? plus)
    cases digit
  · rfl

/-- What counts seconds: without its letters and its sign a count is a run of digits. -/
theorem countsSeconds_iff {count : List Char} {n : Nat} :
    CountsSeconds count n ↔
      unsigned (trimEnd (· == 's') count) ≠ [] ∧
        (∀ c ∈ unsigned (trimEnd (· == 's') count), c.isDigit) ∧
        n = Nat.ofDigitChars 10 (unsigned (trimEnd (· == 's') count)) 0 := by
  constructor
  · rintro ⟨signed, ne, decimal, lettered⟩
    rename_i sign digits units
    have left : trimEnd (· == 's') (sign ++ digits ++ units) = sign ++ digits := by
      refine trimEnd_eq_iff.2 ⟨⟨units, rfl, fun c hc => by simp [lettered c hc]⟩, fun c last => ?_⟩
      -- The letters are cut off up to the last digit.
      rw [List.getLast?_append_of_ne_nil _ ne] at last
      have digit := decimal c (List.mem_of_getLast? last)
      rw [beq_eq_false_iff_ne]
      rintro rfl
      cases digit
    rw [left, unsigned_append signed decimal]
    exact ⟨ne, decimal, rfl⟩
  · rintro ⟨ne, decimal, rfl⟩
    obtain ⟨units, whole, lettered⟩ := exists_eq_trimEnd_append (· == 's') count
    obtain ⟨sign, signed, front⟩ := exists_sign (trimEnd (· == 's') count)
    have counts := CountsSeconds.count signed ne decimal fun c hc => beq_iff_eq.1 (lettered c hc)
    rwa [← front, ← whole] at counts

/-- Which texts write a number of seconds. -/
theorem seconds?_eq_some_iff {text : String} {n : Nat} :
    seconds? text = some n ↔ WritesSeconds text n ∧ n < 2 ^ 64 := by
  rw [writesSeconds_iff, countsSeconds_iff, and_assoc, and_assoc]
  exact word?_eq_some_iff

variable {text : String}

/-- The timeout is what its variable writes. -/
theorem timeout_of_sets (set : env.Sets "VAULT_CLIENT_TIMEOUT" text) :
    env.timeout =
      (seconds? text).elim (.error (.config (.timeout text))) fun n => .ok (n * 1000) := by
  simp only [timeout, get?_eq_some_iff.2 set]
  cases seconds? text <;> rfl

theorem timeout_eq_ok_iff (set : env.Sets "VAULT_CLIENT_TIMEOUT" text) {n : Nat} :
    env.timeout = .ok (1000 * n) ↔ WritesSeconds text n ∧ n < 2 ^ 64 := by
  rw [timeout_of_sets set, ← seconds?_eq_some_iff]
  cases seconds? text with
  | none => simp
  | some m =>
    rw [Option.elim_some, Except.ok.injEq, Option.some.injEq]
    omega

theorem timeout_eq_error_iff (set : env.Sets "VAULT_CLIENT_TIMEOUT" text) :
    env.timeout = .error (.config (.timeout text)) ↔ ∀ n < 2 ^ 64, ¬WritesSeconds text n := by
  have none_iff : (∀ n < 2 ^ 64, ¬WritesSeconds text n) ↔ seconds? text = none := by
    rw [Option.eq_none_iff_forall_ne_some]
    exact forall_congr' fun n => by rw [ne_eq, seconds?_eq_some_iff, not_and', imp_not_comm]
  rw [none_iff, timeout_of_sets set]
  cases seconds? text <;> simp

/-- Settings have the timeout that its variable writes, and the variable is refused with its text
if that does not write a number of seconds of at most 64 bits. Nothing is said about numbers of at
most 64 bits that have more when they count milliseconds. -/
theorem settings_timeout (set : env.Sets "VAULT_CLIENT_TIMEOUT" text)
    (available : env.token = .ok token)
    (fits : ∀ n < 2 ^ 64, WritesSeconds text n → 1000 * n < 2 ^ 64) :
    (∀ n, (∃ s, env.settings = .ok s ∧ s.timeout = 1000 * n) ↔
        WritesSeconds text n ∧ 1000 * n < 2 ^ 64) ∧
      (env.settings = .error (.config (.timeout text)) ↔ ∀ n < 2 ^ 64, ¬WritesSeconds text n) ∧
      (Error.config (.timeout text)).message = "config: invalid VAULT_CLIENT_TIMEOUT: " ++ text := by
  have decides := settings_of_token_ok available
  refine ⟨fun n => ?_, ?_, ?_⟩
  · have given : (∃ s, env.settings = .ok s ∧ s.timeout = 1000 * n) ↔
        env.timeout = .ok (1000 * n) := by
      rw [decides]
      cases env.timeout <;> simp [Except.map]
    rw [given, timeout_eq_ok_iff set]
    constructor
    · rintro ⟨writes, small⟩
      exact ⟨writes, fits n small writes⟩
    · rintro ⟨writes, small⟩
      exact ⟨writes, by omega⟩
  · rw [← timeout_eq_error_iff set, decides]
    cases env.timeout <;> simp [Except.map]
  · have front : "config: " ++ "invalid VAULT_CLIENT_TIMEOUT: " =
        "config: invalid VAULT_CLIENT_TIMEOUT: " := by decide
    rw [← front, String.append_assoc]
    rfl

/-- An environment with a token and a timeout in an unusual form. -/
def signedTimeout : Environment where
  bindings := [("VAULT_TOKEN", Utf8.encodeString "t"),
    ("VAULT_CLIENT_TIMEOUT", Utf8.encodeString "\u3000+007ss\n")]

theorem settings_timeout_signed :
    signedTimeout.Sets "VAULT_CLIENT_TIMEOUT" "\u3000+007ss\n" ∧ signedTimeout.token = .ok "t" ∧
      (∀ n < 2 ^ 64, WritesSeconds "\u3000+007ss\n" n → 1000 * n < 2 ^ 64) ∧
      WritesSeconds "\u3000+007ss\n" 7 ∧
      ∃ s, signedTimeout.settings = .ok s ∧ s.timeout = 1000 * 7 := by
  have set : signedTimeout.Sets "VAULT_CLIENT_TIMEOUT" "\u3000+007ss\n" := ⟨rfl, by decide⟩
  have available : signedTimeout.token = .ok "t" :=
    token_of_variable (get?_eq_some_iff.2 ⟨rfl, by decide⟩)
  have seven : seconds? "\u3000+007ss\n" = some 7 := by decide +kernel
  have writes : WritesSeconds "\u3000+007ss\n" 7 := (seconds?_eq_some_iff.1 seven).1
  have fits : ∀ n < 2 ^ 64, WritesSeconds "\u3000+007ss\n" n → 1000 * n < 2 ^ 64 := by
    intro n small other
    have same := seconds?_eq_some_iff.2 ⟨other, small⟩
    rw [seven] at same
    cases same
    decide
  exact ⟨set, available, fits, writes,
    ((settings_timeout set available fits).1 7).2 ⟨writes, by decide⟩⟩

end Environment

end SecretTemplate
