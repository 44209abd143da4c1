import SecretTemplate.Proofs.Template.Agreement
import SecretTemplate.Proofs.Vault.Shape
import SecretTemplate.Vault.Client

/-!
# What an answer means

An answer to a read means one of three things: the secret that it holds, that there is none, or a
failure. Only a status of 404 and an envelope without a record mean that there is no secret. What a
refusal says is its message: the reasons in its body, or its status.

Results:
1. `Means.agree`: an answer means one thing.
2. `means_interpret`: a client takes an answer to mean what it means.
3. `means_none_iff`: which answers mean that there is no secret.
-/

namespace SecretTemplate

namespace Http

variable {r : Response}

/-! ## Refusals -/

/-- The value of the first header field of a name. -/
def IsFirst (name : String) (headers : Headers) (value : List UInt8) : Prop :=
  ∃ front back, headers = front ++ (name, value) :: back ∧ ∀ field ∈ front, field.1 ≠ name

theorem header?_eq_some_iff {name : String} {value : List UInt8} :
    r.header? name = some value ↔ IsFirst name r.headers value := by
  rw [Response.header?, List.lookup_eq_some_iff]
  simp only [bne_iff_ne, ne_comm (a := name)]
  exact Iff.rfl

/-- Whether a value holds visible ASCII characters, spaces and tabs only. -/
def IsVisible (value : List UInt8) : Prop :=
  ∀ b ∈ value, 0x20 ≤ b.toNat ∧ b.toNat < 0x7F ∨ b.toNat = 0x09

theorem visibleText?_eq_some_iff {value : List UInt8} {text : String} :
    visibleText? value = some text ↔
      IsVisible value ∧ text = String.ofList (value.map fun b => Char.ofNat b.toNat) := by
  rw [visibleText?, Option.ite_none_right_eq_some, Option.some.injEq, eq_comm (b := text)]
  simp [IsVisible]

/-- The name that a refusal of the request named `id` has: the one in the first header field for it,
if that can be shown. -/
inductive Names (id : String) (r : Response) : String → Prop
  | echoed {value : List UInt8} : IsFirst "x-request-id" r.headers value → IsVisible value →
      Names id r (String.ofList (value.map fun b => Char.ofNat b.toNat))
  | own : (∀ value, IsFirst "x-request-id" r.headers value → ¬IsVisible value) → Names id r id

/-- The message of a refusal: the reasons that its body lists, if it does, or else its status. -/
inductive Words (r : Response) : String → Prop
  | listed {t : JsonTree} {reasons : List String} : r.complete → JsonTree.parse? r.body = some t →
      Envelope.Lists t reasons → reasons ≠ [] → Words r ("; ".intercalate reasons)
  | bare : (∀ t reasons, r.complete → JsonTree.parse? r.body = some t →
      Envelope.Lists t reasons → reasons = []) → Words r ("HTTP error " ++ toString r.status)

theorem Names.eq {id name name' : String} (h : Names id r name) (h' : Names id r name') :
    name = name' := by
  have same {v w : List UInt8} (hv : IsFirst "x-request-id" r.headers v)
      (hw : IsFirst "x-request-id" r.headers w) : v = w :=
    Option.some.inj ((header?_eq_some_iff.2 hv).symm.trans (header?_eq_some_iff.2 hw))
  cases h with
  | echoed first visible =>
    cases h' with
    | echoed first' _ => rw [same first first']
    | own hidden => exact absurd visible (hidden _ first)
  | own hidden =>
    cases h' with
    | echoed first visible => exact absurd visible (hidden _ first)
    | own _ => rfl

theorem Words.eq {message message' : String} (h : Words r message) (h' : Words r message') :
    message = message' := by
  cases h with
  | @listed t reasons complete parsed lists ne =>
    cases h' with
    | listed _ parsed' lists' ne' =>
      have found := (Envelope.reasons?_eq_some_iff ne).2 ⟨t, parsed, lists⟩
      rw [(Envelope.reasons?_eq_some_iff ne').2 ⟨_, parsed', lists'⟩] at found
      rw [Option.some.inj found]
    | bare none_listed => exact absurd (none_listed t reasons complete parsed lists) ne
  | bare none_listed =>
    cases h' with
    | listed complete parsed lists ne => exact absurd (none_listed _ _ complete parsed lists) ne
    | bare _ => rfl

theorem names_refusal (id : String) (r : Response) :
    ∃ name, ((r.header? "x-request-id").bind visibleText?).or (some id) = some name ∧
      Names id r name := by
  cases shown : (r.header? "x-request-id").bind visibleText? with
  | some name =>
    obtain ⟨value, first, text⟩ := Option.bind_eq_some_iff.1 shown
    obtain ⟨visible, rfl⟩ := visibleText?_eq_some_iff.1 text
    exact ⟨_, rfl, .echoed (header?_eq_some_iff.1 first) visible⟩
  | none =>
    refine ⟨id, rfl, .own fun value first visible => ?_⟩
    rw [header?_eq_some_iff.2 first, Option.bind_some,
      visibleText?_eq_some_iff.2 ⟨visible, rfl⟩] at shown
    cases shown

theorem words_refusal (id : String) (r : Response) :
    ∃ message, Client.refusal id r =
      .http r.status message (((r.header? "x-request-id").bind visibleText?).or (some id)) ∧
        Words r message := by
  refine ⟨_, rfl, ?_⟩
  by_cases listed : ∃ t reasons, r.complete ∧ JsonTree.parse? r.body = some t ∧
      Envelope.Lists t reasons ∧ reasons ≠ []
  · obtain ⟨t, reasons, complete, parsed, lists, ne⟩ := listed
    have found := (Envelope.reasons?_eq_some_iff ne).2 ⟨t, parsed, lists⟩
    rw [complete, found]
    simp only [if_true, Option.getD_some, List.isEmpty_iff, ne, if_false]
    exact .listed complete parsed lists ne
  · have none_listed : (if r.complete then (Envelope.reasons? r.body).getD [] else []) = [] := by
      split
      · next complete =>
        cases found : Envelope.reasons? r.body with
        | none => rfl
        | some reasons =>
          by_contra ne
          obtain ⟨t, parsed, lists⟩ := (Envelope.reasons?_eq_some_iff ne).1 found
          exact listed ⟨t, reasons, complete, parsed, lists, ne⟩
      · rfl
    simp only [none_listed, List.isEmpty_nil, if_true]
    refine .bare fun t reasons complete parsed lists => ?_
    by_contra ne
    exact listed ⟨t, reasons, complete, parsed, lists, ne⟩

end Http

/-- What the secret of an envelope is: none without a record, or the record. -/
inductive Envelope.Tells (engine : Engine) (t : JsonTree) : Option Record → Prop
  | nothing : (∀ v, ¬Stored engine t v) → Tells engine t none
  | record {v : JsonTree} {r : Record} : Stored engine t v → JsonTree.IsRecord v r →
      Tells engine t (some r)

namespace Http

open Envelope

/-- Whether an answer grants what was asked for. -/
def IsGranted (r : Response) : Prop :=
  200 ≤ r.status ∧ r.status < 300

/-- What the last answer to the request named `id` means to a read of an engine. -/
inductive Means (engine : Engine) (id : String) (r : Response) : Answer → Prop
  /-- Nothing is there, whatever the body says. -/
  | missing : r.status = 404 → Means engine id r (.ok none)
  /-- The body is an envelope, which tells the secret. -/
  | told {t : JsonTree} {s : Option Record} : IsGranted r → r.complete →
      JsonTree.parse? r.body = some t → IsEnvelope engine t → Tells engine t s →
      Means engine id r (.ok s)
  /-- The body is cut, no JSON text or no envelope. -/
  | garbled : IsGranted r →
      (∀ t, r.complete → JsonTree.parse? r.body = some t → ¬IsEnvelope engine t) →
      Means engine id r (.error (.deserialize .malformed))
  /-- Another status is a failure. -/
  | refused {message name : String} : r.status ≠ 404 → ¬IsGranted r → Words r message →
      Names id r name → Means engine id r (.error (.http r.status message (some name)))

theorem not_isGranted_of_404 {r : Response} (missing : r.status = 404) : ¬IsGranted r := by
  rintro ⟨-, lt⟩
  omega

theorem tells_agree {engine : Engine} {t : JsonTree} {s s' : Option Record}
    (envelope : IsEnvelope engine t) (h : Tells engine t s) (h' : Tells engine t s') :
    Agree (.ok s) (.ok s') := by
  cases h with
  | nothing absent =>
    cases h' with
    | nothing _ => exact .absent
    | record stored _ => exact absurd stored (absent _)
  | record stored shown =>
    cases h' with
    | nothing absent => exact absurd stored (absent _)
    | record stored' shown' =>
      obtain rfl := stored.eq envelope stored'
      exact .secret (shown.get?_eq shown')

/-- An answer means one thing. -/
theorem Means.agree {engine : Engine} {id : String} {r : Response} {a b : Answer}
    (ha : Means engine id r a) (hb : Means engine id r b) : Agree a b := by
  cases ha with
  | missing missing =>
    cases hb with
    | missing _ => exact .absent
    | told granted | garbled granted => exact absurd granted (not_isGranted_of_404 missing)
    | refused other => exact absurd missing other
  | told granted complete parsed envelope tells =>
    cases hb with
    | missing missing => exact absurd granted (not_isGranted_of_404 missing)
    | told _ _ parsed' _ tells' =>
      cases parsed.symm.trans parsed'
      exact tells_agree envelope tells tells'
    | garbled _ none_parsed => exact absurd envelope (none_parsed _ complete parsed)
    | refused _ other => exact absurd granted other
  | garbled granted none_parsed =>
    cases hb with
    | missing missing => exact absurd granted (not_isGranted_of_404 missing)
    | told _ complete parsed envelope => exact absurd envelope (none_parsed _ complete parsed)
    | garbled => exact .failure _
    | refused _ other => exact absurd granted other
  | refused other ungranted words names =>
    cases hb with
    | missing missing => exact absurd missing other
    | told granted | garbled granted => exact absurd granted ungranted
    | refused _ _ words' names' =>
      rw [words.eq words', names.eq names']
      exact .failure _

/-- An envelope tells the secret that it is read as. -/
theorem tells_of_secretIn? {engine : Engine} {t : JsonTree} {s : Option Record}
    (h : secretIn? engine t = some s) : Tells engine t s := by
  obtain ⟨absent, found⟩ := secretIn_stored h
  cases s with
  | none => exact .nothing (absent.1 rfl)
  | some r =>
    obtain ⟨v, stored, hr⟩ := (found r).1 rfl
    exact .record stored (JsonTree.isRecord_of_record? hr)

/-- An answer is taken to mean what it means. -/
theorem means_interpret (engine : Engine) (id : String) (r : Response) :
    Means engine id r (Client.interpret engine id r) := by
  rw [Client.interpret]
  by_cases missing : r.status = 404
  · rw [if_pos missing]
    exact .missing missing
  rw [if_neg missing]
  by_cases granted : IsGranted r
  · rw [if_pos (And.intro granted.1 granted.2)]
    cases read : if r.complete then secret? engine r.body else none with
    | some s =>
      rw [Option.ite_none_right_eq_some] at read
      obtain ⟨complete, held⟩ := read
      obtain ⟨t, parsed, held⟩ := secret?_eq_some_iff.1 held
      exact .told granted complete parsed (exists_secretIn?_iff.1 ⟨s, held⟩)
        (tells_of_secretIn? held)
    | none =>
      refine .garbled granted fun t complete parsed envelope => ?_
      obtain ⟨s, held⟩ := exists_secretIn?_iff.2 envelope
      rw [if_pos complete, secret?_eq_some_iff.2 ⟨t, parsed, held⟩] at read
      cases read
  · rw [if_neg (by exact granted)]
    obtain ⟨message, refusal, words⟩ := words_refusal id r
    obtain ⟨name, named, names⟩ := names_refusal id r
    rw [refusal, named]
    exact .refused missing granted words names

/-- Whether the last answer means that there is no secret: by its status, or with an envelope that
holds no record. -/
def IsAbsence (engine : Engine) (r : Response) : Prop :=
  r.status = 404 ∨ IsGranted r ∧ r.complete ∧
    ∃ t, JsonTree.parse? r.body = some t ∧ IsEnvelope engine t ∧ ∀ v, ¬Stored engine t v

theorem means_none_iff {engine : Engine} {id : String} {r : Response} :
    Means engine id r (.ok none) ↔ IsAbsence engine r := by
  constructor
  · intro h
    cases h with
    | missing h => exact .inl h
    | told granted complete parsed envelope tells =>
      cases tells with
      | nothing absent => exact .inr ⟨granted, complete, _, parsed, envelope, absent⟩
  · rintro (h | ⟨granted, complete, t, parsed, envelope, absent⟩)
    · exact .missing h
    · exact .told granted complete parsed envelope (.nothing absent)

end Http

end SecretTemplate
