import SecretTemplate.Proofs.Text.Numeral
import SecretTemplate.Proofs.Vault.Record

/-!
# Shapes of envelopes

Which trees are envelopes, told by what stands in their fields, and what is kept at the place of the
secret. Members under other keys may be anything.

Results:
1. `exists_metadata?_iff`, `exists_versioned?_iff`: which trees can be read.
2. `Envelope.exists_secretIn?_iff`: which trees are envelopes.
3. `Envelope.secretIn_stored`: which secret an envelope holds.
4. `Envelope.reasons?_eq_some_iff`: which reasons a body lists.
-/

namespace SecretTemplate

open Text

namespace JsonTree

variable {depth : Nat} {t v : JsonTree} {name : String} {names : List String}

/-! ## Values of fields -/

/-- A number of at most 64 bits, written in decimal digits only. -/
def IsWord (v : JsonTree) : Prop :=
  ∃ digits, v = number digits ∧ digits ≠ [] ∧ (∀ c ∈ digits, c.isDigit) ∧
    Nat.ofDigitChars 10 digits 0 < 2 ^ 64

/-- A string that is a text. -/
def IsText (v : JsonTree) : Prop :=
  ∃ content, v = string content ∧ (text? content).isSome

theorem exists_word?_iff : (∃ n, word? v = some n) ↔ IsWord v := by
  cases v with
  | number digits =>
    simp only [word?, word?_eq_some_iff, IsWord, number.injEq]
    constructor
    · rintro ⟨_, ne, digits, rfl, lt⟩
      exact ⟨_, rfl, ne, digits, lt⟩
    · rintro ⟨_, rfl, ne, digits, lt⟩
      exact ⟨_, ne, digits, rfl, lt⟩
  | _ => simp [word?, IsWord]

theorem exists_string?_iff : (∃ s, string? v = some s) ↔ IsText v := by
  cases v <;> simp [string?, IsText, Option.isSome_iff_exists]

theorem exists_bool?_iff : (∃ b, bool? v = some b) ↔ ∃ b, v = bool b := by
  cases v <;> simp [bool?]

/-! ## Structures -/

/-- An object whose members can all be kept in a record, where `depth` levels of containers are left
to the values. -/
def IsStorable (depth : Nat) (v : JsonTree) : Prop :=
  ∃ members, v = object members ∧
    ∀ m ∈ members, (text? m.1).isSome ∧ (value? depth m.2).isSome

/-- The names of the fields of metadata. -/
def metadataNames : List String := ["version", "deletion_time", "destroyed"]

/-- What a version 2 engine knows about a version. -/
structure IsMetadata (t : JsonTree) : Prop where
  isStructure : IsStructure metadataNames t
  version : ∀ v, Field metadataNames "version" t v → v = null ∨ IsWord v
  deletionTime : ∀ v, Field metadataNames "deletion_time" t v → v = null ∨ IsText v
  destroyed : ∀ v, Field metadataNames "destroyed" t v → ∃ b, v = bool b

/-- The names of the fields of a record with its metadata. -/
def versionedNames : List String := ["data", "metadata"]

/-- A record with its metadata, either of which may be missing. -/
structure IsVersioned (t : JsonTree) : Prop where
  isStructure : IsStructure versionedNames t
  data : ∀ v, Field versionedNames "data" t v → v = null ∨ IsStorable (maxDepth - 3) v
  metadata : ∀ v, Field versionedNames "metadata" t v → v = null ∨ IsMetadata v

theorem exists_record?_iff {depth inner : Nat} (room : enter? depth = some inner) :
    (∃ r, record? depth v = some r) ↔ IsStorable inner v := by
  cases v with
  | object members =>
    simp only [record?, room, Option.bind_eq_bind, Option.bind_some, Option.bind_eq_some_iff,
      IsStorable, object.injEq, exists_eq_left', ← exists_memberValues?_iff []]
    constructor
    · rintro ⟨_, values, held, -⟩
      exact ⟨values, held⟩
    · rintro ⟨values, held⟩
      exact ⟨⟨values⟩, values, held, rfl⟩
  | _ => simp [record?, IsStorable]

theorem exists_metadata?_iff {depth inner : Nat} (room : enter? depth = some inner) :
    (∃ m, metadata? depth t = some m) ↔ IsMetadata t := by
  have distinct : metadataNames.Nodup := by decide
  simp only [metadata?, room, Option.bind_eq_bind, Option.bind_some, Option.bind_eq_some_iff]
  constructor
  · rintro ⟨_, fields, h, version, hv, time, ht, destroyed, hd, -⟩
    have hv := (exists_field?_iff distinct h).1 ⟨_, hv⟩
    have ht := (exists_field?_iff distinct h).1 ⟨_, ht⟩
    have hd := (exists_field?_iff distinct h).1 ⟨_, hd⟩
    simp only [exists_optional?_iff, exists_word?_iff, exists_string?_iff, exists_bool?_iff]
      at hv ht hd
    exact ⟨exists_fields?_iff.1 ⟨fields, h⟩, hv, ht, hd⟩
  · rintro ⟨isStructure, hv, ht, hd⟩
    obtain ⟨fields, h⟩ := exists_fields?_iff.2 isStructure
    simp only [← exists_word?_iff, ← exists_string?_iff, ← exists_bool?_iff,
      ← exists_optional?_iff] at hv ht hd
    obtain ⟨version, hv⟩ := (exists_field?_iff distinct h).2 hv
    obtain ⟨time, ht⟩ := (exists_field?_iff distinct h).2 ht
    obtain ⟨destroyed, hd⟩ := (exists_field?_iff distinct h).2 hd
    exact ⟨_, fields, h, version, hv, time, ht, destroyed, hd, rfl⟩

theorem exists_versioned?_iff :
    (∃ e, versioned? (maxDepth - 1) t = some e) ↔ IsVersioned t := by
  have distinct : versionedNames.Nodup := by decide
  have room : enter? (maxDepth - 1) = some (maxDepth - 2) := rfl
  have room' : enter? (maxDepth - 2) = some (maxDepth - 3) := rfl
  simp only [versioned?, room, Option.bind_eq_bind, Option.bind_some, Option.bind_eq_some_iff]
  constructor
  · rintro ⟨_, fields, h, record, hr, metadata, hm, -⟩
    have hr := (exists_field?_iff distinct h).1 ⟨_, hr⟩
    have hm := (exists_field?_iff distinct h).1 ⟨_, hm⟩
    simp only [exists_optional?_iff, exists_record?_iff room', exists_metadata?_iff room'] at hr hm
    exact ⟨exists_fields?_iff.1 ⟨fields, h⟩, hr, hm⟩
  · rintro ⟨isStructure, hr, hm⟩
    obtain ⟨fields, h⟩ := exists_fields?_iff.2 isStructure
    simp only [← exists_record?_iff room', ← exists_metadata?_iff room', ← exists_optional?_iff]
      at hr hm
    obtain ⟨record, hr⟩ := (exists_field?_iff distinct h).2 hr
    obtain ⟨metadata, hm⟩ := (exists_field?_iff distinct h).2 hm
    exact ⟨_, fields, h, record, hr, metadata, hm, rfl⟩

/-- The record of a structure with metadata is what it holds under `data`. -/
theorem record_of_versioned? {e : Versioned} (h : versioned? (maxDepth - 1) t = some e) :
    (e.record = none ↔ ∀ v, Field versionedNames "data" t v → v = null) ∧
      ∀ r, e.record = some r ↔
        ∃ v, Field versionedNames "data" t v ∧ v ≠ null ∧ record? (maxDepth - 2) v = some r := by
  have distinct : versionedNames.Nodup := by decide
  have room : enter? (maxDepth - 1) = some (maxDepth - 2) := rfl
  simp only [versioned?, room, Option.bind_eq_bind, Option.bind_some, Option.bind_eq_some_iff] at h
  obtain ⟨fields, h, record, hr, metadata, -, he⟩ := h
  obtain rfl := Option.some.inj he
  rw [← optionalField?_eq_none_iff distinct h, hr]
  refine ⟨(Option.some_inj).symm, fun r => ?_⟩
  rw [← optionalField?_eq_some_iff distinct h, hr]
  exact (Option.some_inj).symm

end JsonTree

namespace Envelope

open JsonTree

variable {engine : Engine} {t v : JsonTree} {s : Option Record} {r : Record}

/-- The names of the fields of an envelope. -/
def names : List String := ["data"]

/-- How many levels of containers are left to a record. -/
def recordDepth : Engine → Nat
  | .v1 => maxDepth - 1
  | .v2 => maxDepth - 2

/-- What an engine puts into the field of an envelope. -/
def IsPayload : Engine → JsonTree → Prop
  | .v1, d => IsStorable (maxDepth - 2) d
  | .v2, d => IsVersioned d

/-- The body of an engine's answer. -/
structure IsEnvelope (engine : Engine) (t : JsonTree) : Prop where
  isStructure : IsStructure names t
  data : ∀ d, Field names "data" t d → d = null ∨ IsPayload engine d

/-- What is found at the place of the record in the field of an envelope, unless it is `null`. A
version 2 engine puts it one level deeper. -/
def Keeps (engine : Engine) (d v : JsonTree) : Prop :=
  v ≠ null ∧
    match engine with
    | .v1 => v = d
    | .v2 => Field versionedNames "data" d v

/-- What is found at the place of the record in an envelope, unless it is `null`. -/
def Stored (engine : Engine) (t v : JsonTree) : Prop :=
  ∃ d, Field names "data" t d ∧ Keeps engine d v

/-- The secret in the field of an envelope. -/
def payload? : Engine → JsonTree → Option (Option Record)
  | .v1, d => (record? (maxDepth - 1) d).map some
  | .v2, d => (versioned? (maxDepth - 1) d).map Versioned.record

theorem exists_payload?_iff {d : JsonTree} :
    (∃ s, payload? engine d = some s) ↔ IsPayload engine d := by
  cases engine with
  | v1 =>
    have room : enter? (maxDepth - 1) = some (maxDepth - 2) := rfl
    simp [payload?, IsPayload, ← exists_record?_iff room, exists_comm]
  | v2 => simp [payload?, IsPayload, ← exists_versioned?_iff, exists_comm]

/-- The secret in the field of an envelope is what is kept there. -/
theorem payload_keeps {d : JsonTree} (h : payload? engine d = some s) :
    (s = none ↔ ∀ v, ¬Keeps engine d v) ∧
      ∀ r, s = some r ↔ ∃ v, Keeps engine d v ∧ record? (recordDepth engine) v = some r := by
  cases engine with
  | v1 =>
    obtain ⟨r, hr, rfl⟩ := Option.map_eq_some_iff.1 h
    have ne : d ≠ null := by
      rintro rfl
      cases hr
    simp [Keeps, ne, recordDepth, hr]
  | v2 =>
    obtain ⟨e, he, rfl⟩ := Option.map_eq_some_iff.1 h
    obtain ⟨absent, found⟩ := record_of_versioned? he
    refine ⟨absent.trans ?_, fun r => (found r).trans ?_⟩
    · refine forall_congr' fun v => ?_
      rw [Keeps, not_and', not_not]
    · refine exists_congr fun v => ?_
      rw [Keeps, ← and_assoc, and_comm (a := Field _ _ _ _)]
      rfl

theorem not_keeps_null : ¬Keeps engine null v := by
  rintro ⟨ne, kept⟩
  cases engine with
  | v1 => exact ne kept
  | v2 => cases kept

/-- The secret in the envelope of an engine. -/
def secretIn? : Engine → JsonTree → Option (Option Record)
  | .v1, t => t.plainEnvelope?
  | .v2, t => t.versionedEnvelope?.map VersionedEnvelope.secret

theorem secretIn?_eq (engine : Engine) (t : JsonTree) :
    secretIn? engine t =
      (fields? names t).bind fun fields =>
        (field? fields "data" none (optional? (payload? engine))).map Option.join := by
  have room : enter? maxDepth = some (maxDepth - 1) := rfl
  cases engine with
  | v1 =>
    have payload : payload? .v1 = fun d => (record? (maxDepth - 1) d).map some := rfl
    have join (s : Option Record) : (s.map some).join = s := by cases s <;> rfl
    simp only [secretIn?, plainEnvelope?, room, Option.bind_eq_bind, Option.bind_some, names,
      payload, optionalField?_map, Option.map_map, Function.comp_def, join, Option.map_id']
  | v2 =>
    have payload : payload? .v2 = fun d => (versioned? (maxDepth - 1) d).map Versioned.record := rfl
    have join (d : Option Versioned) : (d.map Versioned.record).join = d.bind Versioned.record := by
      cases d <;> rfl
    simp only [secretIn?, versionedEnvelope?, room, Option.bind_eq_bind, Option.bind_some, names,
      payload, optionalField?_map, Option.map_map, Function.comp_def, join, Option.map_bind]
    exact congrArg _ (funext fun _ => (Option.map_eq_bind ..).symm)

theorem exists_secretIn?_iff : (∃ s, secretIn? engine t = some s) ↔ IsEnvelope engine t := by
  have distinct : names.Nodup := by decide
  simp only [secretIn?_eq, Option.bind_eq_some_iff, Option.map_eq_some_iff]
  constructor
  · rintro ⟨s, fields, h, d, hd, -⟩
    have data := (exists_field?_iff distinct h).1 ⟨d, hd⟩
    simp only [exists_optional?_iff, exists_payload?_iff] at data
    exact ⟨exists_fields?_iff.1 ⟨fields, h⟩, data⟩
  · rintro ⟨isStructure, data⟩
    obtain ⟨fields, h⟩ := exists_fields?_iff.2 isStructure
    simp only [← exists_payload?_iff, ← exists_optional?_iff] at data
    obtain ⟨d, hd⟩ := (exists_field?_iff distinct h).2 data
    exact ⟨_, fields, h, d, hd, rfl⟩

/-- An envelope stores no two records. -/
theorem Stored.eq (envelope : IsEnvelope engine t) {w : JsonTree} (hv : Stored engine t v)
    (hw : Stored engine t w) : v = w := by
  obtain ⟨d, field, ne, hv⟩ := hv
  obtain ⟨d', field', -, hw⟩ := hw
  obtain rfl := field.eq (by decide) envelope.isStructure field'
  cases engine with
  | v1 => exact hv.trans hw.symm
  | v2 =>
    rcases envelope.data d field with rfl | versioned
    · cases hv
    · exact hv.eq (by decide) versioned.isStructure hw

/-- The secret in an envelope is what is stored at its place. -/
theorem secretIn_stored (h : secretIn? engine t = some s) :
    (s = none ↔ ∀ v, ¬Stored engine t v) ∧
      ∀ r, s = some r ↔ ∃ v, Stored engine t v ∧ record? (recordDepth engine) v = some r := by
  have distinct : names.Nodup := by decide
  simp only [secretIn?_eq, Option.bind_eq_some_iff, Option.map_eq_some_iff] at h
  obtain ⟨fields, h, d, hd, rfl⟩ := h
  cases d with
  | none =>
    have empty := (optionalField?_eq_none_iff distinct h).1 hd
    have absent (v : JsonTree) : ¬Stored engine t v := by
      rintro ⟨d, field, kept⟩
      exact not_keeps_null (empty d field ▸ kept)
    simp [absent]
  | some s =>
    obtain ⟨d, field, -, hs⟩ := (optionalField?_eq_some_iff distinct h).1 hd
    have same (v : JsonTree) : Stored engine t v ↔ Keeps engine d v := by
      constructor
      · rintro ⟨d', field', kept⟩
        rwa [field.eq distinct (exists_fields?_iff.1 ⟨fields, h⟩) field']
      · exact fun kept => ⟨d, field, kept⟩
    simp only [same]
    exact payload_keeps hs

/-- Which bodies hold a secret of an engine. -/
theorem secret?_eq_some_iff {body : List UInt8} :
    secret? engine body = some s ↔ ∃ t, parse? body = some t ∧ secretIn? engine t = some s := by
  cases engine <;> exact Option.bind_eq_some_iff

/-! ## Refusals -/

/-- The names of the fields of a refusal. -/
def refusalNames : List String := ["errors"]

/-- A refusal lists reasons: its only field holds their texts, in order. -/
structure Lists (t : JsonTree) (reasons : List String) : Prop where
  isStructure : IsStructure refusalNames t
  errors : ∃ items, Field refusalNames "errors" t (array items) ∧
    items.map string? = reasons.map some

theorem mapM_string?_eq_some_iff {items : List JsonTree} {reasons : List String} :
    items.mapM string? = some reasons ↔ items.map string? = reasons.map some := by
  induction items generalizing reasons with
  | nil => cases reasons <;> simp
  | cons t rest ih =>
    simp only [List.mapM_cons, Option.bind_eq_bind, Option.bind_eq_some_iff, ih, List.map_cons]
    constructor
    · rintro ⟨s, hs, rest, later, h⟩
      obtain rfl := Option.some.inj h
      rw [hs, later, List.map_cons]
    · intro h
      obtain ⟨s, rest, rfl, hs, later⟩ := List.map_eq_cons_iff.1 h.symm
      exact ⟨s, hs.symm, rest, later.symm, rfl⟩

/-- Which bodies list reasons. -/
theorem reasons?_eq_some_iff {body : List UInt8} {reasons : List String}
    (some_reason : reasons ≠ []) :
    reasons? body = some reasons ↔ ∃ t, parse? body = some t ∧ Lists t reasons := by
  have distinct : refusalNames.Nodup := by decide
  rw [reasons?, Option.bind_eq_some_iff]
  refine exists_congr fun t => and_congr_right fun _ => ?_
  simp only [refusal?, Option.bind_eq_bind, Option.bind_eq_some_iff]
  constructor
  · rintro ⟨fields, h, errors⟩
    refine ⟨exists_fields?_iff.1 ⟨fields, h⟩, ?_⟩
    rw [field?] at errors
    split at errors
    · exact absurd (Option.some.inj errors).symm some_reason
    · next v found =>
      cases v with
      | array items =>
        exact ⟨items, (lookup_fields? distinct h).1 found, mapM_string?_eq_some_iff.1 errors⟩
      | _ => cases errors
  · rintro ⟨isStructure, items, field, texts⟩
    obtain ⟨fields, h⟩ := exists_fields?_iff.2 isStructure
    refine ⟨fields, h, ?_⟩
    rw [field?, (lookup_fields? distinct h).2 field]
    exact mapM_string?_eq_some_iff.2 texts

end Envelope

end SecretTemplate
