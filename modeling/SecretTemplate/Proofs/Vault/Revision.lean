import SecretTemplate.Proofs.Json.Grammar
import SecretTemplate.Proofs.Json.Unseen
import SecretTemplate.Proofs.Vault.Shape

/-!
# Only the record matters

What an envelope says about a secret is its record. Whatever else the server puts into the body, in
which order, and whatever it knows about the version of the secret, does not show: not even that the
version is deleted or destroyed.

Results:
1. `isMetadata_of_unseen`: metadata stays metadata.
2. `VersionedRevision.keeps`: a version 2 record stays where it is.
3. `Revision.keeps`: so does the record of an envelope.
4. `secret?_of_revision`: a body that is revised holds the same secret.
-/

namespace SecretTemplate

open JsonTree Text

namespace Envelope

/-- The members of an object. -/
abbrev Members := List (List UInt8 × JsonTree)

/-- What a version 2 engine may say about a version. -/
def MayDescribe (v : JsonTree) : Prop :=
  v = null ∨ IsMetadata v

/-- A change to the object that holds a version 2 record. -/
inductive VersionedRevision : Members → Members → Prop
  /-- Members that are not read change, or the order does. -/
  | unseen {members members' : Members} :
      Unseen versionedNames members members' → VersionedRevision members members'
  /-- The metadata is an object of which members that are not read change. -/
  | metadata {members inner inner' : Members} {k : List UInt8} :
      text? k = some "metadata" → Unseen metadataNames inner inner' →
      VersionedRevision ((k, object inner) :: members) ((k, object inner') :: members)
  /-- There is other metadata. -/
  | replace {members : Members} {k : List UInt8} (v : JsonTree) {v' : JsonTree} :
      text? k = some "metadata" → MayDescribe v' →
      VersionedRevision ((k, v) :: members) ((k, v') :: members)
  /-- There is no metadata any more. -/
  | remove {members : Members} {k : List UInt8} (v : JsonTree) :
      text? k = some "metadata" → VersionedRevision ((k, v) :: members) members
  /-- There is metadata where there was none. -/
  | put {members : Members} {k : List UInt8} {v : JsonTree} :
      text? k = some "metadata" → (∀ m ∈ members, text? m.1 ≠ some "metadata") → MayDescribe v →
      VersionedRevision members ((k, v) :: members)
  /-- There are several changes, one after the other. -/
  | trans {first middle last : Members} :
      VersionedRevision first middle → VersionedRevision middle last → VersionedRevision first last

/-- A change to the body of an engine that leaves its record. -/
inductive Revision : Engine → Members → Members → Prop
  /-- Members that are not read change, or the order does. -/
  | unseen {engine : Engine} {members members' : Members} :
      Unseen names members members' → Revision engine members members'
  /-- The object that holds a version 2 record changes. -/
  | versioned {members inner inner' : Members} {k : List UInt8} :
      text? k = some "data" → VersionedRevision inner inner' →
      Revision .v2 ((k, object inner) :: members) ((k, object inner') :: members)
  /-- There are several changes, one after the other. -/
  | trans {engine : Engine} {first middle last : Members} :
      Revision engine first middle → Revision engine middle last → Revision engine first last

variable {members members' : Members}

/-- Metadata stays metadata where members change that are not read. -/
theorem isMetadata_of_unseen (h : Unseen metadataNames members members')
    (is : IsMetadata (object members)) : IsMetadata (object members') where
  isStructure := h.isStructure is.isStructure
  version v field := is.version v (h.field_iff.2 field)
  deletionTime v field := is.deletionTime v (h.field_iff.2 field)
  destroyed v field := is.destroyed v (h.field_iff.2 field)

/-- A version 2 record may have metadata if it has none yet. -/
theorem isVersioned_cons_iff {k : List UInt8} {t : JsonTree} (hk : text? k = some "metadata") :
    IsVersioned (object ((k, t) :: members)) ↔
      MayDescribe t ∧ (∀ v, ¬Field versionedNames "metadata" (object members) v) ∧
        IsVersioned (object members) := by
  have known : "metadata" ∈ versionedNames := by decide
  have data (v : JsonTree) : Field versionedNames "data" (object ((k, t) :: members)) v ↔
      Field versionedNames "data" (object members) v :=
    field_cons_of_other hk fun _ => by decide
  constructor
  · rintro ⟨isStructure, hd, hm⟩
    obtain ⟨absent, isStructure⟩ := (isStructure_cons_iff hk).1 isStructure
    refine ⟨hm t ((field_cons_iff hk).2 (.inl ⟨known, rfl, rfl⟩)), absent known, isStructure,
      fun v field => hd v ((data v).2 field), fun v field => absurd field (absent known v)⟩
  · rintro ⟨describes, absent, isStructure, hd, -⟩
    refine ⟨(isStructure_cons_iff hk).2 ⟨fun _ => absent, isStructure⟩,
      fun v field => hd v ((data v).1 field), fun v field => ?_⟩
    rcases (field_cons_iff hk).1 field with ⟨-, -, rfl⟩ | field
    · exact describes
    · exact absurd field (absent v)

/-- An object that holds a version 2 record still does when it is revised, and it is the same. -/
theorem VersionedRevision.keeps (h : VersionedRevision members members')
    (is : IsVersioned (object members)) :
    IsVersioned (object members') ∧
      ∀ v, Field versionedNames "data" (object members) v ↔
        Field versionedNames "data" (object members') v := by
  -- A member with metadata does not show in the field of the record.
  have aside {k : List UInt8} {t v : JsonTree} {members : Members}
      (hk : text? k = some "metadata") :
      Field versionedNames "data" (object ((k, t) :: members)) v ↔
        Field versionedNames "data" (object members) v :=
    field_cons_of_other hk fun _ => by decide
  induction h with
  | unseen unseen =>
    refine ⟨⟨unseen.isStructure is.isStructure, fun v field => is.data v (unseen.field_iff.2 field),
      fun v field => is.metadata v (unseen.field_iff.2 field)⟩, fun v => unseen.field_iff⟩
  | metadata hk unseen =>
    obtain ⟨describes, absent, is⟩ := (isVersioned_cons_iff hk).1 is
    have describes' := (describes.resolve_left (by simp))
    refine ⟨(isVersioned_cons_iff hk).2 ⟨.inr (isMetadata_of_unseen unseen describes'), absent, is⟩,
      fun v => (aside hk).trans (aside hk).symm⟩
  | replace _ hk describes =>
    obtain ⟨-, absent, is⟩ := (isVersioned_cons_iff hk).1 is
    exact ⟨(isVersioned_cons_iff hk).2 ⟨describes, absent, is⟩,
      fun v => (aside hk).trans (aside hk).symm⟩
  | remove _ hk => exact ⟨((isVersioned_cons_iff hk).1 is).2.2, fun v => aside hk⟩
  | put hk fresh describes =>
    refine ⟨(isVersioned_cons_iff hk).2 ⟨describes, ?_, is⟩, fun v => (aside hk).symm⟩
    rintro v (⟨-, mem, hk'⟩ | _)
    exact fresh _ mem hk'
  | trans _ _ ih ih' =>
    obtain ⟨is, same⟩ := ih is
    obtain ⟨is, same'⟩ := ih' is
    exact ⟨is, fun v => (same v).trans (same' v)⟩

/-- An envelope whose record is in a member. -/
theorem isEnvelope_cons_iff {engine : Engine} {k : List UInt8} {t : JsonTree}
    (hk : text? k = some "data") :
    IsEnvelope engine (object ((k, t) :: members)) ↔
      (t = null ∨ IsPayload engine t) ∧ (∀ v, ¬Field names "data" (object members) v) ∧
        IsStructure names (object members) := by
  have known : "data" ∈ names := by decide
  constructor
  · rintro ⟨isStructure, data⟩
    obtain ⟨absent, isStructure⟩ := (isStructure_cons_iff hk).1 isStructure
    exact ⟨data t ((field_cons_iff hk).2 (.inl ⟨known, rfl, rfl⟩)), absent known, isStructure⟩
  · rintro ⟨payload, absent, isStructure⟩
    refine ⟨(isStructure_cons_iff hk).2 ⟨fun _ => absent, isStructure⟩, fun d field => ?_⟩
    rcases (field_cons_iff hk).1 field with ⟨-, -, rfl⟩ | field
    · exact payload
    · exact absurd field (absent d)

theorem stored_cons_iff {engine : Engine} {k : List UInt8} {t v : JsonTree}
    (hk : text? k = some "data") (absent : ∀ v, ¬Field names "data" (object members) v) :
    Stored engine (object ((k, t) :: members)) v ↔ Keeps engine t v := by
  have known : "data" ∈ names := by decide
  simp [Stored, field_cons_iff hk, absent, known]

/-- A body that is revised is still an envelope, and it stores the same record. -/
theorem Revision.keeps {engine : Engine} (h : Revision engine members members')
    (is : IsEnvelope engine (object members)) :
    IsEnvelope engine (object members') ∧
      ∀ v, Stored engine (object members) v ↔ Stored engine (object members') v := by
  induction h with
  | unseen unseen =>
    refine ⟨⟨unseen.isStructure is.isStructure,
      fun d field => is.data d (unseen.field_iff.2 field)⟩, fun v => ?_⟩
    exact exists_congr fun d => and_congr_left fun _ => unseen.field_iff
  | versioned hk revision =>
    obtain ⟨payload, absent, isStructure⟩ := (isEnvelope_cons_iff hk).1 is
    obtain ⟨payload', same⟩ := revision.keeps (payload.resolve_left (by simp))
    refine ⟨(isEnvelope_cons_iff hk).2 ⟨.inr payload', absent, isStructure⟩, fun v => ?_⟩
    rw [stored_cons_iff hk absent, stored_cons_iff hk absent]
    exact and_congr_right fun _ => same v
  | trans _ _ ih ih' =>
    obtain ⟨is, same⟩ := ih is
    obtain ⟨is, same'⟩ := ih' is
    exact ⟨is, fun v => (same v).trans (same' v)⟩

/-- Envelopes that store the same record hold the same secret. -/
theorem secretIn?_eq_of_stored {engine : Engine} {t t' : JsonTree} {s : Option Record}
    (h : secretIn? engine t = some s) (is : IsEnvelope engine t')
    (same : ∀ v, Stored engine t v ↔ Stored engine t' v) : secretIn? engine t' = some s := by
  obtain ⟨s', h'⟩ := exists_secretIn?_iff.2 is
  obtain ⟨absent, found⟩ := secretIn_stored h
  obtain ⟨absent', found'⟩ := secretIn_stored h'
  simp only [← same] at absent' found'
  rw [h']
  refine congrArg some (Option.ext fun r => ?_)
  exact (found' r).trans (found r).symm

/-- A body that is revised holds the same secret, however it is written. -/
theorem secret?_of_revision {engine : Engine} {body body' : List UInt8} {s : Option Record}
    (accepted : secret? engine body = some s) (parsed : parse? body = some (object members))
    (revision : Revision engine members members')
    (written : Written (.element (object members')) body') : secret? engine body' = some s := by
  obtain ⟨t, parsed', held⟩ := secret?_eq_some_iff.1 accepted
  cases parsed.symm.trans parsed'
  obtain ⟨is, same⟩ := revision.keeps (exists_secretIn?_iff.1 ⟨s, held⟩)
  exact secret?_eq_some_iff.2
    ⟨_, parse?_of_written written, secretIn?_eq_of_stored held is same⟩

/-- A record as it is written. -/
def writtenRecord : JsonTree :=
  object [(Utf8.encodeString "a", string (Utf8.encodeString "b"))]

/-- The members of a body with the record. -/
def liveMembers : Members :=
  [(Utf8.encodeString "data", object [(Utf8.encodeString "data", writtenRecord)])]

/-- The members of a body with the same record, which is marked as destroyed. -/
def destroyedMembers : Members :=
  [(Utf8.encodeString "x", array []),
    (Utf8.encodeString "data", object [
      (Utf8.encodeString "metadata", object [(Utf8.encodeString "destroyed", bool true)]),
      (Utf8.encodeString "data", writtenRecord)])]

theorem revision_destroyedMembers : Revision .v2 liveMembers destroyedMembers := by
  have room : enter? 2 = some 1 := rfl
  have metadata : IsMetadata (object [(Utf8.encodeString "destroyed", bool true)]) :=
    (exists_metadata?_iff room).1 (Option.isSome_iff_exists.1 (by decide +kernel))
  have data : text? (Utf8.encodeString "data") = some "data" := by decide +kernel
  have key : text? (Utf8.encodeString "metadata") = some "metadata" := by decide +kernel
  have x : text? (Utf8.encodeString "x") = some "x" := by decide +kernel
  refine .trans (.versioned data (.put key ?_ (.inr metadata))) (.unseen (.add _ x (by decide)))
  rw [List.forall_mem_singleton, data]
  decide

/-- A body with the record. -/
def liveBody : List UInt8 :=
  Utf8.encodeString "\x7b\"data\":\x7b\"data\":\x7b\"a\":\"b\"\x7d\x7d\x7d"

/-- A body with the same record, which is marked as destroyed. -/
def destroyedBody : List UInt8 :=
  Utf8.encodeString ("\x7b\"x\":[],\"data\":\x7b\"metadata\":\x7b\"destroyed\":true\x7d," ++
    "\"data\":\x7b\"a\":\"b\"\x7d\x7d\x7d")

/-- The names in the bodies need no escapes. -/
theorem isContent_names :
    ["a", "b", "data", "destroyed", "metadata", "x"].Forall fun name =>
      JsonToken.IsContent (Utf8.encodeString name) := by
  have plain (s : String) (h : ∀ b ∈ Utf8.encodeString s,
      JsonToken.charOf b ≠ '"' ∧ JsonToken.charOf b ≠ '\\' ∧ 0x20 ≤ b.toNat) :
      JsonToken.IsContent (Utf8.encodeString s) := JsonToken.isContent_of_plain h
  exact ⟨plain _ (by decide +kernel), plain _ (by decide +kernel), plain _ (by decide +kernel),
    plain _ (by decide +kernel), plain _ (by decide +kernel), plain _ (by decide +kernel)⟩

theorem written_liveBody : Written (.element (object liveMembers)) liveBody := by
  obtain ⟨a, b, data, -⟩ := isContent_names
  have record := Written.object (.lastMember (.tightMember a (.string b)))
  have inner := Written.object (.lastMember (.tightMember data record))
  have whole := Written.object (.lastMember (.tightMember data inner))
  exact whole.tight

theorem written_destroyedBody : Written (.element (object destroyedMembers)) destroyedBody := by
  obtain ⟨a, b, data, destroyed, metadata, x⟩ := isContent_names
  have record := Written.object (.lastMember (.tightMember a (.string b)))
  have marked := Written.object (.lastMember (.tightMember destroyed .true))
  have inner := Written.object
    (.members (.tightMember metadata marked) (.lastMember (.tightMember data record)))
  have whole := Written.object
    (.members (.tightMember x (.emptyArray (List.forall_mem_nil _)))
      (.lastMember (.tightMember data inner)))
  exact whole.tight

theorem secret?_of_revision_destroyedBody :
    ∃ record : Record, secret? .v2 liveBody = some (some record) ∧
      parse? liveBody = some (object liveMembers) ∧
      Revision .v2 liveMembers destroyedMembers ∧
      Written (.element (object destroyedMembers)) destroyedBody ∧
      secret? .v2 destroyedBody = some (some record) := by
  have held : ((secret? .v2 liveBody).bind id).isSome = true := by decide +kernel
  obtain ⟨record, held⟩ := Option.isSome_iff_exists.1 held
  obtain ⟨_, accepted, rfl⟩ := Option.bind_eq_some_iff.1 held
  have parsed := parse?_of_written written_liveBody
  exact ⟨record, accepted, parsed, revision_destroyedMembers, written_destroyedBody,
    secret?_of_revision accepted parsed revision_destroyedMembers written_destroyedBody⟩

end Envelope

end SecretTemplate
