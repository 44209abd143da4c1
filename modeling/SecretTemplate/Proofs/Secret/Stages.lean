import SecretTemplate.Proofs.Secret.Place
import SecretTemplate.Proofs.Secret.Reading

/-!
# The stages of a resolution

Resolving a text goes through stages, and the first that fails ends it. The text must parse, its
path must name a place, its version must be known: all this is decided without a read. Then the
place is read once. The answer must be a secret whose field is a text, and the steps of the
reference turn that text into the result, one after the other.

Results:
1. `chain_iff`: a chain of steps, and what it comes to.
2. `chain_unknown_iff`: a step that is not known is reported when the chain comes to it.
3. `against_resolve_iff`: the stages of a resolution decide its outcome and its reads.
-/

namespace SecretTemplate

open Text

/-! ## Chains -/

namespace Transformation

/-- What a chain of named steps makes of a text: each step is applied to what the steps before it
have made, and the first that fails ends the chain. -/
inductive Chain : List String → String → Except Error String → Prop
  | done (text : String) : Chain [] text (.ok text)
  | step {name : String} {names : List String} {text next : String}
      {outcome : Except Error String} : applyNamed name text = .ok next →
      Chain names next outcome → Chain (name :: names) text outcome
  | fail {name : String} {names : List String} {text : String} {cause : Error} :
      applyNamed name text = .error cause → Chain (name :: names) text (.error cause)

theorem chain_iff {names : List String} {text : String} {outcome : Except Error String} :
    Chain names text outcome ↔ applyAll names text = outcome := by
  constructor
  · intro h
    induction h with
    | done text => rfl
    | step applied _ ih => rw [applyAll_cons, applied, ← ih]; rfl
    | fail failed => rw [applyAll_cons, failed]; rfl
  · rintro rfl
    induction names generalizing text with
    | nil => exact .done text
    | cons name names ih =>
      rw [applyAll_cons]
      cases applied : applyNamed name text with
      | error cause => exact .fail applied
      | ok next => exact .step applied ih

/-- Only a name that no transformation has is reported as unknown. -/
theorem applyNamed_unknown_iff {name other text : String} :
    applyNamed name text = .error (.unknownTransformation other) ↔
      ofName? name = none ∧ other = name := by
  unfold applyNamed ofName
  cases ofName? name with
  | none => simp [bind, Except.bind, eq_comm]
  | some t =>
    simp only [bind, Except.bind, reduceCtorEq, false_and, iff_false]
    cases t with
    | base64Decode =>
      simp only [apply, fromBase64]
      split
      · simp
      · split <;> simp
    | _ => simp [apply]

/-- A step that is not known is reported when the chain comes to it, after steps that succeed. -/
theorem chain_unknown_iff {names : List String} {name text : String} :
    Chain names text (.error (.unknownTransformation name)) ↔
      ∃ earlier later value, names = earlier ++ name :: later ∧
        Chain earlier text (.ok value) ∧ ofName? name = none := by
  constructor
  · generalize ho : (.error (.unknownTransformation name) : Except Error String) = outcome
    intro h
    induction h with
    | done text => cases ho
    | @step first names text next outcome applied _ ih =>
      obtain ⟨earlier, later, value, rfl, chain, unknown⟩ := ih ho
      exact ⟨first :: earlier, later, value, rfl, .step applied chain, unknown⟩
    | @fail first names text cause failed =>
      cases ho
      obtain ⟨unknown, rfl⟩ := applyNamed_unknown_iff.1 failed
      exact ⟨[], names, text, rfl, .done text, unknown⟩
  · rintro ⟨earlier, later, value, rfl, chain, unknown⟩
    have failed : applyNamed name value = .error (.unknownTransformation name) :=
      applyNamed_unknown_iff.2 ⟨unknown, rfl⟩
    rw [chain_iff] at chain ⊢
    rw [applyAll_append, chain]
    change applyAll (name :: later) value = _
    rw [applyAll_cons, failed]
    rfl

end Transformation

/-! ## Resolutions -/

/-- The engine of a version that is known. -/
def Version.engine? : Version → Option Engine
  | .v1 => some .v1
  | .v2 => some .v2
  | .other _ => none

namespace Reference

/-- The text is a reference `r`, and the read `q` is of its version, at the place of its path. -/
structure Asks (raw : String) (r : Reference) (q : Read) : Prop where
  parsed : parse raw = .ok r
  place : IsPlace r.path q.mount q.path
  engine : r.version.engine? = some q.engine

/-- What resolving a text ends with, and what is read on the way. Each ending has passed all stages
before it. -/
inductive Resolution (reader : Reader) (raw : String) : Except Error String → List Read → Prop
  /-- The text is no reference. -/
  | unparsed {cause : Error} :
      parse raw = .error cause → Resolution reader raw (.error cause) []
  /-- The path names no place below a mount, whatever the version. -/
  | nowhere {r : Reference} :
      parse raw = .ok r → (∀ mount below, ¬IsPlace r.path mount below) →
      Resolution reader raw (.error (.missingSubpath (firstSegment r.path))) []
  /-- The version is not known. -/
  | unknownVersion {r : Reference} {mount below tag : String} :
      parse raw = .ok r → IsPlace r.path mount below → r.version = .other tag →
      Resolution reader raw (.error (.unknownVersion r.render tag)) []
  /-- The reader fails. -/
  | refused {r : Reference} {q : Read} {cause : Error} :
      Asks raw r q → reader q = .error cause → Resolution reader raw (.error cause) [q]
  /-- There is no secret. -/
  | absent {r : Reference} {q : Read} :
      Asks raw r q → reader q = .ok none → Resolution reader raw (.error .nilSecret) [q]
  /-- The field is absent, or holds something else than a text. -/
  | notString {r : Reference} {q : Read} {secret : Record} :
      Asks raw r q → reader q = .ok (some secret) →
      (∀ text, secret.get? r.field ≠ some (.string text)) →
      Resolution reader raw (.error (.fieldNotString r.field)) [q]
  /-- The field holds a text, and the chain decides. -/
  | formatted {r : Reference} {q : Read} {secret : Record} {text : String}
      {outcome : Except Error String} :
      Asks raw r q → reader q = .ok (some secret) → secret.get? r.field = some (.string text) →
      Transformation.Chain ((if r.b64 then ["base64d"] else []) ++ r.transformations) text
        outcome →
      Resolution reader raw outcome [q]

/-- Which references name a place in a store, and where. -/
theorem location_eq_ok_iff_isPlace {r : Reference} {q : Read} :
    r.location = .ok q ↔ IsPlace r.path q.mount q.path ∧ r.version.engine? = some q.engine := by
  rw [location_eq_ok_iff, splitMount_eq_ok_iff]
  cases r.version <;> simp [Version.engine?, eq_comm]

theorem location_of_nowhere {r : Reference} (nowhere : ∀ mount below, ¬IsPlace r.path mount below) :
    r.location = .error (.missingSubpath (firstSegment r.path)) := by
  rw [location, splitMount_eq_error_iff.2 ⟨nowhere, rfl⟩]
  rfl

theorem location_of_other {r : Reference} {mount below tag : String}
    (place : IsPlace r.path mount below) (other : r.version = .other tag) :
    r.location = .error (.unknownVersion r.render tag) := by
  rw [location, splitMount_eq_ok_iff.2 place]
  simp only [bind, Except.bind, other]
  rfl

theorem steps_eq (r : Reference) :
    r.steps = (if r.b64 then ["base64d"] else []) ++ r.transformations := by
  unfold steps
  split <;> rfl

/-- What a secret is formatted to is what the chain makes of its field. -/
theorem format_of_chain {r : Reference} {secret : Record} {text : String}
    {outcome : Except Error String} (field : secret.get? r.field = some (.string text))
    (chain : Transformation.Chain ((if r.b64 then ["base64d"] else []) ++ r.transformations) text
      outcome) : r.format secret = outcome := by
  rw [format, field, Option.bind_some, Json.string?, steps_eq]
  exact Transformation.chain_iff.1 chain

variable {reader : Reader} {raw : String} {r : Reference} {q : Read}

/-- A reference that names no place in a store is not read. -/
theorem against_resolve_of_location_error {cause : Error} (parsed : parse raw = .ok r)
    (h : r.location = .error cause) : (resolve raw).against reader = (.error cause, []) := by
  rw [resolve_of_ok parsed, run_fetch, h]

/-- A reference that names a place is read there, once, and the answer decides. -/
theorem Asks.against_resolve (h : Asks raw r q) :
    (resolve raw).against reader =
      (match reader q with
        | .error cause => .error cause
        | .ok none => .error .nilSecret
        | .ok (some secret) => r.format secret, [q]) := by
  rw [resolve_of_ok h.parsed, run_fetch, location_eq_ok_iff_isPlace.2 ⟨h.place, h.engine⟩]
  rcases answer : reader q with cause | _ | secret <;> simp only [answer]

/-- A reference that names no place in a store is refused by the first stage that it fails. -/
theorem resolution_of_location_error {cause : Error} (parsed : parse raw = .ok r)
    (h : r.location = .error cause) : Resolution reader raw (.error cause) [] := by
  by_cases nowhere : ∀ mount below, ¬IsPlace r.path mount below
  · rw [location_of_nowhere nowhere] at h
    cases h
    exact .nowhere parsed nowhere
  · simp only [not_forall, not_not] at nowhere
    obtain ⟨mount, below, place⟩ := nowhere
    -- With a place, only the version is left to refuse.
    cases known : r.version with
    | other tag =>
      rw [location_of_other place known] at h
      cases h
      exact .unknownVersion parsed place known
    | _ =>
      have located := (location_eq_ok_iff_isPlace (q := ⟨_, mount, below⟩)).2
        ⟨place, congrArg Version.engine? known⟩
      rw [located] at h
      cases h

/-- What is made of a secret that has been read. -/
theorem resolution_of_secret {secret : Record} (asks : Asks raw r q)
    (found : reader q = .ok (some secret)) : Resolution reader raw (r.format secret) [q] := by
  unfold format
  cases hf : (secret.get? r.field).bind Json.string? with
  | none =>
    refine .notString asks found fun text h => ?_
    rw [h] at hf
    cases hf
  | some text =>
    obtain ⟨value, hv, ht⟩ := Option.bind_eq_some_iff.1 hf
    rw [Json.string?_eq_some_iff.1 ht] at hv
    refine .formatted asks found hv ?_
    rw [← steps_eq]
    exact Transformation.chain_iff.2 rfl

/-- Resolving ends in one of the ways there are. -/
theorem resolution_against (raw : String) (reader : Reader) :
    Resolution reader raw ((resolve raw).outcome reader) ((resolve raw).reads reader) := by
  unfold Lookup.outcome Lookup.reads
  cases parsed : parse raw with
  | error cause =>
    rw [against_resolve_of_error parsed]
    exact .unparsed parsed
  | ok r =>
    cases located : r.location with
    | error cause =>
      rw [against_resolve_of_location_error parsed located]
      exact resolution_of_location_error parsed located
    | ok q =>
      obtain ⟨place, engine⟩ := location_eq_ok_iff_isPlace.1 located
      have asks : Asks raw r q := ⟨parsed, place, engine⟩
      rw [asks.against_resolve]
      rcases answer : reader q with cause | _ | secret
      · exact .refused asks answer
      · exact .absent asks answer
      · exact resolution_of_secret asks answer

/-- Each of these ways is how resolving ends. -/
theorem against_of_resolution {outcome : Except Error String} {reads : List Read}
    (h : Resolution reader raw outcome reads) :
    (resolve raw).against reader = (outcome, reads) := by
  cases h with
  | unparsed failed => exact against_resolve_of_error failed
  | nowhere parsed nowhere =>
    exact against_resolve_of_location_error parsed (location_of_nowhere nowhere)
  | unknownVersion parsed place other =>
    exact against_resolve_of_location_error parsed (location_of_other place other)
  | refused asks answer => rw [asks.against_resolve, answer]
  | absent asks answer => rw [asks.against_resolve, answer]
  | @notString r q secret asks answer other =>
    have none : (secret.get? r.field).bind Json.string? = none := by
      rw [Option.bind_eq_none_iff]
      intro value hv
      rw [Option.eq_none_iff_forall_ne_some]
      rintro text ht
      exact other text (Json.string?_eq_some_iff.1 ht ▸ hv)
    rw [asks.against_resolve, answer]
    exact Prod.ext (format_of_notString none) rfl
  | formatted asks answer field chain =>
    rw [asks.against_resolve, answer]
    exact Prod.ext (format_of_chain field chain) rfl

/-- The stages of a resolution decide its outcome and its reads: there is exactly one way for it to
end, with one read at most. In the chain that comes last, an unknown name is reported only if every
step before it succeeds. -/
theorem against_resolve_iff (raw : String) (reader : Reader) :
    (∀ outcome reads, (resolve raw).against reader = (outcome, reads) ↔
        Resolution reader raw outcome reads) ∧
      ∀ names text name,
        Transformation.Chain names text (.error (.unknownTransformation name)) ↔
          ∃ earlier later value, names = earlier ++ name :: later ∧
            Transformation.Chain earlier text (.ok value) ∧
            Transformation.ofName? name = none := by
  refine ⟨fun outcome reads => ⟨fun h => ?_, against_of_resolution⟩,
    fun names text name => Transformation.chain_unknown_iff⟩
  have ending := resolution_against raw reader
  rwa [Lookup.outcome, Lookup.reads, h] at ending

end Reference

end SecretTemplate
