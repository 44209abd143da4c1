import SecretTemplate.Proofs.Dialogue.Course
import SecretTemplate.Proofs.Reference.Grammar
import SecretTemplate.Proofs.Secret.Stages

/-!
# The classes of failures

A resolution can fail at each of its stages, and what it fails with tells the stage: a text is
malformed, a place is not named, a secret has no such field, a step does not apply. That there is no
secret is found from the answer of the store alone.

Results:
1. `kind_of_parse`: a text that is no reference is malformed.
2. `kind_of_format`: a secret that is there can only fail to be formatted.
3. `nilSecret_iff_of_course`: that there is no secret is found from the answer of the store.
-/

namespace SecretTemplate

open Dialogue (Course course_done_iff course_ask_iff)

namespace Transformation

theorem kind_of_applyNamed {name text : String} {cause : Error}
    (h : applyNamed name text = .error cause) : cause.kind = .transformation := by
  unfold applyNamed ofName at h
  cases hn : ofName? name with
  | none =>
    rw [hn] at h
    cases h
    rfl
  | some t =>
    rw [hn] at h
    change t.apply text = _ at h
    cases t with
    | base64Decode =>
      rw [apply, fromBase64] at h
      split at h
      · cases h
        rfl
      · split at h <;> cases h
        rfl
    | _ => cases h

/-- A chain of steps fails with what one of the steps fails with. -/
theorem kind_of_applyAll {names : List String} {text : String} {cause : Error}
    (h : applyAll names text = .error cause) : cause.kind = .transformation := by
  generalize outcome_eq : Except.error cause = outcome at h
  have chain := chain_iff.2 h
  clear h
  induction chain with
  | done text => cases outcome_eq
  | step _ _ ih => exact ih outcome_eq
  | fail failed =>
    cases outcome_eq
    exact kind_of_applyNamed failed

end Transformation

namespace Reference

open Setting

/-- A text that is no reference is malformed. -/
theorem kind_of_parse {raw : String} {cause : Error} (h : parse raw = .error cause) :
    cause.kind = .malformed := by
  have options : raw.toList.splitOn ',' = optionsOf raw := rfl
  rw [parse_eq, options, mapM_eq_of_fault] at h
  cases found : (optionsOf raw).findSome? (fault? raw) with
  | some fault =>
    rw [found] at h
    cases h
    obtain ⟨option, -, refused⟩ := List.exists_of_findSome?_eq_some found
    rw [fault?] at refused
    split at refused
    · cases refused
      rfl
    · obtain ⟨-, same⟩ := Option.ite_none_right_eq_some.1 refused
      cases same
      rfl
  | none =>
    rw [found] at h
    dsimp only at h
    split_ifs at h <;> cases h <;> rfl

/-- A reference that names no place lacks a path below the mount, or an engine. -/
theorem location_eq_error {r : Reference} {cause : Error} (h : r.location = .error cause) :
    (∃ mount, cause = .missingSubpath mount) ∨
      ∃ secret version, cause = .unknownVersion secret version := by
  unfold location at h
  cases split : splitMount r.path with
  | error cause' =>
    rw [split] at h
    cases h
    exact .inl ⟨_, (splitMount_eq_error_iff.1 split).2⟩
  | ok place =>
    rw [split] at h
    cases version : r.version with
    | other tag =>
      simp only [version] at h
      cases h
      exact .inr ⟨_, _, rfl⟩
    | _ =>
      simp only [version] at h
      cases h

/-- A secret that is there can only fail to be formatted. -/
theorem kind_of_format {r : Reference} {secret : Record} {cause : Error}
    (h : r.format secret = .error cause) :
    cause.kind = .typeMismatch ∨ cause.kind = .transformation := by
  unfold format at h
  split at h
  · cases h
    exact .inl rfl
  · exact .inr (Transformation.kind_of_applyAll h)

/-- A text that is a reference to a place is resolved by asking what is there, once. -/
theorem Asks.course_iff {raw : String} {r : Reference} {q : Read} (asks : Asks raw r q)
    {log : Log Read fun _ => Answer} {result : Except Error String} :
    Course (resolve raw).run log result ↔
      ∃ answer, log = [⟨q, answer⟩] ∧
        result = match answer with
          | .error cause => .error cause
          | .ok none => .error .nilSecret
          | .ok (some secret) => r.format secret := by
  have located : r.location = .ok q := location_eq_ok_iff_isPlace.2 ⟨asks.place, asks.engine⟩
  rw [resolve_of_ok asks.parsed, fetch_of_location located, course_ask_iff]
  refine exists_congr fun answer => ?_
  rcases answer with cause | _ | secret <;> simp [course_done_iff]

/-- That there is no secret is found from the answer of the store, if the text is a reference that
names a place. -/
theorem nilSecret_iff_of_course {raw : String} {log : Log Read fun _ => Answer}
    {result : Except Error String} (course : Course (resolve raw).run log result) :
    result = .error .nilSecret ↔
      ∃ r q answer, Asks raw r q ∧ log = [⟨q, answer⟩] ∧
        (answer = .ok none ∨ answer = .error .nilSecret) := by
  -- A stage in front of the read fails with another class of failure, and does not read.
  have early {cause : Error} (other : cause ≠ .nilSecret)
      (h : Course (Dialogue.done (.error cause)) log result) :
      result ≠ .error .nilSecret ∧ log = [] := by
    obtain ⟨rfl, rfl⟩ := course_done_iff.1 h
    exact ⟨fun same => other (Except.error.inj same), rfl⟩
  cases parsed : parse raw with
  | error cause =>
    have other : cause ≠ .nilSecret := by
      rintro rfl
      cases kind_of_parse parsed
    rw [resolve, parsed] at course
    obtain ⟨ne, rfl⟩ := early other course
    simp [ne]
  | ok r =>
    rw [resolve_of_ok parsed] at course
    cases located : r.location with
    | error cause =>
      have other : cause ≠ .nilSecret := by
        rintro rfl
        rcases location_eq_error located with ⟨_, h⟩ | ⟨_, _, h⟩ <;> cases h
      rw [fetch_of_location_error located] at course
      obtain ⟨ne, rfl⟩ := early other course
      simp [ne]
    | ok q =>
      obtain ⟨place, engine⟩ := location_eq_ok_iff_isPlace.1 located
      have asks : Asks raw r q := ⟨parsed, place, engine⟩
      rw [← resolve_of_ok parsed] at course
      obtain ⟨answer, rfl, rfl⟩ := asks.course_iff.1 course
      have only : (∃ r' q' answer', Asks raw r' q' ∧ [(⟨q, answer⟩ : (_ : Read) × Answer)] =
            [⟨q', answer'⟩] ∧ (answer' = .ok none ∨ answer' = .error .nilSecret)) ↔
          answer = .ok none ∨ answer = .error .nilSecret := by
        constructor
        · rintro ⟨_, _, _, _, same, h⟩
          cases same
          exact h
        · exact fun h => ⟨r, q, answer, asks, rfl, h⟩
      rw [only]
      rcases answer with cause | _ | secret
      · simp
      · simp
      · have other : r.format secret ≠ .error .nilSecret := by
          intro h
          rcases kind_of_format h with h | h <;> cases h
        simp [other]

end Reference

end SecretTemplate
