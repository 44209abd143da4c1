import SecretTemplate.Secret.Resolve

/-!
# Outcome and reads of a lookup

A lookup run against a source of secrets has an outcome and a list of reads, in the order in which
they are made. What follows a lookup is run on its value, and only if it has one.

Results:
1. `against_bind_of_ok`, `against_bind_of_error`: lookups one after the other.
2. `against_resolve_of_error`, `resolve_of_ok`: a text is parsed before anything is read.
3. `map_location_of_fetched`: references that have values are read in turn.
4. `reads_of_resolves`: a text that resolves is read once.
5. `length_reads_resolve_le`: no text is read more than once.
-/

namespace SecretTemplate

namespace Lookup

variable {α β : Type} {reader : Reader}

def outcome (reader : Reader) (l : Lookup α) : Except Error α :=
  (l.against reader).1

/-- The reads made against a source of secrets, in order. -/
def reads (reader : Reader) (l : Lookup α) : List Read :=
  (l.against reader).2

@[simp] theorem outcome_pure (a : α) : (pure a : Lookup α).outcome reader = .ok a := rfl

@[simp] theorem reads_pure (a : α) : (pure a : Lookup α).reads reader = [] := rfl

/-- What follows a value that is there is run on it, and its reads come after. -/
theorem against_bind_of_ok {l : Lookup α} {a : α} (h : l.outcome reader = .ok a)
    (f : α → Lookup β) :
    (l >>= f).against reader = ((f a).outcome reader, l.reads reader ++ (f a).reads reader) := by
  have hr : Dialogue.result reader l.run = .ok a := h
  change Dialogue.run reader (l.run >>= ExceptT.bindCont f) = _
  rw [Dialogue.run_bind, hr]
  rfl

theorem against_bind_of_error {l : Lookup α} {cause : Error} (h : l.outcome reader = .error cause)
    (f : α → Lookup β) : (l >>= f).against reader = (.error cause, l.reads reader) := by
  have hr : Dialogue.result reader l.run = .error cause := h
  change Dialogue.run reader (l.run >>= ExceptT.bindCont f) = _
  rw [Dialogue.run_bind, hr]
  exact Prod.ext rfl (List.append_nil _)

end Lookup

namespace Reference

variable {reader : Reader}

/-- The body of a token resolves when a source of secrets has a value for it. -/
def Resolves (reader : Reader) (body : String) : Prop :=
  ∃ value, (resolve body).outcome reader = .ok value

/-- A text that is no reference fails before anything is read. -/
theorem against_resolve_of_error {raw : String} {cause : Error} (h : parse raw = .error cause) :
    (resolve raw).against reader = (.error cause, []) := by
  rw [resolve, h]
  rfl

theorem resolve_of_ok {raw : String} {r : Reference} (h : parse raw = .ok r) :
    resolve raw = r.fetch := by
  rw [resolve, h]
  rfl

/-- A reference that has a value is read once, at the place that it names. -/
theorem reads_of_fetched {r : Reference} {value : String}
    (h : r.fetch.outcome reader = .ok value) :
    ∃ q, r.location = .ok q ∧ r.fetch.reads reader = [q] := by
  rw [Lookup.outcome, run_fetch] at h
  rw [Lookup.reads, run_fetch]
  cases hl : r.location with
  | error cause => simp [hl] at h
  | ok q =>
    refine ⟨q, rfl, ?_⟩
    rcases ha : reader q with cause | _ | secret <;> simp [hl, ha] at h ⊢

/-- References that have values are read in turn, each at the place that it names. -/
theorem map_location_of_fetched {rs : List Reference} {value : Reference → String}
    (fetched : ∀ r ∈ rs, r.fetch.outcome reader = .ok (value r)) :
    rs.map location = (rs.flatMap fun r => r.fetch.reads reader).map .ok := by
  induction rs with
  | nil => rfl
  | cons r rs ih =>
    rw [List.forall_mem_cons] at fetched
    obtain ⟨q, named, reads⟩ := reads_of_fetched fetched.1
    rw [List.map_cons, List.flatMap_cons, List.map_append, ← ih fetched.2, named, reads]
    rfl

/-- A text that resolves is read once. -/
theorem reads_of_resolves {body : String} (h : Resolves reader body) :
    ∃ q, (resolve body).reads reader = [q] := by
  obtain ⟨value, hv⟩ := h
  cases hp : parse body with
  | error cause => simp [Lookup.outcome, against_resolve_of_error hp] at hv
  | ok r =>
    rw [resolve_of_ok hp] at hv ⊢
    obtain ⟨q, -, hq⟩ := reads_of_fetched hv
    exact ⟨q, hq⟩

theorem length_reads_resolve_le (body : String) : ((resolve body).reads reader).length ≤ 1 := by
  cases hp : parse body with
  | error cause => simp [Lookup.reads, against_resolve_of_error hp]
  | ok r =>
    rw [resolve_of_ok hp, Lookup.reads, run_fetch]
    cases hl : r.location with
    | error cause => simp
    | ok q => rcases ha : reader q with cause | _ | secret <;> simp [ha]

end Reference

end SecretTemplate
