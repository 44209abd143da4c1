import SecretTemplate.Json.Decode
import SecretTemplate.Proofs.Lookup

/-!
# Fields of structures

A structure that is written as an object takes its fields from the members whose keys are names of
fields, each of which may stand once. The order of the members does not matter, and all others are
passed over, whatever their values are, as long as their keys are texts. A structure that is written
as an array takes its fields from the items, by position.

Results:
1. `exists_fields?_iff`: which trees are structures.
2. `lookup_fields?`: what a structure holds in its fields.
3. `exists_field?_iff`, `optionalField?_eq_some_iff`: how the fields are read.
-/

namespace SecretTemplate.JsonTree

variable {names : List String} {members : List (List UInt8 × JsonTree)}
  {fields : List (String × JsonTree)} {name : String} {v : JsonTree}

/-- The members whose keys are among the names, by their keys. -/
def known (names : List String) (members : List (List UInt8 × JsonTree)) :
    List (String × JsonTree) :=
  members.filterMap fun m => ((text? m.1).filter (· ∈ names)).map (·, m.2)

theorem known_cons_of_mem {key : String} {k : List UInt8} (hk : text? k = some key)
    (mem : key ∈ names) (t : JsonTree) :
    known names ((k, t) :: members) = (key, t) :: known names members := by
  simp [known, hk, mem]

theorem known_cons_of_not_mem {key : String} {k : List UInt8} (hk : text? k = some key)
    (other : key ∉ names) (t : JsonTree) :
    known names ((k, t) :: members) = known names members := by
  simp [known, hk, other]

theorem mem_known_iff :
    (name, v) ∈ known names members ↔
      name ∈ names ∧ ∃ k, (k, v) ∈ members ∧ text? k = some name := by
  simp only [known, List.mem_filterMap, Option.map_eq_some_iff, Option.filter_eq_some_iff,
    Prod.mk.injEq, decide_eq_true_eq, Prod.exists]
  constructor
  · rintro ⟨k, t, mem, key, ⟨hk, hn⟩, rfl, rfl⟩
    exact ⟨hn, k, mem, hk⟩
  · rintro ⟨hn, k, mem, hk⟩
    exact ⟨k, v, mem, name, ⟨hk, hn⟩, rfl, rfl⟩

/-- The members of an object are those of a structure if all keys are texts and no name of a field
stands twice. The fields are the known members. -/
theorem keyed_eq_some_iff :
    keyed names members = some fields ↔
      (∀ m ∈ members, (text? m.1).isSome) ∧ ((known names members).map Prod.fst).Nodup ∧
        fields = known names members := by
  induction members generalizing fields with
  | nil =>
    rw [keyed, Option.some.injEq, eq_comm]
    simp [known]
  | cons m rest ih =>
    obtain ⟨k, t⟩ := m
    rw [List.forall_mem_cons, keyed]
    cases hk : text? k with
    | none => simp
    | some key =>
      by_cases other : key ∉ names
      · rw [known_cons_of_not_mem hk other]
        simp only [Option.bind_eq_bind, Option.bind_some, other, not_false_eq_true, if_true,
          Option.isSome_some, true_and]
        exact Iff.trans (by simp) ih
      · rw [known_cons_of_mem hk (not_not.1 other), List.map_cons, List.nodup_cons]
        simp only [Option.bind_eq_bind, Option.bind_some, other, if_false, Option.isSome_some,
          true_and, Option.bind_eq_some_iff, ih, Option.ite_none_left_eq_some, List.any_eq_true,
          decide_eq_true_eq, List.mem_map, pure, Option.some.injEq]
        constructor
        · rintro ⟨_, ⟨texts, nodup, rfl⟩, fresh, rfl⟩
          exact ⟨texts, ⟨fresh, nodup⟩, rfl⟩
        · rintro ⟨texts, ⟨fresh, nodup⟩, rfl⟩
          exact ⟨_, ⟨texts, nodup, rfl⟩, fresh, rfl⟩

/-- The items of an array are those of a structure if there are no more than fields. The fields are
the items by position. -/
theorem positional_eq_some_iff {items : List JsonTree} :
    positional names items = some fields ↔
      items.length ≤ names.length ∧ fields = names.zip items := by
  induction items generalizing names fields with
  | nil => cases names <;> simp [positional, eq_comm]
  | cons t rest ih =>
    cases names with
    | nil => simp [positional]
    | cons name names =>
      simp only [positional, Option.map_eq_some_iff, ih, List.length_cons, Nat.add_le_add_iff_right,
        List.zip_cons_cons]
      constructor
      · rintro ⟨_, ⟨le, rfl⟩, rfl⟩
        exact ⟨le, rfl⟩
      · rintro ⟨le, rfl⟩
        exact ⟨_, ⟨le, rfl⟩, rfl⟩

/-- Whether a tree is a structure with the fields named. As an object it has texts for keys, and no
name of a field stands twice; as an array it has no more items than there are fields. -/
inductive IsStructure (names : List String) : JsonTree → Prop
  | object {members : List (List UInt8 × JsonTree)} :
      (∀ m ∈ members, (text? m.1).isSome) → ((known names members).map Prod.fst).Nodup →
      IsStructure names (object members)
  | array {items : List JsonTree} : items.length ≤ names.length → IsStructure names (array items)

theorem exists_fields?_iff {t : JsonTree} :
    (∃ fields, fields? names t = some fields) ↔ IsStructure names t := by
  constructor
  · rintro ⟨fields, h⟩
    cases t with
    | array items => exact .array (positional_eq_some_iff.1 h).1
    | object members =>
      obtain ⟨texts, nodup, -⟩ := keyed_eq_some_iff.1 h
      exact .object texts nodup
    | _ => cases h
  · rintro (⟨texts, nodup⟩ | le)
    · exact ⟨_, keyed_eq_some_iff.2 ⟨texts, nodup, rfl⟩⟩
    · exact ⟨_, positional_eq_some_iff.2 ⟨le, rfl⟩⟩

/-- A structure with the fields named holds `v` in one of them: in a member under its key, or in the
item at its position. -/
inductive Field (names : List String) (name : String) : JsonTree → JsonTree → Prop
  | member {members : List (List UInt8 × JsonTree)} {k : List UInt8} {v : JsonTree} :
      name ∈ names → (k, v) ∈ members → text? k = some name → Field names name (object members) v
  | item {items : List JsonTree} {v : JsonTree} :
      (name, v) ∈ names.zip items → Field names name (array items) v

/-- What a structure holds in a field is what is found under its name. -/
theorem lookup_fields? (distinct : names.Nodup) {t : JsonTree} (h : fields? names t = some fields) :
    fields.lookup name = some v ↔ Field names name t v := by
  cases t with
  | array items =>
    obtain ⟨le, rfl⟩ := positional_eq_some_iff.1 h
    have nodup : ((names.zip items).map Prod.fst).Nodup := by
      rw [List.zip_eq_zip_take_min, List.map_fst_zip (by simp)]
      exact distinct.sublist (List.take_sublist _ _)
    rw [lookup_eq_some_iff_mem nodup]
    constructor
    · exact .item
    · rintro (_ | mem)
      exact mem
  | object members =>
    obtain ⟨-, nodup, rfl⟩ := keyed_eq_some_iff.1 h
    rw [lookup_eq_some_iff_mem nodup, mem_known_iff]
    constructor
    · rintro ⟨known, k, mem, hk⟩
      exact .member known mem hk
    · rintro (⟨known, mem, hk⟩ | _)
      exact ⟨known, _, mem, hk⟩
  | _ => cases h

/-- No field holds two values. -/
theorem Field.eq (distinct : names.Nodup) {t : JsonTree} (structure_t : IsStructure names t)
    {v w : JsonTree} (hv : Field names name t v) (hw : Field names name t w) : v = w := by
  obtain ⟨fields, h⟩ := exists_fields?_iff.2 structure_t
  rw [← lookup_fields? distinct h] at hv hw
  exact Option.some.inj (hv.symm.trans hw)

/-! ## Reading fields -/

section Reading

variable {α : Type} {read : JsonTree → Option α} {absent a : α} {t : JsonTree}

/-- A field can be read if what stands in it can, or nothing does. -/
theorem exists_field?_iff (distinct : names.Nodup) (h : fields? names t = some fields) :
    (∃ a, field? fields name absent read = some a) ↔
      ∀ v, Field names name t v → ∃ a, read v = some a := by
  simp only [← lookup_fields? distinct h]
  unfold field?
  cases fields.lookup name <;> simp

theorem exists_optional?_iff :
    (∃ a, optional? read v = some a) ↔ v = null ∨ ∃ a, read v = some a := by
  cases v <;> simp [optional?]

/-- What is made of a field that may be missing is made of what it holds. -/
theorem optionalField?_map {β : Type} (f : α → β) :
    field? fields name none (optional? fun v => (read v).map f) =
      (field? fields name none (optional? read)).map (Option.map f) := by
  unfold field?
  cases fields.lookup name with
  | none => rfl
  | some v => cases v <;> simp [optional?, Function.comp_def]

/-- A field that may be missing is missing if nothing but `null` stands in it. -/
theorem optionalField?_eq_none_iff (distinct : names.Nodup) (h : fields? names t = some fields) :
    field? fields name none (optional? read) = some none ↔
      ∀ v, Field names name t v → v = null := by
  simp only [← lookup_fields? distinct h]
  unfold field?
  cases fields.lookup name with
  | none => simp
  | some v => cases v <;> simp [optional?]

/-- A field that may be missing is there if something else than `null` stands in it. -/
theorem optionalField?_eq_some_iff (distinct : names.Nodup) (h : fields? names t = some fields) :
    field? fields name none (optional? read) = some (some a) ↔
      ∃ v, Field names name t v ∧ v ≠ null ∧ read v = some a := by
  simp only [← lookup_fields? distinct h]
  unfold field?
  cases fields.lookup name with
  | none => simp
  | some v => cases v <;> simp [optional?]

end Reading

end SecretTemplate.JsonTree
