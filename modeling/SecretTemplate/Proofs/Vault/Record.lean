import SecretTemplate.Proofs.Json.Fields
import SecretTemplate.Vault.Envelope

/-!
# Records as they are written

A record is written as an object, and takes all members. Where a key stands more than once, the last
member counts. How deep containers may be nested decides whether a tree has a value, but not which.

Results:
1. `lookup_memberValues?`: what the members of an object put under a key.
2. `value?_mono`, `Denotes.eq`: a tree has one value at most.
3. `isRecord_of_record?`: a record holds the last value of each key.
-/

namespace SecretTemplate.JsonTree

variable {members : List (List UInt8 × JsonTree)}

/-- The value of the last member of an object whose key denotes a text. -/
def Last (key : String) (members : List (List UInt8 × JsonTree)) (t : JsonTree) : Prop :=
  ∃ front k back, members = front ++ (k, t) :: back ∧ text? k = some key ∧
    ∀ m ∈ back, text? m.1 ≠ some key

theorem last_cons_iff {key : String} {m : List UInt8 × JsonTree} {t : JsonTree} :
    Last key (m :: members) t ↔
      Last key members t ∨
        (∀ m ∈ members, text? m.1 ≠ some key) ∧ text? m.1 = some key ∧ m.2 = t := by
  constructor
  · rintro ⟨_ | ⟨_, front⟩, k, back, split, hk, fresh⟩
    · obtain ⟨rfl, rfl⟩ := List.cons.inj split
      exact .inr ⟨fresh, hk, rfl⟩
    · obtain ⟨-, rfl⟩ := List.cons.inj split
      exact .inl ⟨front, k, back, rfl, hk, fresh⟩
  · rintro (⟨front, k, back, rfl, hk, fresh⟩ | ⟨fresh, hk, rfl⟩)
    · exact ⟨m :: front, k, back, rfl, hk, fresh⟩
    · exact ⟨[], m.1, members, rfl, hk, fresh⟩

/-- What the members of an object put under a key: the value of the last of them, or what was there
before. -/
theorem lookup_memberValues? {depth : Nat} {before values : List (String × Json)} {key : String}
    {x : Json} (h : memberValues? depth before members = some values) :
    values.lookup key = some x ↔
      (∃ t, Last key members t ∧ value? depth t = some x) ∨
        (∀ m ∈ members, text? m.1 ≠ some key) ∧ before.lookup key = some x := by
  induction members generalizing before with
  | nil =>
    obtain rfl := Option.some.inj h
    simp [Last]
  | cons m rest ih =>
    obtain ⟨k, t⟩ := m
    simp only [memberValues?, Option.bind_eq_bind, Option.bind_eq_some_iff] at h
    obtain ⟨other, hk, v, hv, h⟩ := h
    simp only [ih h, last_cons_iff, List.forall_mem_cons, or_and_right, exists_or, hk]
    by_cases same : other = key
    · subst same
      simp [Members.lookup_insert_self, hv]
    · simp [Members.lookup_insert_of_ne (Ne.symm same), same]

/-- The members of an object have values if the keys are texts and what stands under them has a
value. -/
theorem exists_memberValues?_iff {depth : Nat} (before : List (String × Json)) :
    (∃ values, memberValues? depth before members = some values) ↔
      ∀ m ∈ members, (text? m.1).isSome ∧ (value? depth m.2).isSome := by
  simp only [Option.isSome_iff_exists]
  induction members generalizing before with
  | nil => simp [memberValues?]
  | cons m rest ih =>
    obtain ⟨k, t⟩ := m
    rw [List.forall_mem_cons]
    simp only [memberValues?, Option.bind_eq_bind, Option.bind_eq_some_iff]
    constructor
    · rintro ⟨values, key, hk, x, hx, later⟩
      exact ⟨⟨⟨key, hk⟩, x, hx⟩, (ih _).1 ⟨values, later⟩⟩
    · rintro ⟨⟨⟨key, hk⟩, x, hx⟩, later⟩
      obtain ⟨values, later⟩ := (ih (Members.insert key x before)).2 later
      exact ⟨values, key, hk, x, hx, later⟩

theorem enter?_mono {depth inner more : Nat} (h : enter? depth = some inner) (le : depth ≤ more) :
    ∃ inner', enter? more = some inner' ∧ inner ≤ inner' := by
  obtain ⟨pos, rfl⟩ := enter?_eq_some_iff.1 h
  exact ⟨more - 1, enter?_eq_some_iff.2 (by omega), by omega⟩

mutual

/-- A tree that has a value has it where containers may be nested deeper. -/
theorem value?_mono {depth more : Nat} (le : depth ≤ more) {t : JsonTree} {x : Json}
    (h : value? depth t = some x) : value? more t = some x := by
  match t with
  | null | bool _ | number _ | string _ => simpa [value?] using h
  | array items =>
    simp only [value?, Option.bind_eq_bind, Option.bind_eq_some_iff] at h ⊢
    obtain ⟨inner, entered, xs, hxs, h⟩ := h
    obtain ⟨inner', entered', le'⟩ := enter?_mono entered le
    exact ⟨inner', entered', xs, values?_mono le' hxs, h⟩
  | object members =>
    simp only [value?, Option.bind_eq_bind, Option.bind_eq_some_iff] at h ⊢
    obtain ⟨inner, entered, xs, hxs, h⟩ := h
    obtain ⟨inner', entered', le'⟩ := enter?_mono entered le
    exact ⟨inner', entered', xs, memberValues?_mono le' hxs, h⟩

theorem values?_mono {depth more : Nat} (le : depth ≤ more) {items : List JsonTree}
    {xs : List Json} (h : values? depth items = some xs) : values? more items = some xs := by
  match items with
  | [] => simpa [values?] using h
  | t :: rest =>
    simp only [values?, Option.bind_eq_bind, Option.bind_eq_some_iff] at h ⊢
    obtain ⟨x, hx, xs, hxs, h⟩ := h
    exact ⟨x, value?_mono le hx, xs, values?_mono le hxs, h⟩

theorem memberValues?_mono {depth more : Nat} (le : depth ≤ more)
    {before values : List (String × Json)} {members : List (List UInt8 × JsonTree)}
    (h : memberValues? depth before members = some values) :
    memberValues? more before members = some values := by
  match members with
  | [] => simpa [memberValues?] using h
  | (k, t) :: rest =>
    simp only [memberValues?, Option.bind_eq_bind, Option.bind_eq_some_iff] at h ⊢
    obtain ⟨key, hk, x, hx, h⟩ := h
    exact ⟨key, hk, x, value?_mono le hx, memberValues?_mono le h⟩

end

/-- A tree denotes a value. How deep its containers may be nested does not matter to which one. -/
def Denotes (t : JsonTree) (x : Json) : Prop :=
  ∃ depth, value? depth t = some x

theorem Denotes.eq {t : JsonTree} {x y : Json} (hx : Denotes t x) (hy : Denotes t y) : x = y := by
  obtain ⟨d, hx⟩ := hx
  obtain ⟨e, hy⟩ := hy
  have hx := value?_mono (Nat.le_max_left d e) hx
  have hy := value?_mono (Nat.le_max_right d e) hy
  exact Option.some.inj (hx.symm.trans hy)

/-- A tree is an object that shows a record: each key has the value of the last of its members. -/
def IsRecord (t : JsonTree) (r : Record) : Prop :=
  ∃ members, t = object members ∧
    ∀ key x, r.get? key = some x ↔ ∃ v, Last key members v ∧ Denotes v x

/-- Records that an object shows have the same fields. -/
theorem IsRecord.get?_eq {t : JsonTree} {r r' : Record} (h : IsRecord t r) (h' : IsRecord t r')
    (key : String) : r.get? key = r'.get? key := by
  obtain ⟨members, rfl, shown⟩ := h
  obtain ⟨_, same, shown'⟩ := h'
  cases same
  exact Option.ext fun x => (shown key x).trans (shown' key x).symm

/-- A record holds the last value of each key. -/
theorem isRecord_of_record? {depth : Nat} {t : JsonTree} {r : Record}
    (h : record? depth t = some r) : IsRecord t r := by
  cases t with
  | object members =>
    simp only [record?, Option.bind_eq_bind, Option.bind_eq_some_iff] at h
    obtain ⟨inner, -, values, held, h⟩ := h
    obtain rfl := Option.some.inj h
    refine ⟨members, rfl, fun key x => ?_⟩
    rw [Record.get?, lookup_memberValues? held]
    simp only [List.lookup_nil, reduceCtorEq, and_false, or_false]
    refine exists_congr fun v => and_congr_right fun last => ⟨fun hx => ⟨inner, hx⟩, fun hx => ?_⟩
    obtain ⟨front, k, back, rfl, -⟩ := last
    obtain ⟨-, valued⟩ := (exists_memberValues?_iff []).1 ⟨values, held⟩ (k, v) (by simp)
    obtain ⟨y, hy⟩ := Option.isSome_iff_exists.1 valued
    rw [hy, hx.eq ⟨inner, hy⟩]
  | _ => cases h

end SecretTemplate.JsonTree
