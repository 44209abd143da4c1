/-!
# JSON values

A JSON text as a value. An object keeps its members in the order of their first occurrence, with
the last value of each key. A number is kept as it is written, since nothing here computes with it.

Results:
1. `lookup_insert_self`, `lookup_insert_of_ne`: putting a member sets that key and no other.
-/

namespace SecretTemplate

inductive Json where
  | null
  | bool (b : Bool)
  | number (literal : String)
  | string (s : String)
  | array (items : List Json)
  | object (members : List (String × Json))
  deriving Inhabited, Repr

namespace Json

def string? : Json → Option String
  | string s => some s
  | _ => none

theorem string?_eq_some_iff {v : Json} {s : String} : v.string? = some s ↔ v = .string s := by
  cases v <;> simp [string?]

end Json

namespace Members

/-- The members with `value` at `key`. -/
def insert {α : Type} (key : String) (value : α) : List (String × α) → List (String × α)
  | [] => [(key, value)]
  | (k, v) :: rest => if k = key then (k, value) :: rest else (k, v) :: insert key value rest

theorem lookup_insert_self {α : Type} (key : String) (value : α) (members : List (String × α)) :
    (insert key value members).lookup key = some value := by
  induction members with
  | nil => simp [insert]
  | cons m rest ih =>
    obtain ⟨k, v⟩ := m
    by_cases h : k = key
    · simp [insert, h]
    · have hb : (key == k) = false := by simpa using Ne.symm h
      simp [insert, h, List.lookup_cons, hb, ih]

theorem lookup_insert_of_ne {α : Type} {key other : String} (h : other ≠ key) (value : α)
    (members : List (String × α)) :
    (insert key value members).lookup other = members.lookup other := by
  induction members with
  | nil => simp [insert, h]
  | cons m rest ih =>
    obtain ⟨k, v⟩ := m
    by_cases hk : k = key
    · subst hk
      have hb : (other == k) = false := by simpa using h
      simp [insert, List.lookup_cons, hb]
    · simp only [insert, hk, if_false, List.lookup_cons, ih]

end Members

end SecretTemplate
