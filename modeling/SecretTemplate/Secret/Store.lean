import SecretTemplate.Secret.Resolve

/-!
# Stores in memory

A store holds an answer for finitely many places: a secret or a failure. Putting an entry replaces
the entry that was there. Everywhere else there is no secret.

Results:
1. `reader_put_self`, `reader_put_of_ne`: putting an entry changes the answer at its place only.
2. `reader_delete_self`, `reader_delete_of_ne`: at a deleted place there is no secret, and the
   other answers stay.
-/

namespace SecretTemplate

structure Store where
  entries : List (Read × Except Error Record) := []

namespace Store

def contains (s : Store) (q : Read) : Bool :=
  s.entries.any (·.1 = q)

def delete (s : Store) (q : Read) : Store :=
  ⟨s.entries.filter (·.1 ≠ q)⟩

def put (s : Store) (q : Read) (entry : Except Error Record) : Store :=
  ⟨(q, entry) :: (s.delete q).entries⟩

def reader (s : Store) : Reader := fun q =>
  match s.entries.lookup q with
  | none => .ok none
  | some entry => entry.map some

/-- Putting an entry sets the answer at its place. -/
theorem reader_put_self (s : Store) (q : Read) (entry : Except Error Record) :
    (s.put q entry).reader q = entry.map some := by
  simp [reader, put]

/-- Entries that are left out change nothing where the others stand. -/
theorem lookup_filter_of_pos (keep : Read → Bool) {p : Read} (h : keep p = true)
    (entries : List (Read × Except Error Record)) :
    (entries.filter fun e => keep e.1).lookup p = entries.lookup p := by
  induction entries with
  | nil => rfl
  | cons e rest ih =>
    obtain ⟨k, v⟩ := e
    rw [List.filter_cons]
    by_cases hp : p = k
    · subst hp
      rw [if_pos h, List.lookup_cons_self, List.lookup_cons_self]
    · have hb : (p == k) = false := beq_false_of_ne hp
      have behind : ((k, v) :: rest).lookup p = rest.lookup p := by rw [List.lookup_cons, hb]
      split
      · rw [List.lookup_cons, hb, behind]
        exact ih
      · rw [behind]
        exact ih

theorem lookup_delete_of_ne (s : Store) {p q : Read} (h : p ≠ q) :
    (s.delete q).entries.lookup p = s.entries.lookup p :=
  lookup_filter_of_pos (fun k => decide (k ≠ q)) (decide_eq_true h) s.entries

/-- Putting an entry changes the answer at no other place. -/
theorem reader_put_of_ne (s : Store) {p q : Read} (h : p ≠ q) (entry : Except Error Record) :
    (s.put q entry).reader p = s.reader p := by
  have hb : (p == q) = false := by simpa using h
  simp [reader, put, List.lookup_cons, hb, lookup_delete_of_ne s h]

/-- Deleting an entry changes the answer at no other place. -/
theorem reader_delete_of_ne (s : Store) {p q : Read} (h : p ≠ q) :
    (s.delete q).reader p = s.reader p := by
  rw [reader, reader, lookup_delete_of_ne s h]

/-- At a deleted place there is no secret. -/
theorem reader_delete_self (s : Store) (q : Read) : (s.delete q).reader q = .ok none := by
  have : (s.delete q).entries.lookup q = none := by
    rw [List.lookup_eq_none_iff]
    simp only [delete, List.mem_filter]
    rintro ⟨k, v⟩ ⟨_, h⟩
    have hk : k ≠ q := by simpa using h
    simpa using hk.symm
  simp [reader, this]

end Store

end SecretTemplate
