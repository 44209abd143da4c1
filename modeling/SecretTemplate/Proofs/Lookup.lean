import Mathlib.Data.List.Nodup

/-!
# Entries under keys

A lookup finds the first entry of a key, which is the only one where no two entries have the same
key.

Results:
1. `lookup_eq_some_iff_mem`: an entry is found under its key.
-/

namespace SecretTemplate

variable {α β : Type} [BEq α] [LawfulBEq α] {entries : List (α × β)}

/-- Where no two entries have the same key, an entry is found under its key. -/
theorem lookup_eq_some_iff_mem (nodup : (entries.map Prod.fst).Nodup) {key : α} {value : β} :
    entries.lookup key = some value ↔ (key, value) ∈ entries := by
  induction entries with
  | nil => simp
  | cons e rest ih =>
    obtain ⟨k, v⟩ := e
    rw [List.map_cons, List.nodup_cons] at nodup
    rw [List.lookup_cons, List.mem_cons, Prod.mk.injEq]
    by_cases h : key = k
    · subst h
      have other : (key, value) ∉ rest := fun mem => nodup.1 (List.mem_map.2 ⟨_, mem, rfl⟩)
      simp [other, eq_comm]
    · rw [beq_false_of_ne h]
      simp only [h, false_and, false_or]
      exact ih nodup.2

end SecretTemplate
