import SecretTemplate.Proofs.Json.Fields

/-!
# Changes that a structure does not show

The members of an object may stand in any order, and those under other keys may come and go and hold
anything: the structure with the fields named stays one, with the same values in its fields.

Results:
1. `isStructure_cons_iff`, `field_cons_iff`: structures and their fields, member by member.
2. `Unseen.isStructure`: a change that is not seen leaves a structure.
3. `Unseen.field_iff`: a change that is not seen leaves the fields.
-/

namespace SecretTemplate.JsonTree

variable {names : List String} {members members' : List (List UInt8 × JsonTree)} {k : List UInt8}
  {key name : String} {t v : JsonTree}

theorem field_object_iff :
    Field names name (object members) v ↔ (name, v) ∈ known names members := by
  rw [mem_known_iff]
  constructor
  · rintro (⟨known, mem, hk⟩ | _)
    exact ⟨known, _, mem, hk⟩
  · rintro ⟨known, k, mem, hk⟩
    exact .member known mem hk

theorem isStructure_object_iff :
    IsStructure names (object members) ↔
      (∀ m ∈ members, (text? m.1).isSome) ∧ ((known names members).map Prod.fst).Nodup := by
  constructor
  · rintro (⟨texts, nodup⟩ | _)
    exact ⟨texts, nodup⟩
  · rintro ⟨texts, nodup⟩
    exact .object texts nodup

/-- A member of an object shows in its own field only. -/
theorem field_cons_iff (hk : text? k = some key) :
    Field names name (object ((k, t) :: members)) v ↔
      (name ∈ names ∧ name = key ∧ v = t) ∨ Field names name (object members) v := by
  rw [field_object_iff, field_object_iff]
  by_cases known : key ∈ names
  · rw [known_cons_of_mem hk known, List.mem_cons, Prod.mk.injEq]
    refine or_congr_left ⟨?_, And.right⟩
    rintro ⟨rfl, rfl⟩
    exact ⟨known, rfl, rfl⟩
  · rw [known_cons_of_not_mem hk known]
    refine ⟨.inr, ?_⟩
    rintro (⟨mem, rfl, -⟩ | h)
    · exact absurd mem known
    · exact h

/-- A member of an object does not show in another field. -/
theorem field_cons_of_other (hk : text? k = some key) (other : name ∈ names → name ≠ key) :
    Field names name (object ((k, t) :: members)) v ↔ Field names name (object members) v := by
  rw [field_cons_iff hk]
  refine ⟨?_, .inr⟩
  rintro (⟨mem, same, -⟩ | h)
  · exact absurd same (other mem)
  · exact h

/-- A structure may have one more member if its key is no name of a field, or the field is not there
yet. -/
theorem isStructure_cons_iff (hk : text? k = some key) :
    IsStructure names (object ((k, t) :: members)) ↔
      (key ∈ names → ∀ v, ¬Field names key (object members) v) ∧
        IsStructure names (object members) := by
  rw [isStructure_object_iff, isStructure_object_iff, List.forall_mem_cons, hk]
  simp only [Option.isSome_some, true_and, field_object_iff]
  by_cases known : key ∈ names
  · have absent : key ∉ (JsonTree.known names members).map Prod.fst ↔
        ∀ v, (key, v) ∉ JsonTree.known names members := by simp
    rw [known_cons_of_mem hk known, List.map_cons, List.nodup_cons, absent]
    simp only [known, forall_const]
    exact and_left_comm
  · rw [known_cons_of_not_mem hk known]
    simp only [known, false_implies, true_and]

/-- A change to the members of an object that a structure with the fields named does not show. -/
inductive Unseen (names : List String) :
    List (List UInt8 × JsonTree) → List (List UInt8 × JsonTree) → Prop
  /-- The members stand in another order. -/
  | reorder {members members' : List (List UInt8 × JsonTree)} :
      members.Perm members' → Unseen names members members'
  /-- There is a member more, under another key. -/
  | add {members : List (List UInt8 × JsonTree)} {k : List UInt8} {key : String}
      (t : JsonTree) : text? k = some key → key ∉ names → Unseen names members ((k, t) :: members)
  /-- There is a member less. -/
  | drop {members : List (List UInt8 × JsonTree)} {k : List UInt8} {key : String}
      (t : JsonTree) : text? k = some key → key ∉ names → Unseen names ((k, t) :: members) members
  /-- There are several changes, one after the other. -/
  | trans {first middle last : List (List UInt8 × JsonTree)} :
      Unseen names first middle → Unseen names middle last → Unseen names first last

theorem Unseen.field_iff (h : Unseen names members members') :
    Field names name (object members) v ↔ Field names name (object members') v := by
  induction h with
  | reorder perm =>
    rw [field_object_iff, field_object_iff]
    exact (perm.filterMap _).mem_iff
  | add t hk other =>
    exact (field_cons_of_other hk fun known same => other (same ▸ known)).symm
  | drop t hk other => exact field_cons_of_other hk fun known same => other (same ▸ known)
  | trans _ _ ih ih' => exact ih.trans ih'

theorem Unseen.isStructure (h : Unseen names members members')
    (is : IsStructure names (object members)) : IsStructure names (object members') := by
  induction h with
  | reorder perm =>
    rw [isStructure_object_iff] at is ⊢
    obtain ⟨texts, nodup⟩ := is
    exact ⟨fun m mem => texts m (perm.mem_iff.2 mem),
      ((perm.filterMap _).map Prod.fst).nodup_iff.1 nodup⟩
  | add t hk other => exact (isStructure_cons_iff hk).2 ⟨fun known => absurd known other, is⟩
  | drop t hk other => exact ((isStructure_cons_iff hk).1 is).2
  | trans _ _ ih ih' => exact ih' (ih is)

end SecretTemplate.JsonTree
