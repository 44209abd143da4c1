import SecretTemplate.Text.Search

/-!
# Texts with slots

A layout is a text some parts of which are left open, as slots, and are written later. What a search
for a text finds is a layout as well, with a slot for every occurrence, so that replacing the
occurrences is writing the slots.

Results:
1. `chars_expand`: a slot may be replaced by a layout before it is written.
2. `replaceAll_eq_chars`: replacing writes what the search has found.
3. `occurrences_append_self`, `occurrences_append_of_absent`: what the search finds, by what the
   text starts with.
4. `ext_of_chars`: a layout is known by what becomes of it for all values of its slots.
-/

namespace SecretTemplate

open Text

/-- One piece of a text with slots: a character that stands there, or a slot. -/
inductive Piece (α : Type) where
  | char (c : Char)
  | slot (a : α)
  deriving DecidableEq, Repr

/-- A text with slots, from left to right. -/
abbrev Layout (α : Type) := List (Piece α)

namespace Layout

variable {α β : Type}

/-- The characters of a layout whose slots are written by `f`. -/
def chars (f : α → List Char) : Layout α → List Char
  | [] => []
  | .char c :: l => c :: chars f l
  | .slot a :: l => f a ++ chars f l

/-- The slots of a layout. -/
def slots : Layout α → List α
  | [] => []
  | .char _ :: l => slots l
  | .slot a :: l => a :: slots l

/-- The layout with a layout in place of every slot. -/
def expand (g : α → Layout β) : Layout α → Layout β
  | [] => []
  | .char c :: l => .char c :: expand g l
  | .slot a :: l => g a ++ expand g l

/-- The layout with other names for its slots. -/
def relabel (f : α → β) : Layout α → Layout β
  | [] => []
  | .char c :: l => .char c :: relabel f l
  | .slot a :: l => .slot (f a) :: relabel f l

/-- A text without slots. -/
def plain (s : List Char) : Layout α :=
  s.map .char

/-- The text of a layout whose slots are written by `f`. -/
def write (f : α → String) (l : Layout α) : String :=
  String.ofList (l.chars fun a => (f a).toList)

@[simp] theorem chars_append (f : α → List Char) (l m : Layout α) :
    chars f (l ++ m) = chars f l ++ chars f m := by
  induction l with
  | nil => rfl
  | cons p l ih => cases p <;> simp [chars, ih]

@[simp] theorem slots_append (l m : Layout α) : slots (l ++ m) = slots l ++ slots m := by
  induction l with
  | nil => rfl
  | cons p l ih => cases p <;> simp [slots, ih]

@[simp] theorem expand_append (g : α → Layout β) (l m : Layout α) :
    expand g (l ++ m) = expand g l ++ expand g m := by
  induction l with
  | nil => rfl
  | cons p l ih => cases p <;> simp [expand, ih]

@[simp] theorem relabel_append (g : α → β) (l m : Layout α) :
    relabel g (l ++ m) = relabel g l ++ relabel g m := by
  induction l with
  | nil => rfl
  | cons p l ih => cases p <;> simp [relabel, ih]

@[simp] theorem chars_plain (f : α → List Char) (s : List Char) : chars f (plain s) = s := by
  induction s with
  | nil => rfl
  | cons c s ih => exact congrArg (c :: ·) ih

@[simp] theorem slots_plain (s : List Char) : slots (plain s : Layout α) = [] := by
  induction s with
  | nil => rfl
  | cons c s ih => exact ih

@[simp] theorem expand_plain (g : α → Layout β) (s : List Char) :
    expand g (plain s) = plain s := by
  induction s with
  | nil => rfl
  | cons c s ih => exact congrArg (.char c :: ·) ih

@[simp] theorem relabel_plain (g : α → β) (s : List Char) : relabel g (plain s) = plain s := by
  induction s with
  | nil => rfl
  | cons c s ih => exact congrArg (.char c :: ·) ih

/-- A slot may be replaced by a layout before it is written. -/
theorem chars_expand (f : β → List Char) (g : α → Layout β) (l : Layout α) :
    chars f (expand g l) = chars (fun a => chars f (g a)) l := by
  induction l with
  | nil => rfl
  | cons p l ih => cases p <;> simp [expand, chars, ih]

theorem chars_relabel (f : β → List Char) (g : α → β) (l : Layout α) :
    chars f (relabel g l) = chars (fun a => f (g a)) l := by
  induction l with
  | nil => rfl
  | cons p l ih => cases p <;> simp [relabel, chars, ih]

theorem expand_relabel {γ : Type} (f : β → Layout γ) (g : α → β) (l : Layout α) :
    expand f (relabel g l) = expand (fun a => f (g a)) l := by
  induction l with
  | nil => rfl
  | cons p l ih => cases p <;> simp [relabel, expand, ih]

theorem slots_relabel (g : α → β) (l : Layout α) : slots (relabel g l) = (slots l).map g := by
  induction l with
  | nil => rfl
  | cons p l ih => cases p <;> simp [relabel, slots, ih]

/-- What is written depends on what stands in the slots of the layout. -/
theorem chars_congr {f g : α → List Char} {l : Layout α} (h : ∀ a ∈ slots l, f a = g a) :
    chars f l = chars g l := by
  induction l with
  | nil => rfl
  | cons p l ih =>
    cases p with
    | char c => exact congrArg (c :: ·) (ih h)
    | slot a =>
      rw [slots, List.forall_mem_cons] at h
      rw [chars, chars, h.1, ih h.2]

theorem expand_congr {f g : α → Layout β} {l : Layout α} (h : ∀ a ∈ slots l, f a = g a) :
    expand f l = expand g l := by
  induction l with
  | nil => rfl
  | cons p l ih =>
    cases p with
    | char c => exact congrArg (.char c :: ·) (ih h)
    | slot a =>
      rw [slots, List.forall_mem_cons] at h
      rw [expand, expand, h.1, ih h.2]

theorem exists_ne_char (c : Char) : ∃ d : Char, d ≠ c := by
  by_cases h : c = 'a'
  · exact ⟨'b', h ▸ by decide⟩
  · exact ⟨'a', Ne.symm h⟩

/-- A layout whose slots are alike is known by what becomes of it for all values of them. -/
theorem ext_of_chars {l m : Layout Unit}
    (h : ∀ v : List Char, chars (fun _ => v) l = chars (fun _ => v) m) : l = m := by
  induction l generalizing m with
  | nil =>
    cases m with
    | nil => rfl
    | cons q m => cases q <;> cases h ['a']
  | cons p l ih =>
    cases p with
    | char c =>
      obtain ⟨e, he⟩ := exists_ne_char c
      cases m with
      | nil => cases h []
      | cons q m =>
        cases q with
        | char d =>
          have tail : l = m := ih fun v => (List.cons.inj (h v)).2
          rw [(List.cons.inj (h [])).1, tail]
        | slot => exact absurd (List.cons.inj (h [e])).1.symm he
    | slot =>
      cases m with
      | nil => cases h ['a']
      | cons q m =>
        cases q with
        | char d =>
          obtain ⟨e, he⟩ := exists_ne_char d
          exact absurd (List.cons.inj (h [e])).1 he
        | slot => rw [ih fun v => List.append_cancel_left (h v)]

@[simp] theorem toList_write (f : α → String) (l : Layout α) :
    (write f l).toList = chars (fun a => (f a).toList) l :=
  String.toList_ofList

end Layout

namespace Text

/-- What a search for `old` finds behind the next `used` characters, which belong to the last
occurrence: a slot for every occurrence, from left to right and without overlap. -/
def occurrencesFrom (old : List Char) : (used : Nat) → List Char → Layout Unit
  | _, [] => []
  | used + 1, _ :: s => occurrencesFrom old used s
  | 0, c :: s =>
    if (after? old (c :: s)).isSome && old != [] then
      .slot () :: occurrencesFrom old (old.length - 1) s
    else .char c :: occurrencesFrom old 0 s

/-- What a search for `old` finds in a text. -/
def occurrences (old s : List Char) : Layout Unit :=
  occurrencesFrom old 0 s

/-- Replacing writes what the search has found. -/
theorem replaceAll_eq_chars (old new s : List Char) :
    replaceAll old new s = (occurrences old s).chars fun _ => new := by
  have from_eq (n : Nat) :
      replaceFrom old new n s = (occurrencesFrom old n s).chars fun _ => new := by
    induction s generalizing n with
    | nil => cases n <;> rfl
    | cons c s ih =>
      cases n with
      | succ n => exact ih n
      | zero =>
        rw [replaceFrom, occurrencesFrom]
        split
        · rw [Layout.chars, ih]
        · rw [Layout.chars, ih]
  exact from_eq 0

theorem occurrencesFrom_drop (old : List Char) (n : Nat) (s : List Char) :
    occurrencesFrom old n s = occurrences old (s.drop n) := by
  induction s generalizing n with
  | nil => cases n <;> rfl
  | cons c s ih =>
    cases n with
    | zero => rfl
    | succ n => exact ih n

/-- An occurrence at the start is found, and the search goes on behind it. -/
theorem occurrences_append_self {old : List Char} (h : old ≠ []) (s : List Char) :
    occurrences old (old ++ s) = .slot () :: occurrences old s := by
  obtain ⟨a, p, rfl⟩ := List.exists_cons_of_ne_nil h
  have found : after? (a :: p) (a :: (p ++ s)) = some s := after?_append (a :: p) s
  have behind : (p ++ s).drop ((a :: p).length - 1) = s := by simp
  rw [List.cons_append, occurrences, occurrencesFrom, found, occurrencesFrom_drop, behind]
  simp

/-- Where no occurrence starts, the character stays. -/
theorem occurrences_cons_of_absent {old s : List Char} {c : Char} (h : ¬ old <+: c :: s) :
    occurrences old (c :: s) = .char c :: occurrences old s := by
  have none : after? old (c :: s) = none := by
    cases found : after? old (c :: s) with
    | none => rfl
    | some rest => exact absurd ⟨rest, (after?_eq_some.1 found).symm⟩ h
  rw [occurrences, occurrencesFrom, none]
  rfl

/-- A stretch in which no occurrence starts stays as it is. -/
theorem occurrences_append_of_absent {old x s : List Char}
    (h : ∀ y, y <:+ x → y ≠ [] → ¬ old <+: y ++ s) :
    occurrences old (x ++ s) = Layout.plain x ++ occurrences old s := by
  induction x with
  | nil => rfl
  | cons c x ih =>
    have here : ¬ old <+: c :: (x ++ s) := h (c :: x) List.suffix_rfl (List.cons_ne_nil c x)
    have rest := ih fun y hy => h y (hy.trans (List.suffix_cons c x))
    rw [List.cons_append, occurrences_cons_of_absent here, rest]
    rfl

end Text

end SecretTemplate
