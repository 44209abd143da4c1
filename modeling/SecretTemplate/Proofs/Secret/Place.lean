import Mathlib.Data.List.TakeWhile
import SecretTemplate.Secret.Resolve

/-!
# Places

A path names a place in a store: a mount, a slash, and a path below the mount. The mount is the
first segment of the path. The path below is what is left when the mount and its slash are taken
off the front, and it has a first segment that is not empty.

The mount is found by splitting the path, the path below by taking its front off. The two agree:
where splitting finds a mount and something below it, that front is there to be taken off.

Results:
1. `belowMount?_eq_some_iff`: what is left of a path behind a mount.
2. `splitMount_eq_ok_iff`, `splitMount_eq_error_iff`: which paths name a place.
3. `splitMount_iff`: what a path is split into makes up the path, and nothing is lost.
-/

namespace SecretTemplate

open Text

/-- The mount and the path below it make up the path. The mount is its first segment, and the path
below has a first segment that is not empty. -/
structure IsPlace (path mount below : String) : Prop where
  path_eq : path = mount ++ "/" ++ below
  slash_not_mem : '/' ∉ mount.toList
  head_ne_slash : ∃ c ∈ below.toList.head?, c ≠ '/'

theorem IsPlace.toList_eq {path mount below : String} (h : IsPlace path mount below) :
    path.toList = mount.toList ++ '/' :: below.toList := by
  rw [h.path_eq, String.toList_append, String.toList_append, List.append_assoc]
  rfl

/-- The first segment of a path. -/
def firstSegment (path : String) : String :=
  String.ofList (path.toList.takeWhile (· != '/'))

/-- What is left of a path behind a mount. -/
theorem belowMount?_eq_some_iff {mount path below : List Char} :
    belowMount? mount path = some below ↔ path = mount ++ '/' :: below := by
  simp [belowMount?, Option.bind_eq_some_iff, after?_eq_some]

variable {path : String} {mount rest : List Char}

theorem firstSegment_of_not_mem (alone : '/' ∉ path.toList) : firstSegment path = path := by
  have all : path.toList.takeWhile (· != '/') = path.toList :=
    List.takeWhile_eq_self_iff.2 fun c hc => bne_iff_ne.2 fun slash => alone (slash ▸ hc)
  rw [firstSegment, all, String.ofList_toList]

theorem firstSegment_of_slash (first : '/' ∉ mount) (whole : path.toList = mount ++ '/' :: rest) :
    firstSegment path = String.ofList mount := by
  rw [firstSegment, whole, takeWhile_ne_append first]

/-- A path without a slash is refused: it is a mount only. -/
theorem splitMount_of_not_mem (alone : '/' ∉ path.toList) :
    splitMount path = .error (.missingSubpath (firstSegment path)) := by
  rw [splitMount, List.splitOn_eq_singleton alone, firstSegment_of_not_mem alone]
  show Except.error (Error.missingSubpath (String.ofList path.toList)) = _
  rw [String.ofList_toList]

/-- A path is refused if behind its first slash nothing comes, or another slash. -/
theorem splitMount_of_gap (first : '/' ∉ mount) (whole : path.toList = mount ++ '/' :: rest)
    (gap : ∀ c ∈ rest.head?, c = '/') :
    splitMount path = .error (.missingSubpath (firstSegment path)) := by
  have second : (rest.splitOn '/').head? = some [] := by
    cases rest with
    | nil => rfl
    | cons c rest =>
      obtain rfl := gap c rfl
      rw [List.splitOn_cons_eq_if_modifyHead, if_pos (beq_self_eq_true _)]
      rfl
  rw [splitMount, firstSegment_of_slash first whole, whole,
    List.splitOn_append_cons_self_of_not_mem first, List.getElem?_cons_succ,
    ← List.head?_eq_getElem?, second]
  rfl

/-- A path is split at its first slash if a segment comes behind it that is not empty. -/
theorem splitMount_of_segment {c : Char} (first : '/' ∉ mount) (ne : c ≠ '/')
    (whole : path.toList = mount ++ '/' :: c :: rest) :
    splitMount path = .ok (String.ofList mount, String.ofList (c :: rest)) := by
  obtain ⟨segment, segments, more⟩ := List.exists_cons_of_ne_nil (List.splitOn_ne_nil '/' rest)
  have second : ((c :: rest).splitOn '/').head? = some (c :: segment) := by
    rw [List.splitOn_cons_eq_if_modifyHead, if_neg (by simpa using ne), more]
    rfl
  have below : belowMount? mount (mount ++ '/' :: c :: rest) = some (c :: rest) :=
    belowMount?_eq_some_iff.2 rfl
  rw [splitMount, whole, List.splitOn_append_cons_self_of_not_mem first]
  -- The second segment decides, and what is taken off the front is the first.
  rw [List.getElem?_cons_succ, ← List.head?_eq_getElem?, second, List.headD_cons, below]
  rfl

/-- The paths that name a place are split into its mount and the path below. -/
theorem splitMount_eq_ok_iff {path mount below : String} :
    splitMount path = .ok (mount, below) ↔ IsPlace path mount below := by
  constructor
  · intro h
    by_cases slash : '/' ∈ path.toList
    · obtain ⟨front, back, whole, first⟩ := List.eq_append_cons_of_mem slash
      by_cases gap : ∀ c ∈ back.head?, c = '/'
      · rw [splitMount_of_gap first whole gap] at h
        cases h
      · obtain ⟨c, hc, ne⟩ : ∃ c ∈ back.head?, c ≠ '/' := by simpa using gap
        obtain ⟨rest, rfl⟩ := List.head?_eq_some_iff.1 hc
        rw [splitMount_of_segment first ne whole] at h
        cases h
        refine ⟨?_, by rwa [String.toList_ofList], c, by rw [String.toList_ofList]; rfl, ne⟩
        rw [← String.toList_inj, whole]
        simp
    · rw [splitMount_of_not_mem slash] at h
      cases h
  · intro place
    obtain ⟨c, hc, ne⟩ := place.head_ne_slash
    obtain ⟨rest, below_eq⟩ := List.head?_eq_some_iff.1 hc
    have whole := place.toList_eq
    rw [below_eq] at whole
    rw [splitMount_of_segment place.slash_not_mem ne whole, ← below_eq, String.ofList_toList,
      String.ofList_toList]

theorem splitMount_of_nowhere (nowhere : ∀ mount below, ¬IsPlace path mount below) :
    splitMount path = .error (.missingSubpath (firstSegment path)) := by
  by_cases slash : '/' ∈ path.toList
  · obtain ⟨front, back, whole, first⟩ := List.eq_append_cons_of_mem slash
    refine splitMount_of_gap first whole fun c hc => ?_
    by_contra ne
    obtain ⟨rest, rfl⟩ := List.head?_eq_some_iff.1 hc
    exact nowhere _ _ (splitMount_eq_ok_iff.1 (splitMount_of_segment first ne whole))
  · exact splitMount_of_not_mem slash

/-- A path that names no place is refused with its first segment. -/
theorem splitMount_eq_error_iff {cause : Error} :
    splitMount path = .error cause ↔
      (∀ mount below, ¬IsPlace path mount below) ∧ cause = .missingSubpath (firstSegment path) := by
  constructor
  · intro h
    have nowhere : ∀ mount below, ¬IsPlace path mount below := by
      intro mount below place
      rw [splitMount_eq_ok_iff.2 place] at h
      cases h
    rw [splitMount_of_nowhere nowhere] at h
    cases h
    exact ⟨nowhere, rfl⟩
  · rintro ⟨nowhere, rfl⟩
    exact splitMount_of_nowhere nowhere

/-- A path is split if it names a place, and into the mount and the path below of that place. All
other paths are refused with their first segment. When a path is split, its front is a mount and a
slash, so the default for what is below is not needed, and the two parts make up the path, so no
other path is split into them. -/
theorem splitMount_iff (path : String) :
    (∀ mount below, splitMount path = .ok (mount, below) ↔ IsPlace path mount below) ∧
      (∀ cause, splitMount path = .error cause ↔
        (∀ mount below, ¬IsPlace path mount below) ∧
          cause = .missingSubpath (firstSegment path)) ∧
      (∀ mount below, splitMount path = .ok (mount, below) →
        belowMount? mount.toList path.toList = some below.toList) ∧
      ∀ other place, splitMount path = .ok place → splitMount other = .ok place → path = other := by
  refine ⟨fun _ _ => splitMount_eq_ok_iff, fun _ => splitMount_eq_error_iff, ?_, ?_⟩
  · intro mount below split
    exact belowMount?_eq_some_iff.2 (splitMount_eq_ok_iff.1 split).toList_eq
  · rintro other ⟨mount, below⟩ split same
    rw [(splitMount_eq_ok_iff.1 split).path_eq, (splitMount_eq_ok_iff.1 same).path_eq]

end SecretTemplate
