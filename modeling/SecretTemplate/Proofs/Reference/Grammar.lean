import Mathlib.Data.List.Basic
import SecretTemplate.Proofs.Reference.RoundTrip

/-!
# The grammar of references

A text is a reference when all of its options are assignments, when every assignment of `b64` is a
truth value, and when the last assignments of `path` and of `field` are not empty. The first option
that breaks the rules decides the failure, also where a later option assigns the same key. For all
other texts the last assignment of a key decides, whatever is assigned to other keys, and wherever.

Results:
1. `parse_eq_of_fault`: an option is refused for its fault, or says its assignment.
2. `mapM_eq_of_fault`: the first fault decides.
3. `foldl_said`: the last assignments decide.
4. `parse_eq_of_assignments`: what a text is read as, and which part of it matters.
-/

namespace SecretTemplate

open Text

namespace Setting

/-- The key and the value of an option: what stands in front of its first equals sign and what
stands behind it, without the blanks at their ends. -/
def assignment? (option : List Char) : Option (String × String) :=
  if '=' ∈ option then
    let key := option.takeWhile (· != '=')
    some (String.ofList (trim key), String.ofList (trim (option.drop (key.length + 1))))
  else none

theorem assignment?_append {key : List Char} (plain : '=' ∉ key) (value : List Char) :
    assignment? (key ++ '=' :: value) =
      some (String.ofList (trim key), String.ofList (trim value)) := by
  have behind : (key ++ '=' :: value).drop (key.length + 1) = value := by
    rw [← List.drop_drop, List.drop_left]
    rfl
  rw [assignment?, if_pos (by simp), takeWhile_ne_append plain]
  dsimp only
  rw [behind]

example : assignment? " path = kv/a=b ".toList = some ("path", "kv/a=b") := by decide +kernel

/-- Why an option of the reference `raw` is refused: it assigns nothing, or no truth value to
`b64`. -/
def fault? (raw : String) (option : List Char) : Option Error :=
  match assignment? option with
  | none => some (.malformedOption raw (String.ofList option))
  | some (key, value) =>
    if key = "b64" ∧ bool? value = none then some (.invalidOption key value) else none

def said (option : List Char) : Setting :=
  match assignment? option with
  | none => ignored
  | some (key, value) =>
    match ofPair key.toList value.toList with
    | .ok setting => setting
    | .error _ => ignored

theorem parse_eq_of_assignment (raw option : List Char) :
    parse raw option =
      match assignment? option with
      | none => .error (.malformedOption (String.ofList raw) (String.ofList option))
      | some (key, value) => ofPair key.toList value.toList := by
  by_cases h : '=' ∈ option
  · obtain ⟨key, value, rfl, plain⟩ := List.eq_append_cons_of_mem h
    rw [assignment?_append plain, parse, dropWhile_ne_append plain, takeWhile_ne_append plain]
    simp only [String.toList_ofList]
  · rw [parse_of_noEquals h, assignment?, if_neg h]

theorem ofPair_eq (key value : String) :
    ofPair key.toList value.toList =
      if key = "path" then .ok (path value)
      else if key = "field" then .ok (field value)
      else if key = "b64" then
        match bool? value with
        | some b => .ok (b64 b)
        | none => .error (.invalidOption "b64" value)
      else if key = "ver" then .ok (version (Version.ofTag value))
      else if key = "transform" then .ok (transformations (names value.toList))
      else .ok ignored := by
  rw [ofPair, String.ofList_toList, String.ofList_toList]
  split
  · rfl
  · rfl
  · rfl
  · rfl
  · rfl
  · next noPath noField noB64 noVer noTransform =>
    rw [if_neg noPath, if_neg noField, if_neg noB64, if_neg noVer, if_neg noTransform]

/-- An option is refused for its fault, or says its assignment. -/
theorem parse_eq_of_fault (raw : String) (option : List Char) :
    parse raw.toList option =
      match fault? raw option with
      | some cause => .error cause
      | none => .ok (said option) := by
  rw [parse_eq_of_assignment, String.ofList_toList, fault?, said]
  cases assignment? option with
  | none => rfl
  | some pair =>
    obtain ⟨key, value⟩ := pair
    dsimp only
    rw [ofPair_eq]
    by_cases h : key = "b64"
    · subst h
      cases hb : bool? value <;> simp
    · simp only [h, false_and, if_false]
      split_ifs <;> rfl

end Setting

namespace Reference

open Setting

def optionsOf (raw : String) : List (List Char) :=
  raw.toList.splitOn ','

/-- The value that the last option with a key assigns to it. -/
def lastValue? (options : List (List Char)) (key : String) : Option String :=
  (options.filterMap assignment?).reverse.lookup key

/-- The reference of which every part is what the last option with its key assigns. -/
def ofLast (options : List (List Char)) : Reference where
  path := (lastValue? options "path").getD ""
  field := (lastValue? options "field").getD ""
  b64 := ((lastValue? options "b64").bind bool?).getD false
  version := (lastValue? options "ver").elim .v2 Version.ofTag
  transformations := (lastValue? options "transform").elim [] fun value => names value.toList

/-- The first fault decides. -/
theorem mapM_eq_of_fault (raw : String) (options : List (List Char)) :
    options.mapM (Setting.parse raw.toList) =
      match options.findSome? (fault? raw) with
      | some cause => .error cause
      | none => .ok (options.map said) := by
  induction options with
  | nil => rfl
  | cons option options ih =>
    rw [List.mapM_cons, ih, parse_eq_of_fault, List.findSome?_cons]
    cases fault? raw option with
    | some cause => rfl
    | none =>
      cases options.findSome? (fault? raw) <;> rfl

theorem lastValue?_append_of_some {option : List Char} {key value : String}
    (h : assignment? option = some (key, value)) (options : List (List Char)) (other : String) :
    lastValue? (options ++ [option]) other =
      if key = other then some value else lastValue? options other := by
  have behind : (options ++ [option]).filterMap assignment? =
      options.filterMap assignment? ++ [(key, value)] := by simp [h]
  rw [lastValue?, behind, List.reverse_append, List.reverse_singleton, List.singleton_append,
    List.lookup_cons]
  by_cases same : key = other
  · rw [if_pos same, same, beq_self_eq_true]
  · rw [if_neg same, beq_false_of_ne (Ne.symm same)]
    rfl

/-- An option that is accepted sets what its key stands for, and leaves the rest. -/
theorem apply_said {raw : String} {option : List Char} (accepted : fault? raw option = none)
    (options : List (List Char)) :
    Setting.apply (ofLast options) (said option) = ofLast (options ++ [option]) := by
  rw [fault?] at accepted
  rw [said]
  cases ha : assignment? option with
  | none => simp [ha] at accepted
  | some pair =>
    obtain ⟨key, value⟩ := pair
    have last := lastValue?_append_of_some ha options
    simp only [ha, ite_eq_right_iff, reduceCtorEq, imp_false, not_and] at accepted
    dsimp only
    rw [ofPair_eq]
    simp only [ofLast, last]
    -- Each key sets its own part, and every other part keeps its last assignment.
    by_cases path : key = "path"
    · subst path
      rfl
    by_cases field : key = "field"
    · subst field
      rfl
    by_cases b64 : key = "b64"
    · subst b64
      obtain ⟨b, hb⟩ := Option.ne_none_iff_exists'.1 (accepted rfl)
      simp only [hb]
      simp [Setting.apply, hb]
    by_cases version : key = "ver"
    · subst version
      rfl
    by_cases transform : key = "transform"
    · subst transform
      rfl
    simp only [path, field, b64, version, transform, if_false]
    rfl

theorem foldl_said {raw : String} {options : List (List Char)}
    (accepted : ∀ option ∈ options, fault? raw option = none) :
    (options.map said).foldl Setting.apply { path := "", field := "" } = ofLast options := by
  -- The induction takes options off the end, since it is there that the last assignment stands.
  induction options using List.reverseRecOn with
  | nil => rfl
  | append_singleton options option ih =>
    have earlier := ih fun o ho => accepted o (List.mem_append_left _ ho)
    have here := accepted option (List.mem_append_right _ List.mem_cons_self)
    rw [List.map_append, List.foldl_append, earlier]
    exact apply_said here options

/-- The faults come first, then the path, then the field. -/
theorem parse_eq_ofLast (raw : String) :
    parse raw =
      match (optionsOf raw).findSome? (fault? raw) with
      | some cause => .error cause
      | none =>
        if (lastValue? (optionsOf raw) "path").getD "" = "" then .error .emptyPath
        else if (lastValue? (optionsOf raw) "field").getD "" = "" then .error .emptyField
        else .ok (ofLast (optionsOf raw)) := by
  rw [parse_eq, ← optionsOf, mapM_eq_of_fault]
  cases hf : (optionsOf raw).findSome? (fault? raw) with
  | some cause => rfl
  | none =>
    dsimp only
    rw [foldl_said (List.findSome?_eq_none_iff.1 hf)]
    rfl

/-- What a text is read as. The first option with a fault decides the failure. If there is none,
the last options with the keys `path` and `field` must not be empty, the path being looked at first.
Then every part is what the last option with its key says, so that nothing else matters: neither
options with other keys, nor the order between options with different keys. -/
theorem parse_eq_of_assignments (raw : String) :
    (parse raw =
      match (optionsOf raw).findSome? (fault? raw) with
      | some cause => .error cause
      | none =>
        if (lastValue? (optionsOf raw) "path").getD "" = "" then .error .emptyPath
        else if (lastValue? (optionsOf raw) "field").getD "" = "" then .error .emptyField
        else .ok (ofLast (optionsOf raw))) ∧
      ∀ other, (optionsOf raw).findSome? (fault? raw) = none →
        (optionsOf other).findSome? (fault? other) = none →
        (∀ key ∈ ["path", "field", "b64", "ver", "transform"],
          lastValue? (optionsOf other) key = lastValue? (optionsOf raw) key) →
        parse other = parse raw := by
  refine ⟨parse_eq_ofLast raw, fun other sound sound' same => ?_⟩
  simp only [List.forall_mem_cons] at same
  obtain ⟨path, field, b64, version, transform, -⟩ := same
  have parts : ofLast (optionsOf other) = ofLast (optionsOf raw) := by
    simp only [ofLast, path, field, b64, version, transform]
  rw [parse_eq_ofLast, parse_eq_ofLast, sound, sound', parts]
  simp only [path, field]

/-- An overwritten path, a key that is not known and the order make no difference. -/
theorem parse_eq_of_assignments_reordered :
    parse "path=kv/old, note=x, field=user, path=kv/app" = parse "path=kv/app,field=user" := by
  refine (parse_eq_of_assignments "path=kv/app,field=user").2 _ ?_ ?_ ?_ <;> decide +kernel

end Reference

end SecretTemplate
