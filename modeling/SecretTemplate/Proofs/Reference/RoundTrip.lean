import SecretTemplate.Proofs.Text.Split
import SecretTemplate.Reference
import SecretTemplate.Text.Search

/-!
# Reading back the canonical form

`Reference.render` writes any reference, but only some references are read back from what is
written: a path that holds a comma, or a name with a blank at its end, is lost on the way. The
references that are read back are exactly those that some text parses to, and exactly those whose
parts have no separator inside and no blank at their ends.

Results:
1. `isTidy_of_parse`: what is parsed is tidy, whatever the text.
2. `parse_of_isReadable`: a tidy reference with a path and a field is read back.
3. `parse_render_iff`: the three descriptions of these references agree.
-/

namespace SecretTemplate

open Text

/-- A text that can be the value of an option: without a comma, and without blanks at its ends. -/
def IsValue (s : String) : Prop :=
  ',' ∉ s.toList ∧ trimString s = s

theorem isValue_iff {s : String} : IsValue s ↔ ',' ∉ s.toList ∧ trim s.toList = s.toList := by
  rw [IsValue, trimString, ← String.toList_inj, String.toList_ofList]

/-- What is left of a piece without commas is a value. -/
theorem isValue_trim {s : List Char} (h : ',' ∉ s) : IsValue (String.ofList (trim s)) := by
  rw [isValue_iff, String.toList_ofList]
  exact ⟨fun hc => h (trim_subset s hc), trim_trim s⟩

/-- A version that has a tag of its own: one that is a value, and that stands for no known
version. -/
def Version.IsTidy : Version → Prop
  | .other tag => IsValue tag ∧ tag ≠ "v1" ∧ tag ≠ "v2"
  | _ => True

/-- Names that can be told apart in a list. The list of one empty name is written as the empty
list. -/
def IsNameList (names : List String) : Prop :=
  (∀ name ∈ names, '|' ∉ name.toList ∧ IsValue name) ∧ names ≠ [""]

/-- A reference whose parts can be told apart in its canonical form. -/
structure Reference.IsTidy (r : Reference) : Prop where
  path : IsValue r.path
  field : IsValue r.field
  version : r.version.IsTidy
  transformations : IsNameList r.transformations

/-- A tidy reference that has a path and a field. -/
structure Reference.IsReadable (r : Reference) : Prop extends r.IsTidy where
  path_ne_empty : r.path ≠ ""
  field_ne_empty : r.field ≠ ""

/-- A setting that keeps references tidy. -/
def Setting.IsTidy : Setting → Prop
  | .path value => IsValue value
  | .field value => IsValue value
  | .b64 _ => True
  | .version v => v.IsTidy
  | .transformations names => IsNameList names
  | .ignored => True

/-! ## What is parsed is tidy -/

theorem Version.isTidy_ofTag {tag : String} (h : IsValue tag) : (Version.ofTag tag).IsTidy := by
  unfold Version.ofTag
  split
  · trivial
  · next h1 =>
    split
    · trivial
    · next h2 => exact ⟨h, h1, h2⟩

namespace Setting

/-- The names in a value can be told apart. -/
theorem isNameList_names {value : List Char} (comma : ',' ∉ value) (trimmed : trim value = value) :
    IsNameList (names value) := by
  unfold names
  split
  · exact ⟨by simp, by simp⟩
  · next filled =>
    constructor
    · intro name hname
      obtain ⟨piece, hp, rfl⟩ := List.mem_map.1 hname
      refine ⟨?_, isValue_trim fun hc => comma (mem_of_mem_splitOn hp hc)⟩
      rw [String.toList_ofList]
      exact fun hc => not_mem_of_mem_splitOn hp (trim_subset piece hc)
    · intro single
      -- a single piece is the whole value, which is trimmed and not empty
      obtain ⟨piece, hs, hp⟩ := List.map_eq_singleton_iff.1 single
      have whole : piece = value := by
        have joined : ['|'].intercalate (value.splitOn '|') = value :=
          List.intercalate_splitOn '|'
        rw [← joined, hs, List.intercalate_singleton]
      rw [whole, trimmed, ← String.toList_inj, String.toList_ofList] at hp
      exact filled (by simp [hp])

theorem isTidy_of_ofPair {key value : List Char} {s : Setting} (comma : ',' ∉ value)
    (trimmed : trim value = value) (h : ofPair key value = .ok s) : s.IsTidy := by
  have text : IsValue (String.ofList value) := trimmed ▸ isValue_trim comma
  unfold ofPair at h
  dsimp only at h
  split at h
  · cases h; exact text
  · cases h; exact text
  · split at h
    · cases h; trivial
    · cases h
  · cases h; exact Version.isTidy_ofTag text
  · cases h; exact isNameList_names comma trimmed
  · cases h; trivial

/-- An option without commas says a tidy setting. -/
theorem isTidy_of_parse {raw option : List Char} {s : Setting} (comma : ',' ∉ option)
    (h : parse raw option = .ok s) : s.IsTidy := by
  unfold parse at h
  split at h
  · cases h
  · next value hv =>
    have sub : value ⊆ option := fun c hc =>
      (List.dropWhile_suffix _).subset (hv ▸ List.mem_cons_of_mem _ hc)
    exact isTidy_of_ofPair (fun hc => comma (sub (trim_subset value hc))) (trim_trim value) h

/-- A tidy setting keeps a reference tidy. -/
theorem isTidy_apply {r : Reference} {s : Setting} (hr : r.IsTidy) (hs : s.IsTidy) :
    (apply r s).IsTidy := by
  cases s with
  | path value => exact { hr with path := hs }
  | field value => exact { hr with field := hs }
  | b64 value => exact { hr with }
  | version v => exact { hr with version := hs }
  | transformations names => exact { hr with transformations := hs }
  | ignored => exact hr

end Setting

namespace Reference

theorem isTidy_foldl {settings : List Setting} (hs : ∀ s ∈ settings, s.IsTidy) {r : Reference}
    (hr : r.IsTidy) : (settings.foldl Setting.apply r).IsTidy := by
  induction settings generalizing r with
  | nil => exact hr
  | cons s settings ih =>
    rw [List.forall_mem_cons] at hs
    exact ih hs.2 (Setting.isTidy_apply hr hs.1)

/-- The reference that says nothing yet. -/
theorem isTidy_blank : IsTidy { path := "", field := "" } where
  path := ⟨by decide, by decide⟩
  field := ⟨by decide, by decide⟩
  version := trivial
  transformations := ⟨by simp, by simp⟩

/-- What a successful traversal of a list holds comes from its elements. -/
theorem exists_of_mem_mapM {α β : Type} {f : α → Except Error β} {xs : List α} {ys : List β}
    (h : xs.mapM f = .ok ys) {y : β} (hy : y ∈ ys) : ∃ x ∈ xs, f x = .ok y := by
  induction xs generalizing ys with
  | nil => cases h; cases hy
  | cons x xs ih =>
    rw [List.mapM_cons] at h
    cases hx : f x with
    | error cause => simp [hx, bind, Except.bind] at h
    | ok z =>
      cases hr : xs.mapM f with
      | error cause => simp [hx, hr, bind, Except.bind] at h
      | ok zs =>
        simp only [hx, hr, bind, Except.bind, pure, Except.pure, Except.ok.injEq] at h
        subst h
        rcases List.mem_cons.1 hy with rfl | hy
        · exact ⟨x, List.mem_cons_self, hx⟩
        · obtain ⟨x', hx', hf⟩ := ih hr hy
          exact ⟨x', List.mem_cons_of_mem _ hx', hf⟩

/-- The reference that a text writes, with its two checks at the end. -/
theorem parse_eq (raw : String) :
    parse raw =
      match (raw.toList.splitOn ',').mapM (Setting.parse raw.toList) with
      | .error cause => .error cause
      | .ok settings =>
        let r := settings.foldl Setting.apply { path := "", field := "" }
        if r.path = "" then .error .emptyPath else if r.field = "" then .error .emptyField
        else .ok r := by
  dsimp only [parse]
  cases (raw.toList.splitOn ',').mapM (Setting.parse raw.toList) with
  | error cause => rfl
  | ok settings =>
    show (ite _ _ _ : Except Error Reference) = ite _ _ _
    split
    · rfl
    · show (ite _ _ _ : Except Error Reference) = ite _ _ _
      split <;> rfl

/-- When a text parses: its options are settings that end with a path and a field. -/
theorem parse_eq_ok_iff {raw : String} {r : Reference} :
    parse raw = .ok r ↔
      ∃ settings, (raw.toList.splitOn ',').mapM (Setting.parse raw.toList) = .ok settings ∧
        settings.foldl Setting.apply { path := "", field := "" } = r ∧
          r.path ≠ "" ∧ r.field ≠ "" := by
  rw [parse_eq]
  cases (raw.toList.splitOn ',').mapM (Setting.parse raw.toList) with
  | error cause => simp
  | ok settings =>
    simp only [Except.ok.injEq, exists_eq_left']
    constructor
    · intro h
      split_ifs at h with hp hf
      cases h
      exact ⟨rfl, hp, hf⟩
    · rintro ⟨rfl, hp, hf⟩
      rw [if_neg hp, if_neg hf]

/-- What a text parses to is readable. -/
theorem isReadable_of_parse {raw : String} {r : Reference} (h : parse raw = .ok r) :
    r.IsReadable := by
  obtain ⟨settings, hm, hr, hp, hf⟩ := parse_eq_ok_iff.1 h
  have tidy : ∀ s ∈ settings, s.IsTidy := by
    intro s hs
    obtain ⟨option, ho, hparse⟩ := exists_of_mem_mapM hm hs
    exact Setting.isTidy_of_parse (not_mem_of_mem_splitOn ho) hparse
  exact { hr ▸ isTidy_foldl tidy isTidy_blank with path_ne_empty := hp, field_ne_empty := hf }

/-! ## What is tidy is read back -/

end Reference

/-- A version with a tag of its own is read back from it. -/
theorem Version.ofTag_tag_of_isTidy {v : Version} (tidy : v.IsTidy) : ofTag v.tag = v := by
  cases v with
  | v1 => rfl
  | v2 => rfl
  | other tag =>
    obtain ⟨-, h1, h2⟩ := tidy
    rw [Version.tag, ofTag, if_neg h1, if_neg h2]

theorem Version.isValue_tag {v : Version} (tidy : v.IsTidy) : IsValue v.tag := by
  cases v with
  | v1 => exact ⟨by decide, by decide⟩
  | v2 => exact ⟨by decide, by decide⟩
  | other tag => exact tidy.1

namespace Setting

/-- A key and a value with an equals sign between them are that pair. -/
theorem parse_pair {key value : List Char} (plain : '=' ∉ key) (hk : trim key = key)
    (hv : trim value = value) (raw : List Char) :
    parse raw (key ++ '=' :: value) = ofPair key value := by
  rw [parse, dropWhile_ne_append plain, takeWhile_ne_append plain, hk]
  dsimp only
  rw [hv]

/-- What the keys of the canonical form say. -/
theorem ofPair_path (value : String) : ofPair "path".toList value.toList = .ok (path value) := by
  rw [ofPair, String.ofList_toList, String.ofList_toList]
  rfl

theorem ofPair_field (value : String) :
    ofPair "field".toList value.toList = .ok (field value) := by
  rw [ofPair, String.ofList_toList, String.ofList_toList]
  rfl

theorem ofPair_b64 (b : Bool) :
    ofPair "b64".toList (if b then "true" else "false").toList = .ok (Setting.b64 b) := by
  cases b <;> rfl

theorem ofPair_version {v : Version} (tidy : v.IsTidy) :
    ofPair "ver".toList v.tag.toList = .ok (version v) := by
  rw [ofPair, String.ofList_toList, String.ofList_toList]
  exact congrArg (fun v => Except.ok (version v)) (Version.ofTag_tag_of_isTidy tidy)

theorem ofPair_transform (value : List Char) :
    ofPair "transform".toList value = .ok (transformations (names value)) := by
  rw [ofPair, String.ofList_toList]
  rfl

/-- The names of a list, written with bars between them, are a value. -/
theorem isValue_intercalate {ns : List String} (tidy : IsNameList ns) :
    ',' ∉ ['|'].intercalate (ns.map String.toList) ∧
      trim (['|'].intercalate (ns.map String.toList)) =
        ['|'].intercalate (ns.map String.toList) := by
  constructor
  · intro h
    rcases mem_intercalate_iff.1 h with ⟨piece, hp, hc⟩ | ⟨hbar, -⟩
    · obtain ⟨name, hn, rfl⟩ := List.mem_map.1 hp
      exact (tidy.1 name hn).2.1 hc
    · exact absurd hbar (by decide)
  · refine trim_intercalate (by decide) ?_
    rw [List.forall_mem_map]
    exact fun name h => (isValue_iff.1 (tidy.1 name h).2).2

/-- The names of a list are read back. -/
theorem names_intercalate {ns : List String} (ne : ns ≠ []) (tidy : IsNameList ns) :
    names (['|'].intercalate (ns.map String.toList)) = ns := by
  have bar : ∀ name ∈ ns.map String.toList, '|' ∉ name := by
    rw [List.forall_mem_map]
    exact fun name h => (tidy.1 name h).1
  have split : (['|'].intercalate (ns.map String.toList)).splitOn '|' = ns.map String.toList :=
    List.splitOn_intercalate '|' bar (by simpa using ne)
  have filled : ['|'].intercalate (ns.map String.toList) ≠ [] := by
    -- only the list of one empty name leaves nothing
    intro empty
    rw [empty, List.splitOn_nil] at split
    obtain ⟨name, rfl, hn⟩ := List.map_eq_singleton_iff.1 split.symm
    exact tidy.2 (by rw [← String.toList_inj.1 (hn.trans String.toList_empty.symm)])
  unfold names
  rw [if_neg (by simpa using filled), split, List.map_map]
  calc ns.map (fun name => String.ofList (trim name.toList))
      = ns.map id := List.map_congr_left fun name h => (tidy.1 name h).2.2
    _ = ns := List.map_id ns

end Setting

namespace Reference

/-- The options of the canonical form. -/
def options (r : Reference) : List (List Char) :=
  ["path".toList ++ '=' :: r.path.toList,
    "field".toList ++ '=' :: r.field.toList,
    "b64".toList ++ '=' :: (if r.b64 then "true" else "false").toList,
    "ver".toList ++ '=' :: r.version.tag.toList] ++
  if r.transformations = [] then []
  else ["transform".toList ++ '=' :: ['|'].intercalate (r.transformations.map String.toList)]

/-- What the options of the canonical form say. -/
def settings (r : Reference) : List Setting :=
  [.path r.path, .field r.field, .b64 r.b64, .version r.version] ++
  if r.transformations = [] then [] else [.transformations r.transformations]

theorem toList_render (r : Reference) : r.render.toList = [','].intercalate r.options := by
  unfold render options
  cases r.transformations with
  | nil => simp [List.intercalate_cons_cons]
  | cons name names => simp [List.intercalate_cons_cons]

/-- The settings of a reference make the reference. -/
theorem foldl_settings (r : Reference) :
    r.settings.foldl Setting.apply { path := "", field := "" } = r := by
  obtain ⟨path, field, b64, version, names⟩ := r
  cases names <;> rfl

/-- The options of a tidy reference hold no comma, so that they are told apart. -/
theorem comma_not_mem_options {r : Reference} (tidy : r.IsTidy) :
    ∀ option ∈ r.options, ',' ∉ option := by
  have pair {key value : List Char} (hk : ',' ∉ key) (hv : ',' ∉ value) :
      ',' ∉ key ++ '=' :: value := by
    rw [List.mem_append, List.mem_cons]
    rintro (h | h | h)
    · exact hk h
    · exact absurd h (by decide)
    · exact hv h
  unfold options
  intro option ho
  rcases List.mem_append.1 ho with ho | ho
  · simp only [List.mem_cons, List.not_mem_nil, or_false] at ho
    rcases ho with rfl | rfl | rfl | rfl
    · exact pair (by decide) tidy.path.1
    · exact pair (by decide) tidy.field.1
    · exact pair (by decide) (by cases r.b64 <;> decide)
    · exact pair (by decide) (Version.isValue_tag tidy.version).1
  · split_ifs at ho with none
    · cases ho
    · rw [List.mem_singleton.1 ho]
      exact pair (by decide) (Setting.isValue_intercalate tidy.transformations).1

/-- Every option of a tidy reference is read back. -/
theorem mapM_options {r : Reference} (tidy : r.IsTidy) (raw : List Char) :
    r.options.mapM (Setting.parse raw) = .ok r.settings := by
  have path : Setting.parse raw ("path".toList ++ '=' :: r.path.toList) = .ok (.path r.path) :=
    (Setting.parse_pair (by decide) (by decide) (isValue_iff.1 tidy.path).2 raw).trans
      (Setting.ofPair_path _)
  have field : Setting.parse raw ("field".toList ++ '=' :: r.field.toList) =
      .ok (.field r.field) :=
    (Setting.parse_pair (by decide) (by decide) (isValue_iff.1 tidy.field).2 raw).trans
      (Setting.ofPair_field _)
  have b64 : Setting.parse raw
      ("b64".toList ++ '=' :: (if r.b64 then "true" else "false").toList) = .ok (.b64 r.b64) :=
    (Setting.parse_pair (by decide) (by decide) (by cases r.b64 <;> decide) raw).trans
      (Setting.ofPair_b64 _)
  have version : Setting.parse raw ("ver".toList ++ '=' :: r.version.tag.toList) =
      .ok (.version r.version) :=
    (Setting.parse_pair (by decide) (by decide)
      (isValue_iff.1 (Version.isValue_tag tidy.version)).2 raw).trans
        (Setting.ofPair_version tidy.version)
  unfold options settings
  by_cases none : r.transformations = []
  · rw [if_pos none, if_pos none]
    simp only [List.append_nil, List.mapM_cons, List.mapM_nil, path, field, b64, version]
    rfl
  · have names : Setting.parse raw
        ("transform".toList ++ '=' :: ['|'].intercalate (r.transformations.map String.toList)) =
          .ok (.transformations r.transformations) := by
      rw [Setting.parse_pair (by decide) (by decide)
        (Setting.isValue_intercalate tidy.transformations).2, Setting.ofPair_transform,
        Setting.names_intercalate none tidy.transformations]
    rw [if_neg none, if_neg none]
    simp only [List.cons_append, List.nil_append, List.mapM_cons, List.mapM_nil, path, field, b64,
      version, names]
    rfl

/-- A readable reference is read back from its canonical form. -/
theorem parse_of_isReadable {r : Reference} (h : r.IsReadable) : parse r.render = .ok r := by
  have split : r.render.toList.splitOn ',' = r.options := by
    rw [toList_render]
    exact List.splitOn_intercalate ',' (comma_not_mem_options h.toIsTidy)
      (List.append_ne_nil_of_left_ne_nil (List.cons_ne_nil _ _) _)
  rw [parse_eq_ok_iff, split]
  exact ⟨r.settings, mapM_options h.toIsTidy _, foldl_settings r, h.path_ne_empty, h.field_ne_empty⟩

/-- The references that are read back from their canonical form are those that some text parses
to, and those that are readable. So printing what has been parsed loses nothing. -/
theorem parse_render_iff (r : Reference) :
    (parse r.render = .ok r ↔ ∃ raw, parse raw = .ok r) ∧
      ((∃ raw, parse raw = .ok r) ↔ r.IsReadable) ∧
      ∀ raw, parse raw = .ok r → parse r.render = .ok r := by
  have back (h : ∃ raw, parse raw = .ok r) : r.IsReadable := by
    obtain ⟨raw, hr⟩ := h
    exact isReadable_of_parse hr
  refine ⟨⟨fun h => ⟨r.render, h⟩, fun h => parse_of_isReadable (back h)⟩,
    ⟨back, fun h => ⟨r.render, parse_of_isReadable h⟩⟩, fun raw h => ?_⟩
  exact parse_of_isReadable (back ⟨raw, h⟩)

end Reference

end SecretTemplate
