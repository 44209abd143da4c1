import Mathlib.Data.String.Basic
import SecretTemplate.FileTree.Targets

/-!
# The order of paths

Paths are compared component by component, as `a/b` comes before `a.b` although a slash comes after
a point. Empty components do not count, nor do points other than one at the start. The path of an
entry has one component more than the path of its directory, so what lies below one entry comes
before what lies below a later one.

Results:
1. `Precedes.irrefl`, `Precedes.ne`: no path comes before itself.
2. `exists_pieces_below`: the path of what names lead to shows the names behind the directory.
3. `components_below`: so it has the names at its end.
4. `precedes_of_lt`: what lies below an entry comes before what lies below a later one.
-/

namespace SecretTemplate

/-- What a path consists of. -/
inductive PathComponent where
  /-- The start at the top of the machine. -/
  | root
  /-- The directory that one is in, at the start of a path. -/
  | here
  /-- The directory above. -/
  | parent
  /-- An entry of a directory. -/
  | name (text : String)
  deriving DecidableEq, Repr

namespace PathComponent

/-- The place of a kind of component among the kinds. -/
def rank : PathComponent → Nat
  | root => 0
  | here => 1
  | parent => 2
  | name _ => 3

/-- The order of components: by kind, and names among each other as texts. -/
def Precedes : PathComponent → PathComponent → Prop
  | name a, name b => a < b
  | a, b => a.rank < b.rank

theorem Precedes.irrefl (a : PathComponent) : ¬a.Precedes a := by
  cases a with
  | name text => exact String.lt_irrefl text
  | _ => exact Nat.lt_irrefl _

/-- What a piece between slashes says behind the start of a path. -/
def ofPiece? (piece : String) : Option PathComponent :=
  if piece = "" ∨ piece = "." then none
  else if piece = ".." then some parent
  else some (name piece)

end PathComponent

/-- Whether a directory can have an entry of that name. -/
structure IsEntryName (name : String) : Prop where
  ne_empty : name ≠ ""
  ne_here : name ≠ "."
  ne_parent : name ≠ ".."
  slash_not_mem : '/' ∉ name.toList
  size_le : name.utf8ByteSize ≤ FileTree.maxName

instance : DecidablePred IsEntryName := fun name =>
  decidable_of_iff
    (name ≠ "" ∧ name ≠ "." ∧ name ≠ ".." ∧ '/' ∉ name.toList ∧
      name.utf8ByteSize ≤ FileTree.maxName)
    ⟨fun ⟨a, b, c, d, e⟩ => ⟨a, b, c, d, e⟩, fun ⟨a, b, c, d, e⟩ => ⟨a, b, c, d, e⟩⟩

namespace FileTree

open PathComponent

/-- Where a path starts, if it says so. -/
def start : List Char → List PathComponent
  | '/' :: _ => [root]
  | ['.'] => [here]
  | '.' :: '/' :: _ => [here]
  | _ => []

/-- What a path consists of. -/
def components (path : String) : List PathComponent :=
  start path.toList ++ (pieces path).filterMap ofPiece?

/-- The order of paths: by the first component in which they differ, and a path before those that go
on behind it. -/
def Precedes (p q : String) : Prop :=
  List.Lex PathComponent.Precedes (components p) (components q)

/-- The path of what names lead to from the directory at a path. -/
def below (dir : String) (names : List String) : String :=
  names.foldl join dir

theorem Precedes.irrefl (p : String) : ¬Precedes p p := by
  unfold Precedes
  generalize components p = parts
  induction parts with
  | nil => rintro ⟨⟩
  | cons part parts ih =>
    intro h
    cases h with
    | rel before => exact PathComponent.Precedes.irrefl part before
    | cons later => exact ih later

theorem Precedes.ne {p q : String} (h : Precedes p q) : p ≠ q := by
  rintro rfl
  exact Precedes.irrefl p h

example : Precedes "d/a/b" "d/a.b" := .cons (.rel (by decide : "a" < "a.b"))

theorem pieces_ne_nil (path : String) : pieces path ≠ [] := by
  unfold pieces
  simp [List.splitOn_ne_nil]

theorem eq_empty_of_pieces {path : String} (h : pieces path = [""]) : path = "" := by
  have whole : path.toList.splitOn '/' = [[]] := by
    obtain ⟨piece, only, empty⟩ := List.map_eq_singleton_iff.1 h
    rw [only, String.ofList_eq_empty_iff.1 empty]
  have joined : ['/'].intercalate (path.toList.splitOn '/') = path.toList :=
    List.intercalate_splitOn '/'
  rw [whole] at joined
  exact String.toList_eq_nil_iff.1 joined.symm

/-! ## Paths of entries -/

variable {dir name : String} {names : List String}

theorem ofPiece?_of_isEntryName (h : IsEntryName name) :
    ofPiece? name = some (.name name) := by
  rw [ofPiece?, if_neg (not_or.2 ⟨h.ne_empty, h.ne_here⟩), if_neg h.ne_parent]

/-- What a path starts with shows in front of its first slash. -/
theorem start_append_slash (front back : List Char) :
    start (front ++ '/' :: back) = start (front ++ ['/']) := by
  unfold start
  rcases front with _ | ⟨c, _ | ⟨c', front⟩⟩ <;> grind

theorem start_append_of_ne_nil {front : List Char} (h : front ≠ []) :
    start (front ++ ['/']) = start front := by
  unfold start
  rcases front with _ | ⟨c, _ | ⟨c', front⟩⟩ <;> grind

/-- The path of an entry shows its name behind a slash, which may end the path of the directory. -/
theorem exists_toList_join (dir name : String) :
    ∃ front, (join dir name).toList = front ++ '/' :: name.toList ∧
      (dir.toList = front ∨ dir.toList = front ++ ['/']) := by
  unfold join
  split
  · next slash =>
    obtain ⟨front, hfront⟩ := List.getLast?_eq_some_iff.1 slash
    exact ⟨front, by simp [hfront], .inr hfront⟩
  · exact ⟨dir.toList, by simp, .inl rfl⟩

theorem join_ne_empty (dir name : String) : join dir name ≠ "" := by
  obtain ⟨front, path, -⟩ := exists_toList_join dir name
  intro none
  rw [none] at path
  exact List.append_ne_nil_of_right_ne_nil front (List.cons_ne_nil _ _) path.symm

theorem start_join (there : dir ≠ "") (name : String) :
    start (join dir name).toList = start dir.toList := by
  obtain ⟨front, path, hdir | hdir⟩ := exists_toList_join dir name
  · have ne : front ≠ [] := fun none => there (String.toList_eq_nil_iff.1 (hdir.trans none))
    rw [path, hdir, start_append_slash, start_append_of_ne_nil ne]
  · rw [path, hdir, start_append_slash]

/-- The pieces of the path of an entry are those of the directory and the name. A slash at the end
of the path of the directory has an empty piece behind it, which the name replaces. -/
theorem exists_pieces_join (dir : String) (h : IsEntryName name) :
    ∃ front, pieces (join dir name) = front ++ [name] ∧
      (pieces dir = front ∨ pieces dir = front ++ [""]) := by
  obtain ⟨front, path, ends⟩ := exists_toList_join dir name
  have apart (back : List Char) :
      (front ++ '/' :: back).splitOn '/' = front.splitOn '/' ++ back.splitOn '/' :=
    List.splitOnP_append_cons _ _ (by simp)
  have alone : name.toList.splitOn '/' = [name.toList] := List.splitOn_eq_singleton h.slash_not_mem
  refine ⟨(front.splitOn '/').map String.ofList, ?_, ends.imp (fun hdir => ?_) fun hdir => ?_⟩
  · rw [pieces, path, apart, alone, List.map_append, List.map_singleton, String.ofList_toList]
  · rw [pieces, hdir]
  · rw [pieces, hdir, apart, List.map_append]
    rfl

/-- Behind a path that does not end in a slash the pieces are added. -/
theorem pieces_below (last : (pieces dir).getLast? ≠ some "")
    (h : ∀ name ∈ names, IsEntryName name) :
    pieces (below dir names) = pieces dir ++ names := by
  induction names generalizing dir with
  | nil => exact (List.append_nil _).symm
  | cons name names ih =>
    rw [List.forall_mem_cons] at h
    obtain ⟨front, path, same | more⟩ := exists_pieces_join dir h.1
    · have last : (pieces (join dir name)).getLast? ≠ some "" := by
        simpa [path] using h.1.ne_empty
      have behind := ih last h.2
      rw [path, ← same, List.append_assoc] at behind
      exact behind
    · exact absurd (by rw [more, List.getLast?_concat]) last

/-- The pieces of the path of what names lead to are those of the directory and the names. -/
theorem exists_pieces_below (dir : String) (ne : names ≠ [])
    (h : ∀ name ∈ names, IsEntryName name) :
    ∃ front, pieces (below dir names) = front ++ names ∧
      (pieces dir = front ∨ pieces dir = front ++ [""]) := by
  obtain ⟨name, names, rfl⟩ := List.exists_cons_of_ne_nil ne
  rw [List.forall_mem_cons] at h
  obtain ⟨front, first, ends⟩ := exists_pieces_join dir h.1
  have last : (pieces (join dir name)).getLast? ≠ some "" := by simpa [first] using h.1.ne_empty
  have rest := pieces_below last h.2
  rw [first, List.append_assoc] at rest
  exact ⟨front, rest, ends⟩

/-- The path of an entry has the component of the entry at its end. -/
theorem components_join (there : dir ≠ "") (h : IsEntryName name) :
    components (join dir name) = components dir ++ [.name name] := by
  obtain ⟨front, path, ends⟩ := exists_pieces_join dir h
  have same : (pieces dir).filterMap ofPiece? = front.filterMap ofPiece? := by
    rcases ends with hdir | hdir
    · rw [hdir]
    · rw [hdir, List.filterMap_append]
      exact List.append_nil _
  rw [components, components, start_join there, path, same, List.filterMap_append,
    List.filterMap_cons_some (ofPiece?_of_isEntryName h), List.filterMap_nil, List.append_assoc]

/-- The path of what names lead to has the names at its end. -/
theorem components_below (there : dir ≠ "") (h : ∀ name ∈ names, IsEntryName name) :
    components (below dir names) = components dir ++ names.map .name := by
  induction names generalizing dir with
  | nil => exact (List.append_nil _).symm
  | cons name names ih =>
    rw [List.forall_mem_cons] at h
    have behind := ih (join_ne_empty dir name) h.2
    rw [components_join there h.1, List.append_assoc] at behind
    exact behind

/-- What lies below an entry comes before what lies below a later one. -/
theorem precedes_of_lt {a b : String} {as bs : List String} (there : dir ≠ "") (lt : a < b)
    (ha : ∀ name ∈ a :: as, IsEntryName name) (hb : ∀ name ∈ b :: bs, IsEntryName name) :
    Precedes (below dir (a :: as)) (below dir (b :: bs)) := by
  rw [Precedes, components_below there ha, components_below there hb]
  have first : PathComponent.Precedes (.name a) (.name b) := lt
  exact List.Lex.append_left _ (.rel first) _

end FileTree

end SecretTemplate
