import SecretTemplate.FileTree.Basic

/-!
# Writing a file

A write gives the file that a path leads to another content. Nothing else in the tree changes: every
other place shows what it has shown before, and every path leads where it has led before, since
where a path leads does not depend on the contents of files.

Results:
1. `sight_at?_replace_of_ne`: a node whose content is replaced is seen in its place only.
2. `resolve_congr`: where a path leads does not depend on the contents of files.
3. `rewrites_write`: a write changes the file that the path leads to, and nothing else.
4. `Rewrites.read`, `Rewrites.read_of_ne`: what is read after a write.
-/

namespace SecretTemplate

/-- What a node shows by itself. -/
inductive Sight where
  /-- The content of a file. -/
  | file (content : List UInt8)
  /-- The target of a link. -/
  | link (target : String)
  /-- The names in a directory. -/
  | dir (names : List String)
  deriving DecidableEq, Repr

namespace Sight

/-- What is left of it without the content of a file. -/
def outline : Sight → Sight
  | file _ => file []
  | s => s

end Sight

namespace Node

def sight : Node → Sight
  | file content => .file content
  | link target => .link target
  | dir entries => .dir (entries.map Prod.fst)

theorem map_fst_replaceIn (content : List UInt8) (name : String) (names : List String)
    (entries : List (String × Node)) :
    (replaceIn content name names entries).map Prod.fst = entries.map Prod.fst := by
  induction entries with
  | nil => rfl
  | cons e rest ih =>
    obtain ⟨k, n⟩ := e
    unfold replaceIn
    split
    · rfl
    · exact congrArg (k :: ·) ih

/-- Replacing below an entry changes no entry of another name. -/
theorem lookup_replaceIn_of_ne (content : List UInt8) {name other : String} (h : other ≠ name)
    (names : List String) (entries : List (String × Node)) :
    (replaceIn content name names entries).lookup other = entries.lookup other := by
  induction entries with
  | nil => rfl
  | cons e rest ih =>
    obtain ⟨k, n⟩ := e
    unfold replaceIn
    split
    · next hk =>
      have hb : (other == k) = false := beq_false_of_ne (hk ▸ h)
      rw [List.lookup_cons, List.lookup_cons, hb]
    · rw [List.lookup_cons, List.lookup_cons, ih]

theorem at?_append (n : Node) (front back : List String) :
    n.at? (front ++ back) = (n.at? front).bind (·.at? back) := by
  induction front generalizing n with
  | nil => rfl
  | cons name front ih =>
    rw [List.cons_append, at?, at?]
    cases n.entries?.bind (·.lookup name) with
    | none => rfl
    | some m => exact ih m

/-- A node whose content is replaced is seen in its place only. The induction is on the names that
lead to that place. -/
theorem sight_at?_replace_of_ne (content : List UInt8) (n : Node) {names other : List String}
    (h : other ≠ names) :
    ((n.replace content names).at? other).map sight = (n.at? other).map sight := by
  induction names generalizing n other with
  | nil =>
    obtain ⟨name, rest, rfl⟩ := List.exists_cons_of_ne_nil h
    cases n <;> rfl
  | cons name names ih =>
    cases n with
    | file | link => rfl
    | dir entries =>
      rw [replace]
      cases other with
      | nil =>
        rw [at?, at?, Option.map_some, Option.map_some, sight, sight, map_fst_replaceIn]
      | cons k rest =>
        simp only [at?, entries?, Option.bind_some]
        by_cases hk : k = name
        · subst hk
          have ne : rest ≠ names := fun e => h (congrArg (k :: ·) e)
          rw [lookup_replaceIn]
          cases entries.lookup k with
          | none => rfl
          | some m => exact ih m ne
        · rw [lookup_replaceIn_of_ne content hk]

end Node

namespace FileTree

variable {t u : FileTree} {place : List String} {path : String} {content : List UInt8}

/-- What a place in a tree shows by itself, without following links. -/
def sight? (t : FileTree) (place : List String) : Option Sight :=
  (t.top.at? place).map Node.sight

/-- The same without the contents of files. -/
def outline? (t : FileTree) (place : List String) : Option Sight :=
  (t.sight? place).map Sight.outline

/-- The trees differ in the contents of files only. -/
structure SameOutline (t u : FileTree) : Prop where
  cwd : t.cwd = u.cwd
  barred : t.barred = u.barred
  outline : ∀ place, t.outline? place = u.outline? place

/-- The second tree is the first with another content in the file at a place. -/
structure Rewrites (t : FileTree) (place : List String) (content : List UInt8) (u : FileTree) :
    Prop where
  before : ∃ old, t.sight? place = some (.file old)
  after : u.sight? place = some (.file content)
  elsewhere : ∀ other, other ≠ place → u.sight? other = t.sight? other
  cwd : u.cwd = t.cwd
  barred : u.barred = t.barred

/-! ## Where a path leads -/

/-- What a name leads to is decided by the outline of the tree, and by what is barred. -/
theorem step_eq (t : FileTree) (here : List String) (name : String) :
    t.step here name =
      match t.outline? here with
      | some (.dir _) =>
        if name = "" then .place here
        else
          match t.bar? .search here with
          | some cause => .stop cause
          | none =>
            if name = "." then .place here
            else if name = ".." then .place here.dropLast
            else if maxName < name.utf8ByteSize then .stop .tooLong
            else
              match t.outline? (here ++ [name]) with
              | none => .stop .notFound
              | some (.link target) => .link target
              | some _ => .place (here ++ [name])
      | _ => .stop .notDirectory := by
  rw [step, outline?, outline?, sight?, sight?, Node.at?_append]
  cases t.top.at? here with
  | none => rfl
  | some n =>
    cases n with
    | file | link => rfl
    | dir entries =>
      have inside : (Node.dir entries).at? [name] = entries.lookup name := by
        simp [Node.at?, Node.entries?]
      rw [Option.bind_some, Option.bind_some, Node.entries?, inside]
      dsimp only
      cases entries.lookup name with
      | none => rfl
      | some m => cases m <;> rfl

theorem step_congr (same : t.SameOutline u) (here : List String) (name : String) :
    t.step here name = u.step here name := by
  have bars : t.bar? .search here = u.bar? .search here := by rw [bar?, bar?, same.barred]
  rw [step_eq, step_eq, same.outline here, same.outline (here ++ [name]), bars]

theorem walk_congr (same : t.SameOutline u)
    (onLink : List String → String → List String → Except FileFault (List String))
    (here names : List String) : t.walk onLink here names = u.walk onLink here names := by
  induction names generalizing here with
  | nil => rfl
  | cons name rest ih =>
    rw [walk, walk, step_congr same]
    cases u.step here name with
    | stop | link => rfl
    | place there => exact ih there

/-- Where names lead through links does not depend on the contents of files. -/
theorem resolveFrom_congr (same : t.SameOutline u) (budget : Nat) :
    t.resolveFrom budget = u.resolveFrom budget := by
  induction budget with
  | zero =>
    funext here rest
    exact walk_congr same _ here rest
  | succ budget ih =>
    funext here rest
    rw [resolveFrom, resolveFrom, ih]
    exact walk_congr same _ here rest

theorem resolve_congr (same : t.SameOutline u) (path : String) :
    t.resolve path = u.resolve path := by
  rw [resolve, resolve, resolveFrom_congr same, same.cwd]

/-! ## What a write does -/

/-- What is read at a path is the content of the file that is seen where the path leads, if nobody
is barred from reading it. -/
theorem read_eq (t : FileTree) (path : String) :
    t.read path =
      match t.resolve path with
      | .error cause => .error cause
      | .ok place =>
        match t.sight? place, t.bar? .read place with
        | none, _ => .error .notFound
        | some _, some cause => .error cause
        | some (.file content), none => .ok content
        | some _, none => .error .isDirectory := by
  unfold read sight?
  cases t.resolve path with
  | error cause => rfl
  | ok place =>
    simp only [bind, Except.bind]
    cases t.top.at? place with
    | none => rfl
    | some n => cases t.bar? .read place <;> cases n <;> rfl

theorem read_eq_ok_iff :
    t.read path = .ok content ↔
      ∃ place, t.resolve path = .ok place ∧ t.sight? place = some (.file content) ∧
        t.bar? .read place = none := by
  rw [read_eq]
  cases t.resolve path with
  | error cause => simp
  | ok place =>
    cases hs : t.sight? place with
    | none => simp [hs]
    | some s => cases hb : t.bar? .read place <;> cases s <;> simp [hs, hb]

/-- A write changes the file that the path leads to, and nothing else. -/
theorem rewrites_write {old : List UInt8} (leads : t.resolve path = .ok place)
    (holds : t.sight? place = some (.file old)) (content : List UInt8) :
    t.Rewrites place content (t.write path content) := by
  have written : t.write path content = { t with top := t.top.replace content place } := by
    rw [write, leads]
  obtain ⟨n, hn, hsight⟩ := Option.map_eq_some_iff.1 holds
  cases n with
  | link | dir => cases hsight
  | file bytes =>
    rw [written]
    refine ⟨⟨old, holds⟩, ?_, fun other ne => ?_, rfl, rfl⟩
    · rw [sight?, Node.at?_replace content hn]
      rfl
    · exact Node.sight_at?_replace_of_ne content t.top ne

namespace Rewrites

variable (h : t.Rewrites place content u)

include h

theorem sameOutline : t.SameOutline u where
  cwd := h.cwd.symm
  barred := h.barred.symm
  outline other := by
    rw [outline?, outline?]
    by_cases at_place : other = place
    · obtain ⟨old, before⟩ := h.before
      rw [at_place, before, h.after]
      rfl
    · rw [h.elsewhere other at_place]

theorem resolve (path : String) : u.resolve path = t.resolve path :=
  (resolve_congr h.sameOutline path).symm

theorem bar? (access : Access) (other : List String) :
    u.bar? access other = t.bar? access other := by
  rw [FileTree.bar?, FileTree.bar?, h.barred]

/-- The new content is read at every path that leads to the place, if it can be read there. -/
theorem read (leads : t.resolve path = .ok place) (readable : t.bar? .read place = none) :
    u.read path = .ok content :=
  read_eq_ok_iff.2 ⟨place, (h.resolve path).trans leads, h.after,
    (h.bar? .read place).trans readable⟩

end Rewrites

end FileTree

end SecretTemplate
