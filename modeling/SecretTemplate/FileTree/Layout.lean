import SecretTemplate.FileTree.Basic

/-!
# Laying out a tree

A tree grows by laying nodes out at paths. The directories on the way to a node are made if they are
missing. A directory that is there already is kept, and a file that is there already gets the new
content, also if the path leads to it through links.

Results:
1. `lookup_assign_self`: what a name is assigned is found under it.
2. `lookup_assign_of_ne`: what other names stand for stays.
-/

namespace SecretTemplate

namespace Node

/-- The entries in which `name` stands for `n`. -/
def assign (name : String) (n : Node) : List (String × Node) → List (String × Node)
  | [] => [(name, n)]
  | (k, m) :: rest => if k = name then (k, n) :: rest else (k, m) :: assign name n rest

/-- The node with `n` at the end of names, and directories on the way there. -/
def put (m : Node) (names : List String) (n : Node) : Node :=
  match m, names with
  | dir entries, [name] => dir (assign name n entries)
  | dir entries, name :: next :: rest =>
    dir (assign name (((entries.lookup name).getD (dir [])).put (next :: rest) n) entries)
  | m, _ => m
termination_by structural names

/-- What a name is assigned is found under it. -/
theorem lookup_assign_self (name : String) (n : Node) (entries : List (String × Node)) :
    (assign name n entries).lookup name = some n := by
  induction entries with
  | nil => simp [assign]
  | cons e rest ih =>
    obtain ⟨k, m⟩ := e
    by_cases hk : k = name
    · simp [assign, hk]
    · have hb : (name == k) = false := by simpa using Ne.symm hk
      simp [assign, hk, List.lookup_cons, hb, ih]

/-- What other names stand for stays. -/
theorem lookup_assign_of_ne {name other : String} (h : other ≠ name) (n : Node)
    (entries : List (String × Node)) :
    (assign name n entries).lookup other = entries.lookup other := by
  have hb : (other == name) = false := by simpa using h
  induction entries with
  | nil => simp [assign, List.lookup_cons, hb]
  | cons e rest ih =>
    obtain ⟨k, m⟩ := e
    by_cases hk : k = name
    · subst hk
      simp [assign, List.lookup_cons, hb]
    · simp only [assign, hk, if_false, List.lookup_cons, ih]

end Node

namespace FileTree

/-- A tree without any file, and an empty working directory below the root. -/
def empty : FileTree := { top := .dir [("work", .dir [])], cwd := ["work"] }

def place (t : FileTree) (path : String) : List String :=
  match names path with
  | .error _ => []
  | .ok parts =>
    let start := origin t.cwd parts
    let parts := parts.filter fun name => name ≠ "" ∧ name ≠ "."
    match t.resolveFrom maxLinks start parts.dropLast with
    | .ok here => here ++ parts.getLast?.toList
    | .error _ => start ++ parts

def lay (t : FileTree) (path : String) (n : Node) : FileTree :=
  match n, t.node path with
  | .dir _, .ok (.dir _) => t
  | .file content, .ok (.file _) => t.write path content
  | _, _ => { t with top := t.top.put (t.place path) n }

end FileTree

end SecretTemplate
