import SecretTemplate.FileTree.Fault

/-!
# File trees

A root directory with everything in it: files, directories and symbolic links, seen from a working
directory. A path is followed name by name, from the root if it starts with a slash and else from
the working directory. A link leads on to what its target names, from the root or from the directory
that holds the link, and a path may lead through a limited number of links. Above the root there is
the root again.

Not everything in a tree can be used. A directory may be barred to those who look for a name in it,
and a file or a directory to those who read it. Writing is never barred.

Results:
1. `lookup_replaceIn`: replacing below an entry changes that entry.
2. `at?_replace`: the content that replaces that of a file is found in its place.
-/

namespace SecretTemplate

/-- What a name in a directory stands for. -/
inductive Node where
  /-- A file with its bytes. -/
  | file (content : List UInt8)
  /-- A symbolic link. -/
  | link (target : String)
  /-- A directory with its entries; no two have the same name. -/
  | dir (entries : List (String × Node))
  deriving Inhabited

namespace Node

def entries? : Node → Option (List (String × Node))
  | dir entries => some entries
  | _ => none

/-- The node that names lead to, without following links. -/
def at? : Node → List String → Option Node
  | n, [] => some n
  | n, name :: names => (n.entries?.bind (·.lookup name)).bind (at? · names)

mutual

/-- The node with another content in the file that names lead to. -/
def replace (content : List UInt8) : Node → List String → Node
  | file _, [] => file content
  | dir entries, name :: names => dir (replaceIn content name names entries)
  | n, _ => n

def replaceIn (content : List UInt8) (name : String) (names : List String) :
    List (String × Node) → List (String × Node)
  | [] => []
  | (k, n) :: rest =>
    if k = name then (k, n.replace content names) :: rest
    else (k, n) :: replaceIn content name names rest

end

end Node

/-- What can be barred. -/
inductive Access where
  /-- To look for a name in a directory. -/
  | search
  /-- To read a file, or to list a directory. -/
  | read
  deriving DecidableEq, Repr

/-- A root directory with everything in it, seen from a working directory. -/
structure FileTree where
  top : Node
  /-- The place of the working directory: the names that lead to it from the root. -/
  cwd : List String := []
  /-- What cannot be done, where, and what is said about it. -/
  barred : List ((Access × List String) × FileFault) := []

inductive Step where
  | stop (cause : FileFault)
  | place (names : List String)
  | link (target : String)
  deriving DecidableEq, Repr

namespace FileTree

def maxLinks : Nat := 40

/-- How many bytes a name may have. -/
def maxName : Nat := 255

/-- How many bytes a path may have. -/
def maxPath : Nat := 4095

/-- The pieces of a path between its slashes. -/
def pieces (path : String) : List String :=
  (path.toList.splitOn '/').map String.ofList

/-- The names along a path, if it can be followed at all. -/
def names (path : String) : Except FileFault (List String) :=
  if '\x00' ∈ path.toList then .error .nulCharacter
  else if maxPath < path.utf8ByteSize then .error .tooLong
  else if path = "" then .error .notFound
  else .ok (pieces path)

/-- Where names are followed from when they are met in the directory at `here`: the names of a path
that starts with a slash start with an empty one. -/
def origin (here : List String) : List String → List String
  | "" :: _ => []
  | _ => here

def bar? (t : FileTree) (access : Access) (place : List String) : Option FileFault :=
  t.barred.lookup (access, place)

/-- What a name leads to from the directory at `here`. -/
def step (t : FileTree) (here : List String) (name : String) : Step :=
  match (t.top.at? here).bind Node.entries? with
  | none => .stop .notDirectory
  | some entries =>
    -- A slash at an end of a path or next to another leaves an empty name, which nobody looks for.
    if name = "" then .place here
    else
      match t.bar? .search here with
      | some cause => .stop cause
      | none =>
        if name = "." then .place here
        else if name = ".." then .place here.dropLast
        else if maxName < name.utf8ByteSize then .stop .tooLong
        else
          match entries.lookup name with
          | none => .stop .notFound
          | some (.link target) => .link target
          | some _ => .place (here ++ [name])

/-- Follows names from the directory at `here`. A link is handed to `onLink`, with the directory
that holds it, its target and the names behind it. -/
def walk (t : FileTree)
    (onLink : List String → String → List String → Except FileFault (List String))
    (here : List String) : List String → Except FileFault (List String)
  | [] => .ok here
  | name :: rest =>
    match t.step here name with
    | .stop cause => .error cause
    | .place there => t.walk onLink there rest
    | .link target => onLink here target rest

/-- Where names lead from the directory at `here`, through at most `budget` links. -/
def resolveFrom (t : FileTree) : (budget : Nat) → (here rest : List String) →
    Except FileFault (List String)
  | 0 => t.walk fun _ _ _ => .error .tooManyLinks
  | budget + 1 => t.walk fun dir target rest => do
      let ahead ← names target
      t.resolveFrom budget (origin dir ahead) (ahead ++ rest)

def resolve (t : FileTree) (path : String) : Except FileFault (List String) := do
  let parts ← names path
  t.resolveFrom maxLinks (origin t.cwd parts) parts

def node (t : FileTree) (path : String) : Except FileFault Node := do
  match t.top.at? (← t.resolve path) with
  | some n => return n
  | none => throw .notFound

def read (t : FileTree) (path : String) : Except FileFault (List UInt8) := do
  let place ← t.resolve path
  match t.top.at? place, t.bar? .read place with
  | none, _ => throw .notFound
  | some _, some cause => throw cause
  | some (.file content), none => return content
  | some _, none => throw .isDirectory

def write (t : FileTree) (path : String) (content : List UInt8) : FileTree :=
  match t.resolve path with
  | .ok place => { t with top := t.top.replace content place }
  | .error _ => t

end FileTree

namespace Node

/-- Replacing below an entry changes that entry. -/
theorem lookup_replaceIn (content : List UInt8) (name : String) (names : List String)
    (entries : List (String × Node)) :
    (replaceIn content name names entries).lookup name =
      (entries.lookup name).map (·.replace content names) := by
  induction entries with
  | nil => rfl
  | cons e rest ih =>
    obtain ⟨k, n⟩ := e
    by_cases hk : k = name
    · simp [replaceIn, hk]
    · have hb : (name == k) = false := by simpa using Ne.symm hk
      simp [replaceIn, hk, List.lookup_cons, hb, ih]

/-- The content that replaces that of a file is found in its place. -/
theorem at?_replace (content : List UInt8) {n : Node} {names : List String} {old : List UInt8}
    (h : n.at? names = some (file old)) :
    (n.replace content names).at? names = some (file content) := by
  induction names generalizing n with
  | nil =>
    simp only [at?, Option.some.injEq] at h
    subst h
    rfl
  | cons name names ih =>
    cases n with
    | dir entries =>
      simp only [at?, entries?, Option.bind_some, replace] at h ⊢
      obtain ⟨m, hm, hn⟩ := Option.bind_eq_some_iff.1 h
      rw [lookup_replaceIn, hm]
      exact ih hn
    | _ => simp [at?, entries?] at h

end Node

end SecretTemplate
