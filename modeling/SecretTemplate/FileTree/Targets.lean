import SecretTemplate.Error
import SecretTemplate.FileTree.Basic

/-!
# Targets

The files that a list of paths stands for. A path that leads to a directory stands for the files in
it, and in the directories below it if that is asked for, in the order of their names. A link to a
file counts as a file, a link to a directory is passed over. Any other path stands for itself.

Results:
1. `collect_of_file`: a path that leads to a file stands for itself.
2. `collect_of_missing`: a path that leads nowhere is a fault.
-/

namespace SecretTemplate

inductive FileError where
  /-- A path leads nowhere. -/
  | stat (path : String) (cause : FileFault)
  /-- A directory cannot be listed. -/
  | readDir (path : String) (cause : FileFault)
  /-- A file cannot be read. -/
  | read (path : String) (cause : FileFault)
  /-- The bytes of a file are no text. -/
  | notText (path : String) (cause : Text.Utf8.Fault)
  /-- A template cannot be patched. -/
  | patch (path : String) (cause : Error)
  deriving DecidableEq, Repr

/-- The wording of an early end, with the causes behind it. -/
def FileError.message : FileError → String
  | stat path cause => s!"failed to stat {path}: {cause.message}"
  | readDir path cause => s!"failed to read directory {path}: {cause.message}"
  | read path cause => s!"failed to read {path}: {cause.message}"
  | notText path cause => s!"{path} is not valid UTF-8: {cause.message}"
  | patch path cause => s!"failed to patch {path}: {cause.chain}"

namespace FileTree

/-- The path of an entry of a directory. -/
def join (dir name : String) : String :=
  if dir.toList.getLast? = some '/' then dir ++ name else dir ++ "/" ++ name

/-- The paths of entries one after the other, in the order of the names of the entries, or the first
fault in that order. -/
def inOrder (found : List (String × Except FileError (List String))) :
    Except FileError (List String) := do
  return (← (found.mergeSort fun a b => a.1 ≤ b.1).mapM (·.2)).flatten

/-- Looks at an entry of the directory at `place` by its path, which may be too long although that
of the directory is not. -/
def stat (t : FileTree) (place : List String) (path : String) : Except FileError Unit :=
  match names path, t.bar? .search place with
  | .error cause, _ => .error (.stat path cause)
  | .ok _, some cause => .error (.stat path cause)
  | .ok _, none => .ok ()

/-- What is listed of the directory at `place`, if it can be read. -/
def listing (t : FileTree) (path : String) (place : List String)
    (found : List (String × Except FileError (List String))) : Except FileError (List String) :=
  match t.bar? .read place with
  | some cause => .error (.readDir path cause)
  | none => inOrder found

mutual

def entryTargets (t : FileTree) (recursive : Bool) (path : String) (place : List String) :
    Node → Except FileError (List String)
  | .file _ => .ok [path]
  | .link _ =>
    match t.node path with
    | .ok (.file _) => .ok [path]
    | _ => .ok []
  | .dir entries =>
    -- A directory that is not entered is not read either.
    if recursive then t.listing path place (dirTargets t recursive path place entries) else .ok []

def dirTargets (t : FileTree) (recursive : Bool) (dir : String) (place : List String) :
    List (String × Node) → List (String × Except FileError (List String))
  | [] => []
  | (name, n) :: rest =>
    (name, (t.stat place (join dir name)).bind fun _ =>
        entryTargets t recursive (join dir name) (place ++ [name]) n) ::
      dirTargets t recursive dir place rest

end

def targets (t : FileTree) (recursive : Bool) (path : String) : Except FileError (List String) :=
  match t.resolve path with
  | .error cause => .error (.stat path cause)
  | .ok place =>
    match t.top.at? place with
    | none => .error (.stat path .notFound)
    | some (.dir entries) => t.listing path place (dirTargets t recursive path place entries)
    | some _ => .ok [path]

/-- The targets that paths stand for, one after the other. -/
def collect (t : FileTree) (recursive : Bool) (paths : List String) :
    Except FileError (List String) := do
  return (← paths.mapM (t.targets recursive)).flatten

/-- A path that leads to a file stands for itself. -/
theorem collect_of_file {t : FileTree} {path : String} {place : List String}
    {content : List UInt8} (leads : t.resolve path = .ok place)
    (there : t.top.at? place = some (.file content)) (recursive : Bool) :
    t.collect recursive [path] = .ok [path] := by
  simp [collect, targets, leads, there, bind, Except.bind, pure, Except.pure]

/-- A path that leads nowhere is a fault. -/
theorem collect_of_missing {t : FileTree} {path : String} {cause : FileFault}
    (h : t.resolve path = .error cause) (recursive : Bool) (paths : List String) :
    t.collect recursive (path :: paths) = .error (.stat path cause) := by
  simp [collect, targets, h, bind, Except.bind]

end FileTree

end SecretTemplate
