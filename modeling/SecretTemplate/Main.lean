import SecretTemplate.CommandLine.Run
import SecretTemplate.FileTree.Layout

/-!
# The program

The program on a machine. It copies the part of the file system that its command line names, holds
the run on the copy, and does what came of it: files that the run has changed are written, and its
words are put out. It reaches no server: every request is lost.

A link is copied with its end for a target, since a machine does not say more about it. A link that
leads nowhere is left out, which comes to the same.
-/

namespace SecretTemplate.Machine

/-! ## Reading -/

/-- Calls differ in whether they count their errors up or down. -/
def faultOf : IO.Error → FileFault
  | .noFileOrDirectory .. => .notFound
  | .permissionDenied .. => .denied
  | .inappropriateType _ code _ => if code ∈ [21, 0 - 21] then .isDirectory else .notDirectory
  | .invalidArgument _ code _ => if code ∈ [36, 0 - 36] then .tooLong else .tooManyLinks
  | _ => .inputOutput

def readBytes (path : String) : IO (Except FileFault (List UInt8)) := do
  match ← (IO.FS.readBinFile path).toBaseIO with
  | .ok content => return .ok content.toList
  | .error cause => return .error (faultOf cause)

/-- All bytes that a stream still holds. -/
partial def readRest (stream : IO.FS.Stream) (sofar : ByteArray) : IO (List UInt8) := do
  let chunk ← stream.read 65536
  if chunk.isEmpty then return sofar.toList
  readRest stream (sofar ++ chunk)

/-- The variables and the token file. -/
def environment : IO Environment := do
  let mut bindings := []
  for name in ["VAULT_ADDR", "VAULT_TOKEN", "VAULT_NAMESPACE", "VAULT_CLIENT_TIMEOUT"] do
    if let some value ← IO.getEnv name then
      bindings := (name, Text.Utf8.encodeString value) :: bindings
  let home := (← IO.getEnv "HOME").getD "."
  return { bindings, tokenFile := ← readBytes (home ++ "/.vault-token") }

/-! ## Copying files -/

abbrev Copying := StateT FileTree IO

def entry (dir name : String) : IO.FS.DirEntry := ⟨dir, name⟩

/-- The place of a path from the root that goes through no link. -/
def placeOf (path : String) : List String := (FileTree.pieces path).filter (· ≠ "")

def parent (path : String) : String :=
  "/" ++ String.intercalate "/" (placeOf path).dropLast

def lay (path : String) (n : Node) : Copying Unit :=
  modify fun tree => tree.lay path n

def bar (access : Access) (path : String) (cause : FileFault) : Copying Unit :=
  modify fun tree => { tree with barred := ((access, placeOf path), cause) :: tree.barred }

/-- Copies a file, or a directory without its entries. -/
def copyNode (path : String) : Copying Unit := do
  if ← (entry path "").path.isDir then lay path (.dir [])
  else
    match ← readBytes path with
    | .ok content => lay path (.file content)
    | .error cause =>
      lay path (.file [])
      bar .read path cause

/-- Copies what a name in a directory stands for, and what it leads to if it is a link. Says where
it leads. -/
def copyEntry (dir name : String) : Copying (Option String) := do
  let path := FileTree.join dir name
  match ← (entry dir name).path.symlinkMetadata.toBaseIO with
  | .error cause =>
    if faultOf cause = .denied then
      -- What the name stands for does not matter, since nobody gets to it.
      lay path (.file [])
      bar .search dir .denied
    return none
  | .ok data =>
    match data.type with
    | .file | .dir =>
      copyNode path
      return path
    | .symlink =>
      match ← (IO.FS.realPath path).toBaseIO, ← (entry dir name).path.metadata.toBaseIO with
      | .ok place, _ =>
        lay path (.link place.toString)
        copyNode place.toString
        return place.toString
      | .error _, .error (.invalidArgument ..) =>
        -- It leads in a circle, as does a link to itself.
        lay path (.link name)
        return none
      | .error _, _ => return none
    | .other => return none

/-- Copies what names lead through from the directory at a path, and says where they lead. -/
def copyAlong (dir : String) : List String → Copying (Option String)
  | [] => return dir
  | name :: rest => do
    if name = "" ∨ name = "." then copyAlong dir rest
    else if name = ".." then copyAlong (parent dir) rest
    else
      match ← copyEntry dir name with
      | none => return none
      | some there => copyAlong there rest

/-- Copies the entries of a directory, and on request what is below them. -/
partial def copyBelow (recursive : Bool) (dir : String) : Copying Unit := do
  match ← (entry dir "").path.readDir.toBaseIO with
  | .error cause => bar .read dir (faultOf cause)
  | .ok found =>
    for e in found do
      if let some there ← copyEntry dir e.fileName then
        -- A link has led elsewhere, and no directory is entered through it.
        let direct := there = FileTree.join dir e.fileName
        if recursive && direct && (← (entry there "").path.isDir) then copyBelow recursive there

/-- The part of the file system that a command line names. -/
def load (a : Arguments) : IO FileTree := do
  let cwd := (← IO.currentDir).toString
  let copy : Copying Unit := do
    lay cwd (.dir [])
    for path in a.files do
      let start := if path.toList.head? = some '/' then "/" else cwd
      if let some there ← copyAlong start (FileTree.pieces path) then
        if ← (entry there "").path.isDir then copyBelow a.recursive there
  return (← copy.run { top := .dir [], cwd := placeOf cwd }).2

/-- Writes the files at paths that a run has changed. -/
def store (paths : List String) (before after : FileTree) : IO Unit :=
  paths.forM fun path => do
    match before.read path, after.read path with
    | .ok old, .ok new =>
      if old ≠ new then IO.FS.writeBinFile path ⟨new.toArray⟩
    | _, _ => pure ()

/-! ## Running -/

/-- What the machine answers to a run. -/
def answer : (q : Http.Wire) → IO q.Answer
  | .freshId => do
    let number ← IO.rand 0 Text.maxWord
    return (s!"{Release.program}-{number}" : String)
  | .send _ => return Http.Exchange.lost

end SecretTemplate.Machine

open SecretTemplate SecretTemplate.Machine in
/-- Runs the program. -/
def main (words : List String) : IO UInt32 := do
  let a := (Arguments.ofWords words).toOption
  let piped := a.any fun a => a.files = []
  let stdin ← IO.getStdin
  if piped && (← stdin.isTty) then
    IO.print CommandLine.usage
    return 0
  let input ← if piped then readRest stdin .empty else pure []
  let a := a.getD {}
  let tree ← load a
  let outcome ← (CommandLine.runWords words (← environment) input tree).runM answer
  store ((tree.collect a.recursive a.files).toOption.getD []) tree outcome.tree
  IO.print outcome.output
  IO.eprint outcome.complaint
  return UInt32.ofNat outcome.exitCode
