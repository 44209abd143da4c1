import SecretTemplate.FileTree.Targets
import SecretTemplate.Template.Patch

/-!
# Patching files

A file is patched by patching its text. The outcome is either written in place of the text or put
out. A run patches its targets in order and ends at the first that fails. What was done before that
stays done.
-/

namespace SecretTemplate

open Text

structure Progress where
  tree : FileTree
  /-- What has been put out. -/
  output : String := ""

abbrev Reading (α : Type) := Dialogue Read (fun _ => Answer) α

namespace FileTree

def readText (t : FileTree) (path : String) : Except FileError String :=
  match t.read path with
  | .error cause => .error (.read path cause)
  | .ok bytes =>
    match Utf8.decodeString bytes with
    | .error cause => .error (.notText path cause)
    | .ok text => .ok text

end FileTree

namespace Progress

/-- The progress once the file at a path has been patched to a text. -/
def deliver (p : Progress) (inPlace : Bool) (path text : String) : Progress :=
  if inPlace then { p with tree := p.tree.write path (Utf8.encodeString text) }
  else { p with output := p.output ++ text }

def patchFile (d : Delimiter) (inPlace : Bool) (p : Progress) (path : String) :
    Reading (Except FileError Progress) :=
  match p.tree.readText path with
  | .error cause => .done (.error cause)
  | .ok input => do
    match ← (d.patch input).run with
    | .error cause => return .error (.patch path cause)
    | .ok text => return .ok (p.deliver inPlace path text)

/-- Patches files in order up to the first that fails: the progress by then, and the failure. -/
def patchAll (d : Delimiter) (inPlace : Bool) (p : Progress) :
    List String → Reading (Progress × Option FileError)
  | [] => .done (p, none)
  | path :: paths => do
    match ← p.patchFile d inPlace path with
    | .error cause => return (p, some cause)
    | .ok p => p.patchAll d inPlace paths

end Progress

end SecretTemplate
