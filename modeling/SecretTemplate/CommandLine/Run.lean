import SecretTemplate.CommandLine.Arguments
import SecretTemplate.CommandLine.Usage
import SecretTemplate.FileTree.Patch
import SecretTemplate.Vault.Client
import SecretTemplate.Vault.Environment

/-!
# Runs

A run of the program. It patches the files that the command line names, or its input if the command
line names none, with the secrets of the server that the environment names. Everything that can be
refused beforehand is refused before a file is looked at and before the server is asked. A run that
fails says why. What it has put out and written by then stays.

Results:
1. `work_without_files`: without files the input is patched, and no file changes.
2. `run_of_prepare_error`: a run that is not ready to start asks nothing and changes nothing.
-/

namespace SecretTemplate

open Text

inductive RunError where
  /-- The delimiter or the environment is refused. -/
  | refused (cause : Error)
  /-- The settings make no client. -/
  | noClient (cause : Error)
  /-- The input is no text. -/
  | input (cause : Utf8.Fault)
  /-- The input cannot be patched. -/
  | patch (cause : Error)
  /-- A file is at fault. -/
  | file (cause : FileError)
  deriving DecidableEq, Repr

/-- The wording of a failure, with the causes behind it. -/
def RunError.message : RunError → String
  | refused cause => cause.chain
  | noClient cause => "failed to create Vault client: " ++ cause.chain
  | input cause => "failed to read stdin: " ++ cause.message
  | patch cause => cause.chain
  | file cause => cause.message

structure Outcome where
  exitCode : Nat := 0
  /-- What was put out. -/
  output : String := ""
  /-- What is said about a failure. -/
  complaint : String := ""
  /-- The files as they are then. -/
  tree : FileTree

namespace CommandLine

def prepare (a : Arguments) (env : Environment) : Except RunError (Delimiter × Client) := do
  let d ← (a.delimiter.elim (.ok .standard) Delimiter.ofString).mapError .refused
  let settings ← env.settings.mapError .refused
  let settings := { settings with allowInsecureHttp := a.allowInsecureHttp }
  return (d, ← (Client.build settings).mapError .noClient)

def patchInput (d : Delimiter) (input : List UInt8) : Reading (Except RunError String) :=
  match Utf8.decodeString input with
  | .error cause => .done (.error (.input cause))
  | .ok text => do return (← (d.patch text).run).mapError .patch

/-- The work of a run: how far it gets, and why it ends there if it fails. -/
def work (a : Arguments) (d : Delimiter) (input : List UInt8) (tree : FileTree) :
    Reading (Progress × Option RunError) :=
  if a.files = [] then do
    match ← patchInput d input with
    | .error cause => return ({ tree }, some cause)
    | .ok text => return ({ tree, output := text }, none)
  else
    match tree.collect a.recursive a.files with
    | .error cause => .done ({ tree }, some (.file cause))
    | .ok paths => do
      let (p, failure) ← Progress.patchAll d a.inPlace { tree } paths
      return (p, failure.map .file)

/-- How a run ends that got that far. -/
def conclude (p : Progress) : Option RunError → Outcome
  | none => { output := p.output, tree := p.tree }
  | some cause =>
    { exitCode := 1, output := p.output, complaint := "error: " ++ cause.message ++ "\n",
      tree := p.tree }

def run (a : Arguments) (env : Environment) (input : List UInt8) (tree : FileTree) :
    Http.Conversation Outcome :=
  match prepare a env with
  | .error cause => .done (conclude { tree } (some cause))
  | .ok (d, c) => do
    let (p, failure) ← (work a d input tree).through c.read
    return conclude p failure

def runWords (words : List String) (env : Environment) (input : List UInt8) (tree : FileTree) :
    Http.Conversation Outcome :=
  match Arguments.ofWords words with
  | .error .displayHelp => .done { output := usage, tree }
  | .error .displayVersion => .done { output := version, tree }
  | .error fault => .done { exitCode := 2, complaint := complaint fault, tree }
  | .ok a => run a env input tree

/-- Without files the input is patched, and no file changes. -/
theorem work_without_files {a : Arguments} (none : a.files = []) (d : Delimiter)
    (input : List UInt8) (tree : FileTree) (reader : Reader) :
    ((work a d input tree).result reader).1.tree = tree := by
  simp only [work, none, if_true, Dialogue.result, Bind.bind, Pure.pure]
  generalize patchInput d input = r
  induction r with
  | done e => cases e <;> rfl
  | ask q next ih => simpa [Dialogue.bind, Dialogue.run] using ih (reader q)

/-- A run that is not ready to start asks nothing and changes nothing. -/
theorem run_of_prepare_error {a : Arguments} {env : Environment} {cause : RunError}
    (h : prepare a env = .error cause) (input : List UInt8) (tree : FileTree) :
    run a env input tree = .done (conclude { tree } (some cause)) := by
  simp [run, h]

end CommandLine

end SecretTemplate
