/-!
# Arguments

What a command line asks for. Options are written short or long. Short ones may be joined behind one
hyphen, and the value of an option may be attached to it or be the next argument, unless that looks
like an option itself. Behind `--` every argument is a file. An option may be given once.

A value that is given as the next argument, and the files in a row, are only looked at when the next
option arrives or the line ends. So the first fault that counts is not always the first in the line.
-/

namespace SecretTemplate

/-- What a command line asks for. -/
structure Arguments where
  /-- What marks the ends of a token. -/
  delimiter : Option String := none
  /-- Whether files are changed in place. -/
  inPlace : Bool := false
  /-- Whether directories are searched to any depth. -/
  recursive : Bool := false
  /-- Whether plain HTTP to other machines is allowed. -/
  allowInsecureHttp : Bool := false
  /-- The files and directories. -/
  files : List String := []
  deriving DecidableEq, Repr

inductive ArgumentFault where
  /-- An option that is not known. -/
  | unknownArgument
  /-- A value that is missing or must not be empty. -/
  | invalidValue
  /-- An option that is given twice. -/
  | argumentConflict
  /-- A value for an option that has none. -/
  | tooManyValues
  /-- The line asks how to use the program. -/
  | displayHelp
  /-- The line asks for the version of the program. -/
  | displayVersion
  deriving DecidableEq, Repr

inductive Switch where
  | delimiter
  | inPlace
  | recursive
  | allowInsecureHttp
  | help
  | version
  deriving DecidableEq, Repr

namespace Switch

def ofLetter? : Char → Option Switch
  | 'd' => some delimiter
  | 'i' => some inPlace
  | 'r' => some recursive
  | 'h' => some help
  | 'V' => some version
  | _ => none

def ofWord? (s : String) : Option Switch :=
  match s with
  | "delimiter" | "delim" => some delimiter
  | "in-place" => some inPlace
  | "recursive" => some recursive
  | "allow-insecure-http" => some allowInsecureHttp
  | "help" => some help
  | "version" => some version
  | _ => none

end Switch

/-- What has been read but not yet looked at. -/
inductive Pending where
  | nothing
  /-- A delimiter, or the place for one. -/
  | delimiter (value : Option String)
  /-- Files in a row. -/
  | files (names : List String)

structure ArgumentReader where
  found : Arguments := {}
  pending : Pending := .nothing

namespace ArgumentReader

def settle (r : ArgumentReader) : Except ArgumentFault Arguments :=
  match r.pending with
  | .nothing => .ok r.found
  | .delimiter none => .error .invalidValue
  | .delimiter (some value) =>
    if r.found.delimiter.isSome then .error .argumentConflict
    else .ok { r.found with delimiter := some value }
  | .files names =>
    if "" ∈ names then .error .invalidValue
    else .ok { r.found with files := r.found.files ++ names }

/-- Takes in an option without a value, or with an attached one in the case of the delimiter. -/
def take (r : ArgumentReader) (s : Switch) (value : String) :
    Except ArgumentFault ArgumentReader := do
  let found ← r.settle
  match s with
  | .delimiter => return ⟨← settle ⟨found, .delimiter (some value)⟩, .nothing⟩
  | .inPlace =>
    if found.inPlace then throw .argumentConflict else return ⟨{ found with inPlace := true }, .nothing⟩
  | .recursive =>
    if found.recursive then throw .argumentConflict
    else return ⟨{ found with recursive := true }, .nothing⟩
  | .allowInsecureHttp =>
    if found.allowInsecureHttp then throw .argumentConflict
    else return ⟨{ found with allowInsecureHttp := true }, .nothing⟩
  | .help => throw .displayHelp
  | .version => throw .displayVersion

/-- Takes in the delimiter, whose value is the next argument. -/
def expectDelimiter (r : ArgumentReader) : Except ArgumentFault ArgumentReader := do
  return ⟨← r.settle, .delimiter none⟩

/-- Takes in an argument that is no option: the value that is expected, or a file. -/
def takeWord (r : ArgumentReader) (behindDashes : Bool) (word : String) :
    Except ArgumentFault ArgumentReader :=
  match r.pending with
  | .delimiter none =>
    if behindDashes then .error .invalidValue
    else .ok { r with pending := .delimiter (some word) }
  | .files names => .ok { r with pending := .files (names ++ [word]) }
  | _ => do return ⟨← r.settle, .files [word]⟩

/-- Takes in letters joined behind one hyphen. -/
def takeLetters (r : ArgumentReader) : List Char → Except ArgumentFault ArgumentReader
  | [] => .ok r
  | c :: rest =>
    match Switch.ofLetter? c with
    | none => .error .unknownArgument
    | some .delimiter =>
      match rest with
      | [] => r.expectDelimiter
      | '=' :: value => r.take .delimiter (String.ofList value)
      | value => r.take .delimiter (String.ofList value)
    | some s => do (← r.take s "").takeLetters rest

/-- Takes in a word behind two hyphens. -/
def takeLong (r : ArgumentReader) (text : List Char) : Except ArgumentFault ArgumentReader :=
  match Switch.ofWord? (String.ofList (text.takeWhile (· != '='))), text.dropWhile (· != '=') with
  | none, _ => .error .unknownArgument
  | some .delimiter, [] => r.expectDelimiter
  | some .delimiter, _ :: value => r.take .delimiter (String.ofList value)
  | some s, [] => r.take s ""
  | some _, _ :: _ => .error .tooManyValues

/-- Takes in the arguments, all of which are files if they stand behind two hyphens. -/
def takeAll (r : ArgumentReader) (behindDashes : Bool) :
    List String → Except ArgumentFault ArgumentReader
  | [] => .ok r
  | word :: words =>
    match behindDashes, word.toList with
    | false, ['-', '-'] => r.takeAll true words
    | false, '-' :: '-' :: text => do (← r.takeLong text).takeAll false words
    | false, '-' :: c :: rest => do (← r.takeLetters (c :: rest)).takeAll false words
    | _, _ => do (← r.takeWord behindDashes word).takeAll behindDashes words

end ArgumentReader

def Arguments.ofWords (words : List String) : Except ArgumentFault Arguments := do
  (← ArgumentReader.takeAll {} false words).settle

end SecretTemplate
