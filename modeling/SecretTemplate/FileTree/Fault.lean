/-!
# File faults

Why a file or a directory cannot be looked at or read, in the words of the operating system.

Results:
1. `message_injective`: different faults are worded differently.
-/

namespace SecretTemplate

/-- Why a file or a directory cannot be looked at or read. -/
inductive FileFault where
  /-- Nothing has that name. -/
  | notFound
  /-- A directory is no file. -/
  | isDirectory
  /-- A part of the path in front of the last is no directory. -/
  | notDirectory
  /-- Too many symbolic links lead on to each other. -/
  | tooManyLinks
  /-- A path, or a name in it, is too long. -/
  | tooLong
  /-- A path holds a character that no name can hold. -/
  | nulCharacter
  | denied
  /-- The device on which it is does not do its part. -/
  | inputOutput
  deriving DecidableEq, Repr

namespace FileFault

def message : FileFault → String
  | notFound => "No such file or directory (os error 2)"
  | isDirectory => "Is a directory (os error 21)"
  | notDirectory => "Not a directory (os error 20)"
  | tooManyLinks => "Too many levels of symbolic links (os error 40)"
  | tooLong => "File name too long (os error 36)"
  | nulCharacter => "file name contained an unexpected NUL byte"
  | denied => "Permission denied (os error 13)"
  | inputOutput => "Input/output error (os error 5)"

/-- Different faults are worded differently. -/
theorem message_injective {f g : FileFault} (h : f.message = g.message) : f = g := by
  cases f <;> cases g <;> first | rfl | exact absurd h (by decide)

end FileFault

/-- Why a file yields no text. -/
inductive TextFault where
  /-- It cannot be read. -/
  | unreadable (cause : FileFault)
  /-- Its bytes are no text. -/
  | notText
  deriving DecidableEq, Repr

def TextFault.message : TextFault → String
  | unreadable cause => cause.message
  | notText => "stream did not contain valid UTF-8"

end SecretTemplate
