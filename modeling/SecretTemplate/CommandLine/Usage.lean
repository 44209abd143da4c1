import SecretTemplate.CommandLine.Arguments
import SecretTemplate.Release

/-!
# Usage

What the program says about itself: how to use it, which release it is, and what is wrong with a
command line that starts no run.
-/

namespace SecretTemplate.CommandLine

def usage : String :=
  "Inject and format Vault secrets into files\n\n" ++
  "Usage: vaultsubst [OPTIONS] [FILE]...\n\n" ++
  "Arguments:\n" ++
  "  [FILE]...  Files or directories to patch; stdin when omitted\n\n" ++
  "Options:\n" ++
  "  -d, --delimiter <DELIMITER>  Token delimiter [default: @@] [alias: --delim]\n" ++
  "  -i, --in-place               Rewrite files instead of printing them to stdout\n" ++
  "  -r, --recursive              Descend into subdirectories\n" ++
  "      --allow-insecure-http    Permit plain http:// Vault addresses that are not loopback\n" ++
  "  -h, --help                   Print help\n" ++
  "  -V, --version                Print version\n"

def version : String :=
  Release.program ++ " " ++ Release.number ++ "\n"

/-- What is wrong with a command line. -/
def complaint : ArgumentFault → String
  | .unknownArgument => "error: unexpected argument\n"
  | .invalidValue => "error: a value is required\n"
  | .argumentConflict => "error: an argument cannot be used multiple times\n"
  | .tooManyValues => "error: unexpected value for an argument\n"
  | .displayHelp | .displayVersion => ""

example : version = "vaultsubst 0.1.0\n" := by decide

end SecretTemplate.CommandLine
