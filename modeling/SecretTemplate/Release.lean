import SecretTemplate.Text.Blank
import SecretTemplate.Text.Utf8

/-!
# Releases

The name and the number under which the program introduces itself. A build may add the commit it was
made from, which it learns from a lookup in the history of its files. A lookup that fails, or says
nothing, adds nothing.

Results:
1. `label_of_failure`: a lookup that fails leaves the number alone.
-/

namespace SecretTemplate.Release

open Text

def program : String := "vaultsubst"

def number : String := "0.1.0"

/-- What came of looking up the commit. -/
structure Lookup where
  output : List UInt8
  exitCode : Nat := 0

def Lookup.commit? (l : Lookup) : Option String :=
  if l.exitCode = 0 then
    (some (trimString (String.ofList (Utf8.decodeLossy l.output)))).filter (· ≠ "")
  else none

/-- The number of a release, and the commit it was made from as far as that is known. -/
def label (number : String) (commit : Option String) : String :=
  match commit with
  | none => number
  | some commit => number ++ " (" ++ commit ++ ")"

/-- What a build announces: the label of the release, and the files it depends on. -/
def announcement (number : String) (lookup : Option Lookup) : String :=
  "cargo:rustc-env=VAULTSUBST_VERSION=" ++ label number (lookup.bind Lookup.commit?) ++ "\n" ++
    "cargo:rerun-if-changed=.git/HEAD\n" ++
    "cargo:rerun-if-changed=.git/refs/\n"

/-- A lookup that fails leaves the number alone. -/
theorem label_of_failure {l : Lookup} (failed : l.exitCode ≠ 0) (number : String) :
    label number l.commit? = number := by
  simp [Lookup.commit?, failed, label]

example : label "2.1.0" (Lookup.commit? ⟨Utf8.encodeString " abc1234 \r\n", 0⟩) = "2.1.0 (abc1234)" := by
  cbv

end SecretTemplate.Release
