import SecretTemplate.FileTree.Fault
import SecretTemplate.Text.Numeral
import SecretTemplate.Text.Utf8
import SecretTemplate.Vault.Settings

/-!
# Settings from the environment

The variables `VAULT_ADDR`, `VAULT_TOKEN`, `VAULT_NAMESPACE` and `VAULT_CLIENT_TIMEOUT` and, for
want of a token, the file `~/.vault-token`. A variable that is empty or no text counts as not set.
The timeout is a number of seconds, which may have a plus sign in front and the letter `s` behind.

Results:
1. `get?_ne_empty`: a variable that counts as set is not empty.
2. `token_of_variable`: the variable goes before the file.
-/

namespace SecretTemplate

open Text

structure Environment where
  /-- The variables by name. -/
  bindings : List (String × List UInt8) := []
  /-- What reading the token file yields. -/
  tokenFile : Except FileFault (List UInt8) := .error .notFound

namespace Environment

/-- The value of a variable, if it counts as set. -/
def get? (env : Environment) (name : String) : Option String :=
  match env.bindings.lookup name with
  | none => none
  | some bytes => (Utf8.decodeString bytes).toOption.filter (· ≠ "")

/-- The token in a token file: its text without the line ends at its end. -/
def fileToken (file : Except FileFault (List UInt8)) : Except TextFault String :=
  match file with
  | .error fault => .error (.unreadable fault)
  | .ok bytes =>
    match Utf8.decodeString bytes with
    | .error _ => .error .notText
    | .ok text => .ok (trimEndString (fun c => c = '\r' || c = '\n') text)

def token (env : Environment) : Except Error String :=
  match env.get? "VAULT_TOKEN" with
  | some token => .ok token
  | none =>
    match fileToken env.tokenFile with
    | .error cause => .error (.config (.noTokenFile cause))
    | .ok token => .ok token

/-- The number of seconds that a text gives. -/
def seconds? (s : String) : Option Nat :=
  let digits := trimEnd (· == 's') (trim s.toList)
  let digits := if digits.head? = some '+' then digits.tail else digits
  word? digits

/-- The timeout in milliseconds. The product is taken as it is: for a number of seconds above
`2 ^ 64 / 1000` it is one that a word of 64 bits does not hold. -/
def timeout (env : Environment) : Except Error Nat :=
  match env.get? "VAULT_CLIENT_TIMEOUT" with
  | none => .ok 60000
  | some text =>
    match seconds? text with
    | none => .error (.config (.timeout text))
    | some n => .ok (n * 1000)

def settings (env : Environment) : Except Error Settings := do
  let token ← env.token
  let timeout ← env.timeout
  return {
    address := (env.get? "VAULT_ADDR").getD Settings.defaultAddress
    token := some token
    vaultNamespace := env.get? "VAULT_NAMESPACE"
    timeout }

/-- A variable that counts as set is not empty. -/
theorem get?_ne_empty {env : Environment} {name value : String}
    (h : env.get? name = some value) : value ≠ "" := by
  unfold get? at h
  split at h
  · cases h
  · simpa using (Option.filter_eq_some_iff.1 h).2

/-- The variable goes before the file. -/
theorem token_of_variable {env : Environment} {value : String}
    (h : env.get? "VAULT_TOKEN" = some value) : env.token = .ok value := by
  simp [token, h]

end Environment

end SecretTemplate
