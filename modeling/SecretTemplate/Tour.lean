import SecretTemplate.Template.Patch
import SecretTemplate.Vault.Client
import SecretTemplate.Vault.Environment

/-!
# A tour

A short program that shows what the library does with one secret of a server: it resolves a written
reference, then one that is built field by field, and then it patches a template with two tokens.
It tells what it does line by line, and a failure ends it.

Results:
1. `run_of_settings_error`: without settings nothing is told and nothing is asked.
-/

namespace SecretTemplate.Tour

open Text

/-- A step of the tour: it may ask the server, tell something, and fail. -/
abbrev Step (α : Type) := ExceptT Error (StateT String Http.Conversation) α

def tell (line : String) : Step Unit :=
  modify (· ++ line ++ "\n")

/-- Takes in what may have failed already. -/
def settle {α : Type} (e : Except Error α) : Step α :=
  ExceptT.mk (pure e)

def lookUp {α : Type} (c : Client) (l : Lookup α) : Step α :=
  ExceptT.mk (StateT.lift (c.run l))

def path : String := "kv/storage/postgres/creds"

def template : String :=
  "[database]\n" ++
  "user = \"@@path=kv/storage/postgres/creds,field=username@@\"\n" ++
  "password = \"@@path=kv/storage/postgres/creds,field=password@@\"\n"

def resolve (c : Client) : Step Unit := do
  tell "=== Example 1: Resolve a reference ==="
  let user ← lookUp c (Reference.resolve s!"path={path},field=username,transform=trim|upper")
  tell s!"username: {user}"

/-- Resolves a reference that is built. -/
def fetch (c : Client) : Step Unit := do
  tell "\n=== Example 2: Typed reference ==="
  let reference : Reference := { path, field := "password", transformations := ["base64"] }
  tell s!"reference: {reference.render}"
  let encoded ← lookUp c reference.fetch
  tell s!"password (base64): {encoded.utf8ByteSize} characters"

def patch (c : Client) : Step Unit := do
  tell "\n=== Example 3: Patch a buffer ==="
  tell s!"tokens: {(Delimiter.standard.tokens template).length}"
  let rendered ← lookUp c (Delimiter.standard.patch template)
  tell s!"rendered {rendered.utf8ByteSize} bytes"

def steps (env : Environment) : Step Unit := do
  let settings ← settle env.settings
  let c ← settle (Client.build { settings with userAgentSuffix := some "basic-usage" })
  tell s!"Using Vault at {c.config.address}"
  resolve c
  fetch c
  patch c

/-- What the tour told, and why it ended early if it did. -/
def run (env : Environment) : Http.Conversation (String × Option Error) := do
  match ← (steps env).run.run "" with
  | (.ok _, told) => return (told, none)
  | (.error cause, told) => return (told, some cause)

/-- Without settings nothing is told and nothing is asked. -/
theorem run_of_settings_error {env : Environment} {cause : Error}
    (h : env.settings = .error cause) : run env = .done ("", some cause) := by
  simp only [run, steps, settle, h]
  rfl

end SecretTemplate.Tour
