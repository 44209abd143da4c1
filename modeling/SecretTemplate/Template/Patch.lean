import SecretTemplate.Secret.Resolve
import SecretTemplate.Template.Token

/-!
# Patching templates

Patching resolves every token of a template, one after the other, and writes the value of each in
place of the token's text, wherever that text stands in what has been patched so far. The tokens
are those of the template itself. The first failure ends the patching, without any output.

Results:
1. `patch_of_noTokens`: a template without tokens is its own rendering, and nothing is read.
-/

namespace SecretTemplate

open Text

namespace Delimiter

/-- The buffer after the token with that body has been resolved. -/
def patchToken (d : Delimiter) (buffer body : String) : Lookup String := do
  let value ← Reference.resolve body
  return replaceAllString (d.wrap body) value buffer

def patch (d : Delimiter) (input : String) : Lookup String :=
  (d.tokens input).foldlM d.patchToken input

/-- A template without tokens is its own rendering, and nothing is read. -/
theorem patch_of_noTokens {d : Delimiter} {input : String} (none : d.tokens input = [])
    (reader : Reader) : (d.patch input).against reader = (.ok input, []) := by
  rw [patch, none]
  rfl

end Delimiter

end SecretTemplate
