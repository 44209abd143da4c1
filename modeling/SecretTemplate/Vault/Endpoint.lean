import SecretTemplate.Secret.Resolve
import SecretTemplate.Text.Blank
import SecretTemplate.Text.Percent

/-!
# Endpoints

Where a server keeps the secrets of an engine: below its address, `v1`, then the mount, then, for
engines of version 2, `data`, then the path. Every segment is percent-encoded by itself, so that
the slashes in the result are those between segments. A mount is one segment.

Results:
1. `encodePath_eq`: the segments of a path are encoded one by one.
-/

namespace SecretTemplate

open Text

namespace Endpoint

/-- The characters that a segment shows as they are: printable ASCII without those that end a path
or are delicate in a URL. -/
def isPlain (c : Char) : Bool :=
  0x20 < c.toNat && c.toNat < 0x7F &&
    c ∉ ['"', '<', '>', '\x60', '#', '?', '\x7b', '\x7d', '/', '%']

def encodeSegment (s : String) : String :=
  String.ofList (Percent.encode isPlain s.toList)

/-- A text with slashes as a path with as many segments. -/
def encodePath (s : String) : String :=
  "/".intercalate ((s.toList.splitOn '/').map fun segment => encodeSegment (String.ofList segment))

/-- The address without the slashes at its end. -/
def base (address : String) : String :=
  trimEndString (· == '/') address

/-- The URL at which the server at an address answers a read. -/
def url (address : String) (q : Read) : String :=
  base address ++ "/v1/" ++ encodeSegment q.mount ++ "/" ++
    (match q.engine with | .v1 => "" | .v2 => "data/") ++ encodePath q.path

/-- The segments of a path are encoded one by one. -/
theorem encodePath_eq (s : String) :
    encodePath s = "/".intercalate ((s.toList.splitOn '/').map fun segment =>
      String.ofList (Percent.encode isPlain segment)) := by
  simp [encodePath, encodeSegment]

example : encodePath "team a/db#1" = "team%20a/db%231" := by decide +kernel

end Endpoint

end SecretTemplate
