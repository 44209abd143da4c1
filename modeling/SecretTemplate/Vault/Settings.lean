import SecretTemplate.Error
import SecretTemplate.Text.Blank
import SecretTemplate.Text.Search
import SecretTemplate.Url.Parser

/-!
# Settings

What a client is told, and the configuration it makes of that. The address is freed of blanks at
its ends and then of slashes at its end. It must be an HTTP address, and a plain one only if its
host is this machine or if that is allowed explicitly. A token must be given.

Results:
1. `configure_eq_ok_iff`: which settings make a configuration, and which one.
2. `isLoopbackAddress_of_plain`: without permission an accepted plain address is one of this machine.
-/

namespace SecretTemplate

open Text

def Url.isLoopback (u : Url) : Bool :=
  match u.host with
  | some (.ipv4 address) => Ipv4.isLoopback address
  | some (.ipv6 pieces) => Ipv6.isLoopback pieces
  | some (.domain name) => name.toList.map Char.toLower = "localhost".toList
  | _ => false

def isLoopbackAddress (address : String) : Bool :=
  (Url.parse? address).any Url.isLoopback

structure Settings where
  /-- Where the server is. -/
  address : String
  /-- What proves who asks. -/
  token : Option String := none
  /-- The part of the server that is asked. -/
  vaultNamespace : Option String := none
  /-- How many milliseconds an answer may take. -/
  timeout : Nat := 60000
  /-- What is added to the name under which the client introduces itself. -/
  userAgentSuffix : Option String := none
  /-- Whether plain HTTP to other machines is allowed. -/
  allowInsecureHttp : Bool := false
  deriving DecidableEq, Repr

structure Config where
  address : String
  token : String
  vaultNamespace : Option String
  timeout : Nat
  userAgentSuffix : Option String
  allowInsecureHttp : Bool
  deriving DecidableEq, Repr

namespace Settings

def defaultAddress : String := "https://127.0.0.1:8200"

def startsWith (s start : String) : Bool :=
  (after? start.toList s.toList).isSome

def normalize (address : String) : String :=
  trimEndString (· == '/') (trimString address)

/-- Why an address, in its normal form, is refused. -/
def addressFault? (address : String) (allowInsecureHttp : Bool) : Option ConfigFault :=
  if !startsWith address "http://" && !startsWith address "https://" then some .scheme
  else if startsWith address "http://" && !isLoopbackAddress address && !allowInsecureHttp then
    some (.plainHttp address)
  else none

def configure (s : Settings) : Except Error Config :=
  let address := normalize s.address
  match addressFault? address s.allowInsecureHttp, s.token with
  | some fault, _ => .error (.config fault)
  | none, none => .error (.config .missingToken)
  | none, some token =>
    .ok { address, token, vaultNamespace := s.vaultNamespace, timeout := s.timeout,
          userAgentSuffix := s.userAgentSuffix, allowInsecureHttp := s.allowInsecureHttp }

/-- Which settings make a configuration, and which one. -/
theorem configure_eq_ok_iff {s : Settings} {c : Config} :
    s.configure = .ok c ↔
      addressFault? (normalize s.address) s.allowInsecureHttp = none ∧ s.token = some c.token ∧
        c = { address := normalize s.address, token := c.token,
              vaultNamespace := s.vaultNamespace, timeout := s.timeout,
              userAgentSuffix := s.userAgentSuffix,
              allowInsecureHttp := s.allowInsecureHttp } := by
  unfold configure
  cases hf : addressFault? (normalize s.address) s.allowInsecureHttp with
  | some fault => simp [hf]
  | none =>
    cases ht : s.token with
    | none => simp [hf]
    | some token =>
      simp only [hf, Except.ok.injEq, Option.some.injEq, true_and]
      constructor
      · rintro rfl
        simp
      · rintro ⟨h1, h2⟩
        rw [h2, h1]

/-- Without permission an accepted plain address is one of this machine. -/
theorem isLoopbackAddress_of_plain {address : String} (accepted : addressFault? address false = none)
    (plain : startsWith address "http://" = true) : isLoopbackAddress address = true := by
  unfold addressFault? at accepted
  simp only [plain, Bool.not_true, Bool.false_and, Bool.true_and, Bool.not_false,
    Bool.and_true] at accepted
  cases h : isLoopbackAddress address with
  | true => rfl
  | false => simp [h] at accepted

end Settings

end SecretTemplate
