import SecretTemplate.Proofs.Text.Split
import SecretTemplate.Proofs.Url.Userinfo
import SecretTemplate.Proofs.Vault.Authority
import SecretTemplate.Proofs.Vault.Escaping

/-!
# Which addresses are accepted, and in which form

A plain address is accepted by what stands behind its last `@`, where its place is. A user that is
put in front of the place, however much it looks like a place of its own, changes nothing about that.

The address of a configuration has no blank at its start and no slash at its end. Blanks at its end
are cut before the slashes, and not again behind that. So a blank in front of the slashes at the end
of an address stays, and then the address of the configuration is not one that makes the same
configuration once more.

Results:
1. `isLoopbackAddress_userinfo`: a user does not make a place this machine.
2. `isOk_configure_userinfo`: nor does it make settings acceptable.
3. `exists_blank_normalize_iff`: which addresses keep a blank at their end.
4. `normalize_normalize_iff`: of the others the normal form is final.
5. `configure_again`: when the address of a configuration makes that configuration.
-/

namespace SecretTemplate

open Text

namespace Settings

theorem toList_normalize (address : String) :
    (normalize address).toList = trimEnd (· == '/') (trim address.toList) := by
  rw [normalize, trimEndString, trimString, String.toList_ofList, String.toList_ofList]

/-! ## Users in addresses -/

theorem toList_user (user place : String) :
    ("http://" ++ user ++ "@" ++ place).toList =
      "http://".toList ++ (user.toList ++ '@' :: place.toList) := by
  simp [String.toList_append]

/-- A user does not make a place this machine. -/
theorem isLoopbackAddress_userinfo {user place : String}
    (quiet : ∀ c ∈ user.toList, c ∉ ['/', '\\', '?', '#'])
    (start : ∀ c ∈ place.toList.head?, c ∉ ['/', '\\', '\t', '\r', '\n']) :
    isLoopbackAddress ("http://" ++ user ++ "@" ++ place) =
      isLoopbackAddress ("http://" ++ place) := by
  have inside : ∀ c ∈ user.toList, Url.endsAuthority c = false := fun c hc => by
    simpa [Url.endsAuthority, Url.isSeparator, Url.endsPath, and_assoc] using quiet c hc
  have front : ∀ c ∈ place.toList.head?,
      Url.isSeparator true c = false ∧ Url.isDropped c = false := fun c hc => by
    have other := start c hc
    simp only [List.mem_cons, not_or] at other
    simp [Url.isSeparator, Url.isDropped, other]
  have text : ("http://" ++ place).toList = "http://".toList ++ place.toList :=
    String.toList_append
  have same := Url.parse?_userinfo (.inl rfl) (toList_user user place) text inside front
  have forget (u : Option Url) : u.any Url.isLoopback = (u.map Url.anonymous).any Url.isLoopback := by
    rw [Option.any_map]
    rfl
  rw [isLoopbackAddress, isLoopbackAddress, forget, same, ← forget]

theorem isOk_configure (s : Settings) : s.configure.isOk =
    (s.token.isSome && (addressFault? (normalize s.address) s.allowInsecureHttp).isNone) := by
  unfold configure
  cases hf : addressFault? (normalize s.address) s.allowInsecureHttp with
  | some fault => simp [hf, Except.isOk, Except.toBool]
  | none => cases ht : s.token <;> simp [hf, Except.isOk, Except.toBool]

/-- Without permission a plain address is accepted just if it is one of this machine. -/
theorem addressFault?_plain (rest : String) :
    (addressFault? ("http://" ++ rest) false).isNone = isLoopbackAddress ("http://" ++ rest) := by
  have plain : startsWith ("http://" ++ rest) "http://" = true := by
    rw [startsWith, String.toList_append, after?_append]
    rfl
  rw [addressFault?, plain]
  cases isLoopbackAddress ("http://" ++ rest) <;> rfl

/-- What is left of a place at the end of an address. -/
def placeEnd (place : String) : String :=
  trimEndString (· == '/') (trimEndString isBlank place)

theorem toList_placeEnd (place : String) :
    (placeEnd place).toList = trimEnd (· == '/') (trimEnd isBlank place.toList) := by
  rw [placeEnd, trimEndString, trimEndString, String.toList_ofList, String.toList_ofList]

theorem trim_plain (rest : List Char) :
    trim ("http://".toList ++ rest) = "http://".toList ++ trimEnd isBlank rest := by
  have start : ("http://".toList ++ rest).dropWhile isBlank = "http://".toList ++ rest := rfl
  have slash := trimEnd_append_cons (p := isBlank) (c := '/') (by decide) "http:/".toList rest
  rw [trim, start]
  exact slash

theorem normalize_user (user place : String) :
    normalize ("http://" ++ user ++ "@" ++ place) =
      "http://" ++ (user ++ "@" ++ placeEnd place) := by
  have mark := trimEnd_append_cons (p := isBlank) (c := '@') (by decide) user.toList
    place.toList
  have mark' := trimEnd_append_cons (p := (· == '/')) (c := '@') (by decide)
    ("http://".toList ++ user.toList) (trimEnd isBlank place.toList)
  rw [← String.toList_inj, toList_normalize, toList_user, trim_plain, mark, ← List.append_assoc, mark',
    ← toList_placeEnd]
  simp [String.toList_append]

theorem normalize_plain {place : String} (ne : placeEnd place ≠ "") :
    normalize ("http://" ++ place) = "http://" ++ placeEnd place := by
  have left : trimEnd (· == '/') (trimEnd isBlank place.toList) ≠ [] := by
    rw [← toList_placeEnd]
    exact fun empty => ne (String.toList_eq_nil_iff.1 empty)
  rw [← String.toList_inj, toList_normalize, String.toList_append, trim_plain,
    trimEnd_append_of_ne_nil left, ← toList_placeEnd, String.toList_append]

/-- Of an address without a place not even the slashes behind the scheme are left. -/
theorem normalize_plain_of_empty {place : String} (empty : placeEnd place = "") :
    normalize ("http://" ++ place) = "http:" := by
  have nothing : trimEnd (· == '/') (trimEnd isBlank place.toList) = [] := by
    rw [← toList_placeEnd, empty]
    rfl
  rw [← String.toList_inj, toList_normalize, String.toList_append, trim_plain,
    trimEnd_append_of_eq_nil nothing]
  rfl

/-- A user in front of the place of a plain address, whatever it looks like, does not make it an
address of this machine. So without permission settings are accepted with the user just if they are
accepted without. -/
theorem isOk_configure_userinfo {user place : String}
    (quiet : ∀ c ∈ user.toList, c ∉ ['/', '\\', '?', '#'])
    (start : ∀ c ∈ place.toList.head?, c ∉ ['/', '\\', '\t', '\r', '\n']) :
    isLoopbackAddress ("http://" ++ user ++ "@" ++ place) =
        isLoopbackAddress ("http://" ++ place) ∧
      ∀ s : Settings, s.allowInsecureHttp = false →
        { s with address := "http://" ++ user ++ "@" ++ place }.configure.isOk =
          { s with address := "http://" ++ place }.configure.isOk := by
  refine ⟨isLoopbackAddress_userinfo quiet start, fun s strict => ?_⟩
  have start_end : ∀ c ∈ (placeEnd place).toList.head?, c ∉ ['/', '\\', '\t', '\r', '\n'] := by
    intro c hc
    have front : (placeEnd place).toList <+: place.toList := by
      rw [toList_placeEnd]
      exact (trimEnd_isPrefix _ _).trans (trimEnd_isPrefix _ _)
    exact start c (mem_head?_of_isPrefix front hc)
  have user_end : (addressFault? (normalize ("http://" ++ user ++ "@" ++ place)) false).isNone =
      isLoopbackAddress ("http://" ++ placeEnd place) := by
    rw [normalize_user, addressFault?_plain, ← String.append_assoc, ← String.append_assoc,
      isLoopbackAddress_userinfo quiet start_end]
  rw [isOk_configure, isOk_configure]
  dsimp only
  rw [strict, user_end]
  by_cases empty : placeEnd place = ""
  · -- No place is left. The address is refused, with the user for its host and without for its scheme.
    have nowhere : isLoopbackAddress ("http://" ++ "") = false := by decide
    have scheme : (addressFault? "http:" false).isNone = false := by decide
    rw [normalize_plain_of_empty empty, empty, nowhere, scheme]
  · rw [normalize_plain empty, addressFault?_plain]

theorem isOk_configure_userinfo_disguised :
    (∀ c ∈ "127.0.0.1:8200@[::1]".toList, c ∉ ['/', '\\', '?', '#']) ∧
      (∀ c ∈ "vault.example.com/ ".toList.head?, c ∉ ['/', '\\', '\t', '\r', '\n']) ∧
      isLoopbackAddress ("http://" ++ "127.0.0.1:8200@[::1]" ++ "@" ++ "vault.example.com/ ") =
        isLoopbackAddress ("http://" ++ "vault.example.com/ ") ∧
      isLoopbackAddress ("http://" ++ "vault.example.com/ ") = false ∧
      ({ address := "http://" ++ "127.0.0.1:8200@[::1]" ++ "@" ++ "vault.example.com/ "
         token := some "t" } : Settings).configure.isOk =
        ({ address := "http://" ++ "vault.example.com/ ", token := some "t" } :
          Settings).configure.isOk := by
  have quiet : ∀ c ∈ "127.0.0.1:8200@[::1]".toList, c ∉ ['/', '\\', '?', '#'] := by
    simp
  have start : ∀ c ∈ "vault.example.com/ ".toList.head?, c ∉ ['/', '\\', '\t', '\r', '\n'] := by
    simp
  obtain ⟨same, decision⟩ := isOk_configure_userinfo quiet start
  exact ⟨quiet, start, same, by decide +kernel,
    decision { address := "", token := some "t" } rfl⟩

/-! ## The form of accepted addresses -/

/-- A blank stands in front of the slashes at the end of an address, where trimming does not reach
it. -/
def HidesBlank (address : String) : Prop :=
  ∃ front blank slashes, trim address.toList = front ++ blank :: slashes ∧
    isBlank blank = true ∧ ∀ c ∈ slashes, c = '/'

variable {address : String}

/-- The normal form of an address does not start with a blank. -/
theorem head?_normalize : ∀ c ∈ (normalize address).toList.head?, isBlank c = false := by
  intro c hc
  rw [toList_normalize] at hc
  have first := mem_head?_of_isPrefix (trimEnd_isPrefix _ _) hc
  exact (trim_eq_self_iff.1 (trim_trim address.toList)).1 c first

/-- The normal form of an address does not end with a slash. -/
theorem getLast?_normalize : ∀ c ∈ (normalize address).toList.getLast?, c ≠ '/' := by
  intro c hc
  rw [toList_normalize] at hc
  simpa using getLast?_trimEnd _ _ c hc

/-- The normal form of an address ends with a blank if one is in front of the slashes at its end. -/
theorem exists_blank_normalize_iff :
    (∃ c ∈ (normalize address).toList.getLast?, isBlank c = true) ↔ HidesBlank address := by
  rw [toList_normalize]
  constructor
  · rintro ⟨c, hc, blank⟩
    obtain ⟨slashes, whole, cut⟩ := exists_eq_trimEnd_append (· == '/') (trim address.toList)
    obtain ⟨front, kept⟩ := List.getLast?_eq_some_iff.1 hc
    refine ⟨front, c, slashes, ?_, blank, fun d hd => by simpa using cut d hd⟩
    rw [whole, kept, List.append_assoc, List.singleton_append]
  · rintro ⟨front, blank, slashes, whole, hb, cut⟩
    have plain : (blank == '/') = false := by
      rw [beq_eq_false_iff_ne]
      rintro rfl
      cases hb
    have none : trimEnd (· == '/') slashes = [] :=
      trimEnd_eq_nil_of_forall fun c hc => by simp [cut c hc]
    refine ⟨blank, ?_, hb⟩
    rw [whole, trimEnd_append_cons (p := (· == '/')) plain, none, List.getLast?_concat]
    rfl

/-- The normal form of an address is final, if no blank is in front of the slashes at its end. -/
theorem normalize_normalize_iff :
    normalize (normalize address) = normalize address ↔ ¬HidesBlank address := by
  rw [← exists_blank_normalize_iff, ← String.toList_inj, toList_normalize (normalize address)]
  have slashes : trimEnd (· == '/') (normalize address).toList = (normalize address).toList := by
    rw [toList_normalize]
    exact List.rdropWhile_idempotent _ _
  constructor
  · rintro final ⟨c, last, blank⟩
    -- What trimming cuts off at the end does not come back.
    have trimmed : trim (normalize address).toList = (normalize address).toList := by
      have short : (trim (normalize address).toList).Sublist (normalize address).toList :=
        (trimEnd_isPrefix _ _).sublist.trans (List.dropWhile_suffix _).sublist
      refine short.eq_of_length_le ?_
      calc (normalize address).toList.length
          = (trimEnd (· == '/') (trim (normalize address).toList)).length := by rw [final]
        _ ≤ (trim (normalize address).toList).length := (trimEnd_isPrefix _ _).length_le
    rw [(trim_eq_self_iff.1 trimmed).2 c last] at blank
    cases blank
  · intro shown
    have trimmed : trim (normalize address).toList = (normalize address).toList :=
      trim_eq_self_iff.2 ⟨head?_normalize, fun c last => by
        by_contra blank
        exact shown ⟨c, last, Bool.not_eq_false _ ▸ blank⟩⟩
    rw [trimmed, slashes]

variable {s : Settings} {config : Config}

theorem address_of_configure (accepted : s.configure = .ok config) :
    config.address = normalize s.address := by
  obtain ⟨-, -, hc⟩ := configure_eq_ok_iff.1 accepted
  rw [hc]

/-- The address of a configuration makes that configuration just if it is its own normal form. -/
theorem configure_again_iff (accepted : s.configure = .ok config) :
    { s with address := config.address }.configure = .ok config ↔
      normalize config.address = config.address := by
  obtain ⟨fault, token, hc⟩ := configure_eq_ok_iff.1 accepted
  rw [← address_of_configure accepted] at fault hc
  rw [configure_eq_ok_iff]
  constructor
  · rintro ⟨-, -, same⟩
    exact (congrArg Config.address same).symm
  · intro normal
    dsimp only
    rw [normal]
    exact ⟨fault, token, hc⟩

/-- The address of a configuration has no blank at its start and no slash at its end, and the URLs
of all secrets start with it and go on with the mount of engines. It has no blank at its end and
makes the same configuration again just if the address in the settings has no blank in front of the
slashes at its end. -/
theorem configure_again (accepted : s.configure = .ok config) :
    (∀ c ∈ config.address.toList.head?, isBlank c = false) ∧
      (∀ c ∈ config.address.toList.getLast?, c ≠ '/') ∧
      ((∀ c ∈ config.address.toList.getLast?, isBlank c = false) ↔ ¬HidesBlank s.address) ∧
      ({ s with address := config.address }.configure = .ok config ↔ ¬HidesBlank s.address) ∧
      ∀ q, Endpoint.url config.address q = config.address ++ "/v1/" ++ Endpoint.shown q := by
  have url (q : Read) :
      Endpoint.url config.address q = config.address ++ "/v1/" ++ Endpoint.shown q := by
    rw [Endpoint.url_eq, base_of_configure accepted]
  rw [configure_again_iff accepted, address_of_configure accepted, normalize_normalize_iff,
    ← exists_blank_normalize_iff]
  exact ⟨head?_normalize, getLast?_normalize, by simp, .rfl, address_of_configure accepted ▸ url⟩

/-- The settings for a server at an address, with a token. -/
def tokenSettings (address : String) : Settings := { address, token := some "t" }

theorem configure_again_untidy :
    ∃ config, (tokenSettings " https://h/vault// \n").configure = .ok config ∧
      config.address = "https://h/vault" ∧ ¬HidesBlank " https://h/vault// \n" ∧
      (tokenSettings config.address).configure = .ok config ∧
      ∀ q, Endpoint.url config.address q = config.address ++ "/v1/" ++ Endpoint.shown q := by
  have accepted : (tokenSettings " https://h/vault// \n").configure = .ok
      { address := "https://h/vault", token := "t", vaultNamespace := none, timeout := 60000
        userAgentSuffix := none, allowInsecureHttp := false } := rfl
  have shown : ¬HidesBlank " https://h/vault// \n" :=
    normalize_normalize_iff.1 (by decide +kernel)
  obtain ⟨-, -, -, again, url⟩ := configure_again accepted
  exact ⟨_, accepted, rfl, shown, again.2 shown, url⟩

/-- A blank in front of the slash at the end of an address stays in the configuration, and the
address of the configuration makes another one. -/
theorem configure_again_ne :
    ∃ config, (tokenSettings "https://h /").configure = .ok config ∧
      config.address.toList.getLast? = some ' ' ∧
      (tokenSettings config.address).configure ≠ .ok config := by
  have accepted : (tokenSettings "https://h /").configure = .ok
      { address := "https://h ", token := "t", vaultNamespace := none, timeout := 60000
        userAgentSuffix := none, allowInsecureHttp := false } := rfl
  refine ⟨_, accepted, rfl, fun again => ?_⟩
  have address := address_of_configure again
  revert address
  decide +kernel

-- Where nothing but a blank stands between the slashes, the second time is refused.
example : (tokenSettings "https:// /").configure.isOk = true := by decide +kernel
example : (tokenSettings "https:// ").configure.isOk = false := by decide +kernel

end Settings

end SecretTemplate
