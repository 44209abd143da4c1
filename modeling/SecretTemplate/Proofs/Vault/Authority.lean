import SecretTemplate.Proofs.Vault.Target

/-!
# Where requests go

Settings are checked once, on the address. What a client sends goes to URLs that start with the
address, and the check says something about them only if they lead where the address leads. They
do, whatever mount and path stand behind the address, as long as the address names a place: as
long as it has something to say behind its slashes. An address that does not is no URL, and the
mount of engines, `v1`, takes the empty place. The check of a plain address excludes that, since it
reads the address as a URL. Encrypted addresses are not read.

Results:
1. `Settings.exists_place`: an accepted address is a web URL in writing.
2. `Settings.site_iff_namesPlace`: requests lead where the address leads exactly if it names a
   place.
3. `Settings.isGuarded_of_configure`: without permission they are encrypted or stay on this machine.
-/

namespace SecretTemplate

open Text

/-- Whether an address says something behind its slashes. -/
def NamesPlace (address : String) : Prop :=
  ∃ scheme place, Url.IsWeb scheme ∧ address.toList = scheme.toList ++ ':' :: '/' :: '/' :: place ∧
    ∃ c ∈ place, Url.isSeparator true c = false ∧ Url.isDropped c = false

namespace Url

/-- Whether what is sent to a URL is encrypted or stays on this machine. -/
def isGuarded (u : Url) : Bool :=
  u.scheme = "https" || u.isLoopback

theorem isLoopback_congr {u v : Url} (host : u.host = v.host) : u.isLoopback = v.isLoopback := by
  rw [isLoopback, isLoopback, host]

end Url

namespace Settings

theorem exists_of_startsWith {address start : String} (h : startsWith address start = true) :
    ∃ rest, address.toList = start.toList ++ rest := by
  obtain ⟨rest, hrest⟩ := Option.isSome_iff_exists.1 h
  exact ⟨rest, after?_eq_some.1 hrest⟩

variable {s : Settings} {config : Config}

/-- An accepted address is a web URL in writing. -/
theorem exists_place (accepted : s.configure = .ok config) :
    ∃ scheme place, Url.IsWeb scheme ∧
      config.address.toList = scheme.toList ++ ':' :: '/' :: '/' :: place := by
  obtain ⟨fault, -, hc⟩ := configure_eq_ok_iff.1 accepted
  have address : config.address = normalize s.address := by rw [hc]
  rw [← address, addressFault?] at fault
  split at fault
  · cases fault
  · next known =>
    rw [Bool.and_eq_true, Bool.not_eq_true', Bool.not_eq_true', ← Bool.or_eq_false_iff,
      Bool.not_eq_false, Bool.or_eq_true] at known
    rcases known with plain | encrypted
    · obtain ⟨place, h⟩ := exists_of_startsWith plain
      exact ⟨"http", place, .inl rfl, h⟩
    · obtain ⟨place, h⟩ := exists_of_startsWith encrypted
      exact ⟨"https", place, .inr rfl, h⟩

theorem base_of_configure (accepted : s.configure = .ok config) :
    Endpoint.base config.address = config.address := by
  obtain ⟨-, -, hc⟩ := configure_eq_ok_iff.1 accepted
  have address : config.address = normalize s.address := by rw [hc]
  rw [address, normalize, Endpoint.base, trimEndString, trimEndString, trimEnd, trimEnd,
    String.toList_ofList, List.reverse_reverse, List.dropWhile_idempotent]

theorem toList_url_of_configure (accepted : s.configure = .ok config) (q : Read) :
    (Endpoint.url config.address q).toList = config.address.toList ++ '/' :: Endpoint.text q := by
  rw [Endpoint.toList_url, base_of_configure accepted]

/-- Requests lead where an address leads that names a place. -/
theorem site_of_named (accepted : s.configure = .ok config) {scheme : String} {place : List Char}
    (web : Url.IsWeb scheme)
    (hplace : config.address.toList = scheme.toList ++ ':' :: '/' :: '/' :: place)
    (named : ∃ c ∈ place, Url.isSeparator true c = false ∧ Url.isDropped c = false) {q : Read}
    {u : Url} (h : Url.parse? (Endpoint.url config.address q) = some u) :
    ∃ v, Url.parse? config.address = some v ∧
      v.scheme = u.scheme ∧ v.host = u.host ∧ v.port = u.port :=
  Url.site_of_append web hplace (toList_url_of_configure accepted q) named
    (fun _ hc => (Endpoint.url_of_mem_text hc).2.1) h

/-- Requests lead where the address leads exactly if it names a place. -/
theorem site_iff_namesPlace (accepted : s.configure = .ok config) {q : Read} {u : Url}
    (h : Url.parse? (Endpoint.url config.address q) = some u) :
    (∃ v, Url.parse? config.address = some v ∧
      v.scheme = u.scheme ∧ v.host = u.host ∧ v.port = u.port) ↔ NamesPlace config.address := by
  obtain ⟨scheme, place, web, hplace⟩ := exists_place accepted
  constructor
  · rintro ⟨v, hv, -⟩
    exact ⟨scheme, place, web, hplace, Url.named_of_parse? web hplace hv⟩
  · rintro ⟨scheme, place, web, hplace, named⟩
    exact site_of_named accepted web hplace named h

theorem site_iff_namesPlace_defaultAddress :
    ∃ config u,
      ({ address := defaultAddress, token := some "t" } : Settings).configure = .ok config ∧
      Url.parse? (Endpoint.url config.address ⟨.v2, "kv", "a/b"⟩) = some u ∧
      ∃ v, Url.parse? config.address = some v ∧
        v.scheme = u.scheme ∧ v.host = u.host ∧ v.port = u.port := by
  have accepted : ({ address := defaultAddress, token := some "t" } : Settings).configure =
      .ok { address := defaultAddress, token := "t", vaultNamespace := none, timeout := 60000
            userAgentSuffix := none, allowInsecureHttp := false } := rfl
  have parsed : Url.parse? (Endpoint.url defaultAddress ⟨.v2, "kv", "a/b"⟩) = some
      { scheme := "https", host := some (.ipv4 0x7F000001), port := some 8200,
        path := .segments ["v1", "kv", "data", "a", "b"] } := by decide +kernel
  exact ⟨_, _, accepted, parsed, (site_iff_namesPlace accepted parsed).2
    ⟨"https", "127.0.0.1:8200".toList, .inr rfl, rfl, '1', by decide, by decide⟩⟩

/-- Behind an address without a place, the mount of engines takes it. -/
theorem site_backslash :
    ∃ config u, ({ address := "https://\\", token := some "t" } : Settings).configure = .ok config ∧
      Url.parse? (Endpoint.url config.address ⟨.v2, "kv", "a"⟩) = some u ∧
      u.host = some (.domain "v1") ∧ Url.parse? config.address = none := by
  have parsed : Url.parse? (Endpoint.url "https://\\" ⟨.v2, "kv", "a"⟩) = some
      { scheme := "https", host := some (.domain "v1")
        path := .segments ["kv", "data", "a"] } := by
    decide +kernel
  exact ⟨_, _, rfl, parsed, rfl, by decide +kernel⟩

/-- Without permission requests are encrypted or stay on this machine. -/
theorem isGuarded_of_configure (accepted : s.configure = .ok config)
    (strict : s.allowInsecureHttp = false) {q : Read} {u : Url}
    (h : Url.parse? (Endpoint.url config.address q) = some u) : u.isGuarded = true := by
  obtain ⟨scheme, place, web, hplace⟩ := exists_place accepted
  have text := toList_url_of_configure accepted q
  rcases web with rfl | rfl
  · -- The check has read a plain address as a URL, so the address names a place.
    obtain ⟨fault, -, hc⟩ := configure_eq_ok_iff.1 accepted
    have address : config.address = normalize s.address := by rw [hc]
    have plain : startsWith config.address "http://" = true := by
      rw [startsWith, hplace]
      exact Option.isSome_iff_exists.2 ⟨place, after?_eq_some.2 rfl⟩
    rw [← address, strict] at fault
    have loopback := isLoopbackAddress_of_plain fault plain
    obtain ⟨v, hv, loopback⟩ := (Option.any_eq_true _ _).1 loopback
    obtain ⟨w, hw, -, host, -⟩ := site_of_named accepted (.inl rfl) hplace
      (Url.named_of_parse? (.inl rfl) hplace hv) h
    obtain rfl : v = w := Option.some.inj (hv.symm.trans hw)
    rw [Url.isGuarded, ← Url.isLoopback_congr host, loopback, Bool.or_true]
  · rw [hplace] at text
    rw [Url.isGuarded, Url.scheme_of_parse? (.inr rfl) (t := place ++ '/' :: Endpoint.text q)
      (by simpa using text) h]
    rfl

end Settings

end SecretTemplate
