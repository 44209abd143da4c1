import Mathlib.Data.List.TakeWhile
import SecretTemplate.Proofs.Text.Bytes
import SecretTemplate.Proofs.Url.Domain
import SecretTemplate.Url.Parser

/-!
# Where a web URL leads

The scheme, the host and the port of a web URL are decided by its authority: the text between the
slashes behind the scheme and the next slash, backslash, question mark or hash. What follows the
authority has no say in it. So a text that is put behind an address cannot change where the address
leads, unless the address names no place at all.

Results:
1. `parse?_web`: a web URL by its authority and by what follows it.
2. `authority?_eq_none_of_blank`: no authority ends with a blank.
3. `site_of_append`: what is put behind an address from a slash on does not change where it leads.
4. `parse?_behind`: it is the path, the query and the fragment, where the address is only a place.
-/

namespace SecretTemplate

open Text

namespace Text.Percent

theorem not_isBlank_of_digit? {c : Char} {n : Nat} (h : digit? 16 c = some n) :
    ¬ Domain.IsBlank c.toNat := by
  intro blank
  rw [Domain.IsBlank] at blank
  rw [digit?] at h
  rw [if_neg (by omega), if_neg (by omega), if_neg (by omega)] at h
  cases h

/-- A blank belongs to no escape, so it is among the bytes. -/
theorem mem_decodeFrom_of_blank {c : Char} (blank : Domain.IsBlank c.toNat) {used : Nat}
    {s : List Char} (hc : c ∈ s.drop used) : UInt8.ofNat c.toNat ∈ decodeFrom used s := by
  have own : Utf8.encodeChar c = [UInt8.ofNat c.toNat] := by
    rw [Utf8.encodeChar]
    rw [Domain.IsBlank] at blank
    exact if_pos (by omega)
  induction s generalizing used with
  | nil => simp at hc
  | cons d s ih =>
    cases used with
    | succ used => exact ih hc
    | zero =>
      rw [decodeFrom]
      cases he : escape? (d :: s) with
      | none =>
        refine List.mem_append.2 ((List.mem_cons.1 hc).imp ?_ fun later => ih later)
        rintro rfl
        simp [own]
      | some b =>
        -- An escape uses up three characters, and none of them is a blank.
        refine List.mem_cons_of_mem _ (ih ?_)
        unfold escape? at he
        split at he
        · next x y rest heq =>
          obtain ⟨rfl, rfl⟩ := List.cons.inj heq
          obtain ⟨m, hm, he⟩ := Option.bind_eq_some_iff.1 he
          obtain ⟨n, hn, -⟩ := Option.bind_eq_some_iff.1 he
          have mark : c ≠ '%' := by
            rintro rfl
            revert blank
            decide
          have high : c ≠ x := fun same => not_isBlank_of_digit? hm (same ▸ blank)
          have low : c ≠ y := fun same => not_isBlank_of_digit? hn (same ▸ blank)
          simpa [mark, high, low] using hc
        · cases he

end Text.Percent

namespace Host

theorem splitPort_append (inside : Bool) (s : List Char) :
    (splitPort inside s).1 ++ (splitPort inside s).2 = s := by
  induction s generalizing inside with
  | nil => rfl
  | cons c s ih =>
    rw [splitPort]
    split
    · rfl
    · exact congrArg (c :: ·) (ih _)

/-- What stands behind a host starts with a colon. -/
theorem splitPort_snd (inside : Bool) (s : List Char) :
    (splitPort inside s).2 = [] ∨ ∃ digits, (splitPort inside s).2 = ':' :: digits := by
  induction s generalizing inside with
  | nil => exact .inl rfl
  | cons c s ih =>
    rw [splitPort]
    split
    · next colon =>
      rw [Bool.and_eq_true, decide_eq_true_eq] at colon
      exact .inr ⟨s, by rw [colon.1]⟩
    · exact ih _

/-- No host ends with a blank. -/
theorem parse?_eq_none_of_blank {c : Char} (blank : Domain.IsBlank c.toNat) (s : List Char) :
    parse? true (s ++ [c]) = none := by
  rw [parse?]
  split
  · have last : (s ++ [c]).getLast? ≠ some ']' := by
      rw [List.getLast?_concat]
      rintro ⟨⟩
      revert blank
      decide
    rw [bracketed?, if_neg last]
  · rw [if_pos rfl]
    cases ht : Utf8.decode (Percent.decode (s ++ [c])) with
    | error => rfl
    | ok text =>
      have byte : UInt8.ofNat c.toNat ∈ Utf8.encode text := by
        rw [← Utf8.decode_eq_ok_iff.1 ht]
        exact Percent.mem_decodeFrom_of_blank blank (by simp)
      rw [Domain.IsBlank] at blank
      have number : (UInt8.ofNat c.toNat).toNat = c.toNat := Utf8.toNat_ofNat_byte (by omega)
      have hc : c ∈ text := by
        have := Utf8.ofNat_mem_of_mem_encode byte (by omega)
        rwa [number, Char.ofNat_toNat] at this
      simp [Except.toOption, Domain.toAscii?_eq_none_of_blank blank hc]

end Host

namespace Url

/-- Whether a scheme is one of the web. -/
def IsWeb (scheme : String) : Prop := scheme = "http" ∨ scheme = "https"

/-- Whether a character ends the authority of a web URL. -/
def endsAuthority (c : Char) : Bool := isSeparator true c || endsPath c

/-- What is left of a text that ends a URL when it is cleaned. -/
def cleanEnd (t : List Char) : List Char :=
  (trimEnd isEdgeBlank t).filter (!isDropped ·)

/-- What a URL says behind the slashes of its scheme, when the text `t` ends it. -/
def afterSlashes (t : List Char) : List Char :=
  (cleanEnd t).dropWhile (isSeparator true)

/-- The URL of an authority and of what follows it. -/
def ofAuthority (scheme : String) (a : Authority) (rest : List Char) : Url :=
  let u : Url := {
    scheme, username := a.username, password := a.password, host := some a.host, port := a.port
    path := .segments (pathBehind true (rest.takeWhile (!endsPath ·))) }
  u.withTail (rest.dropWhile (!endsPath ·))

@[simp] theorem scheme_ofAuthority (scheme : String) (a : Authority) (rest : List Char) :
    (ofAuthority scheme a rest).scheme = scheme := rfl

@[simp] theorem host_ofAuthority (scheme : String) (a : Authority) (rest : List Char) :
    (ofAuthority scheme a rest).host = some a.host := rfl

@[simp] theorem port_ofAuthority (scheme : String) (a : Authority) (rest : List Char) :
    (ofAuthority scheme a rest).port = a.port := rfl

variable {scheme : String}

/-! ## Reading -/

theorem clean_web (web : IsWeb scheme) (t : List Char) :
    clean (scheme.toList ++ ':' :: '/' :: '/' :: t) =
      scheme.toList ++ ':' :: '/' :: '/' :: cleanEnd t := by
  have slash : trimEnd isEdgeBlank (scheme.toList ++ ':' :: '/' :: '/' :: t) =
      scheme.toList ++ ':' :: '/' :: '/' :: trimEnd isEdgeBlank t := by
    have h := trimEnd_append_cons (p := isEdgeBlank) (c := '/') (by decide)
      (scheme.toList ++ [':', '/']) t
    simpa using h
  rcases web with rfl | rfl
  · have start : ("http".toList ++ ':' :: '/' :: '/' :: t).dropWhile isEdgeBlank =
        "http".toList ++ ':' :: '/' :: '/' :: t := rfl
    rw [clean, start, slash, List.filter_append]
    rfl
  · have start : ("https".toList ++ ':' :: '/' :: '/' :: t).dropWhile isEdgeBlank =
        "https".toList ++ ':' :: '/' :: '/' :: t := rfl
    rw [clean, start, slash, List.filter_append]
    rfl

theorem scheme?_web (web : IsWeb scheme) (t : List Char) :
    scheme? (scheme.toList ++ ':' :: t) = some (scheme, t) := by
  rcases web with rfl | rfl
  · rfl
  · rfl

theorem absolute?_web (web : IsWeb scheme) (t : List Char) :
    absolute? scheme t = behindSlashes? scheme (t.dropWhile (isSeparator true)) := by
  rcases web with rfl | rfl <;> rfl

theorem isSpecial_web (web : IsWeb scheme) : isSpecial scheme = true := by
  rcases web with rfl | rfl <;> rfl

/-! ## Authorities -/

/-- What stands behind a port is a separator or ends the path. -/
theorem port?_eq_some {behind rest : List Char} {port : Option Nat}
    (start : behind = [] ∨ ∃ digits, behind = ':' :: digits)
    (inside : ∀ c ∈ behind, endsAuthority c = false)
    (h : port? scheme behind = some (port, rest)) :
    rest = [] ∧ ∀ c ∈ behind, c = ':' ∨ c.isDigit = true := by
  rcases start with rfl | ⟨digits, rfl⟩
  · obtain ⟨-, rfl⟩ := Prod.mk.inj (Option.some.inj h)
    exact ⟨rfl, by simp⟩
  · rw [List.forall_mem_cons] at inside
    rw [port?] at h
    split at h
    · cases h
    · next accepted =>
      obtain ⟨-, rfl⟩ := Prod.mk.inj (Option.some.inj h)
      have done : digits.dropWhile Char.isDigit = [] := by
        cases hd : digits.dropWhile Char.isDigit with
        | nil => rfl
        | cons c rest =>
          have hc : c ∈ digits :=
            (List.dropWhile_suffix _).subset (hd ▸ List.mem_cons_self)
          have := inside.2 c hc
          simp_all [endsAuthority]
      refine ⟨done, List.forall_mem_cons.2 ⟨.inl rfl, fun c hc => .inr ?_⟩⟩
      exact List.dropWhile_eq_nil_iff.1 done c hc

/-- The host and the port in the text of an authority. -/
def hostAndPort (text : List Char) : List Char × List Char :=
  Host.splitPort false (splitUserinfo text).2

theorem hostAndPort_append (text : List Char) :
    (hostAndPort text).1 ++ (hostAndPort text).2 = (splitUserinfo text).2 :=
  Host.splitPort_append _ _

theorem splitUserinfo_subset (text : List Char) : (splitUserinfo text).2 ⊆ text := by
  rw [splitUserinfo]
  split
  · intro c hc
    rw [List.mem_reverse] at hc
    exact List.mem_reverse.1 ((List.takeWhile_prefix _).subset hc)
  · exact List.Subset.refl _

/-- An authority that can be read has a host and a port that can be read. -/
theorem of_authority? (web : IsWeb scheme) {text rest behind : List Char} {a : Authority}
    (h : authority? scheme text rest = some (a, behind)) :
    Host.parse? true (hostAndPort text).1 = some a.host ∧
      ∃ left, port? scheme (hostAndPort text).2 = some (a.port, left) := by
  unfold authority? at h
  simp only [isSpecial_web web] at h
  split at h
  · simp at h
  · obtain ⟨host, hhost, h⟩ := Option.bind_eq_some_iff.1 h
    obtain ⟨⟨port, left⟩, hport, h⟩ := Option.bind_eq_some_iff.1 h
    obtain ⟨rfl, -⟩ := Prod.mk.inj (Option.some.inj h)
    exact ⟨hhost, left, hport⟩

theorem inside_hostAndPort {text : List Char} (inside : ∀ c ∈ text, endsAuthority c = false) :
    ∀ c ∈ (hostAndPort text).2, endsAuthority c = false := fun c hc =>
  inside c (splitUserinfo_subset text (hostAndPort_append text ▸ List.mem_append_right _ hc))

/-- What follows the authority of a web URL has no say in it. -/
theorem authority?_web (web : IsWeb scheme) {text : List Char}
    (inside : ∀ c ∈ text, endsAuthority c = false) (rest : List Char) :
    authority? scheme text rest =
      (authority? scheme text []).map fun (a, _) => (a, rest) := by
  unfold authority?
  simp only [isSpecial_web web]
  split
  · simp
  · cases hhost : Host.parse? true (hostAndPort text).1 with
    | none => simp_all [hostAndPort]
    | some host =>
      cases hport : port? scheme (hostAndPort text).2 with
      | none => simp_all [hostAndPort]
      | some p =>
        have := (port?_eq_some (Host.splitPort_snd _ _) (inside_hostAndPort inside) hport).1
        simp_all [hostAndPort]

/-- Where no user is named, there is no name and no password. -/
theorem anonymous_of_authority? (web : IsWeb scheme) {text rest behind : List Char} {a : Authority}
    (anonymous : '@' ∉ text) (h : authority? scheme text rest = some (a, behind)) :
    a.username = "" ∧ a.password = none := by
  unfold authority? at h
  simp only [isSpecial_web web, splitUserinfo, if_neg anonymous] at h
  split at h
  · simp at h
  · obtain ⟨host, -, h⟩ := Option.bind_eq_some_iff.1 h
    obtain ⟨⟨port, left⟩, -, h⟩ := Option.bind_eq_some_iff.1 h
    obtain ⟨rfl, -⟩ := Prod.mk.inj (Option.some.inj h)
    exact ⟨rfl, rfl⟩

/-- No authority ends with a blank. -/
theorem authority?_eq_none_of_blank (web : IsWeb scheme) {text : List Char} {c : Char}
    (inside : ∀ d ∈ text ++ [c], endsAuthority d = false) (blank : isEdgeBlank c = true)
    (rest : List Char) : authority? scheme (text ++ [c]) rest = none := by
  have blank : Domain.IsBlank c.toNat := of_decide_eq_true blank
  obtain ⟨place, hplace⟩ : ∃ place, (splitUserinfo (text ++ [c])).2 = place ++ [c] := by
    have at_sign : c ≠ '@' := by
      rintro rfl
      revert blank
      decide
    rw [splitUserinfo]
    split
    · exact ⟨(text.reverse.takeWhile (· != '@')).reverse, by simp [at_sign]⟩
    · exact ⟨text, rfl⟩
  -- The last character belongs to the port if there is one, and to the host if not.
  cases h : authority? scheme (text ++ [c]) rest with
  | none => rfl
  | some result =>
    obtain ⟨hhost, left, hport⟩ := of_authority? web h
    have whole := hostAndPort_append (text ++ [c])
    rw [hplace] at whole
    rcases List.eq_nil_or_concat (hostAndPort (text ++ [c])).2 with empty | ⟨behind, d, hd⟩
    · rw [empty, List.append_nil] at whole
      rw [whole, Host.parse?_eq_none_of_blank blank] at hhost
      cases hhost
    · have last : d ∈ (hostAndPort (text ++ [c])).2 := by simp [hd]
      rw [hd, List.concat_eq_append, ← List.append_assoc] at whole
      obtain ⟨-, same⟩ := List.append_inj' whole rfl
      obtain rfl := List.singleton_inj.1 same
      have shown := (port?_eq_some (Host.splitPort_snd _ _) (inside_hostAndPort inside) hport).2 d
        last
      have hidden : ¬(d = ':' ∨ d.isDigit = true) :=
        Domain.forall_isBlank (fun c => ¬(c = ':' ∨ c.isDigit = true)) (by decide) blank
      exact absurd shown hidden

/-! ## Whole URLs -/

theorem behindSlashes?_web (web : IsWeb scheme) (place : List Char) :
    behindSlashes? scheme place =
      (authority? scheme (place.takeWhile (!endsAuthority ·))
        (place.dropWhile (!endsAuthority ·))).map fun (a, rest) => ofAuthority scheme a rest := by
  rw [Option.map_eq_bind]
  simp only [behindSlashes?, isSpecial_web web]
  rfl

/-- A web URL by its authority and by what follows it. -/
theorem parse?_web (web : IsWeb scheme) {s : String} {t : List Char}
    (hs : s.toList = scheme.toList ++ ':' :: '/' :: '/' :: t) :
    parse? s =
      (authority? scheme ((afterSlashes t).takeWhile (!endsAuthority ·)) []).map fun (a, _) =>
        ofAuthority scheme a ((afterSlashes t).dropWhile (!endsAuthority ·)) := by
  have slashes (t : List Char) : ('/' :: '/' :: t).dropWhile (isSeparator true) =
      t.dropWhile (isSeparator true) := rfl
  have inside (place : List Char) :
      ∀ c ∈ place.takeWhile (!endsAuthority ·), endsAuthority c = false :=
    fun c hc => by simpa using List.mem_takeWhile_imp hc
  rw [parse?, hs, clean_web web, scheme?_web web, Option.bind_some]
  simp only [absolute?_web web, slashes, behindSlashes?_web web]
  rw [authority?_web web (inside _), Option.map_map]
  rfl

theorem scheme_of_parse? (web : IsWeb scheme) {s : String} {t : List Char} {u : Url}
    (hs : s.toList = scheme.toList ++ ':' :: '/' :: '/' :: t) (h : parse? s = some u) :
    u.scheme = scheme := by
  rw [parse?_web web hs] at h
  obtain ⟨a, -, rfl⟩ := Option.map_eq_some_iff.1 h
  rfl

theorem endsAuthority_of_isEdgeBlank {c : Char} (blank : isEdgeBlank c = true) :
    endsAuthority c = false :=
  Domain.forall_isBlank (endsAuthority · = false) (by decide) (of_decide_eq_true blank)

theorem takeWhile_endsAuthority {place : List Char} (inside : ∀ c ∈ place, endsAuthority c = false)
    {c : Char} (hc : endsAuthority c = true) (rest : List Char) :
    (place ++ c :: rest).takeWhile (!endsAuthority ·) = place := by
  rw [List.takeWhile_append_of_pos fun d hd => by simp [inside d hd],
    List.takeWhile_cons_of_neg (by simp [hc]), List.append_nil]

/-- A web URL names a place. -/
theorem named_of_parse? (web : IsWeb scheme) {s : String} {t : List Char} {u : Url}
    (hs : s.toList = scheme.toList ++ ':' :: '/' :: '/' :: t) (h : parse? s = some u) :
    ∃ c ∈ t, isSeparator true c = false ∧ isDropped c = false := by
  by_contra! unnamed
  have slashes : ∀ c ∈ cleanEnd t, isSeparator true c = true := by
    intro c hc
    obtain ⟨hc, kept⟩ := List.mem_filter.1 hc
    have hc : c ∈ t := List.mem_reverse.1 ((List.dropWhile_suffix _).subset (List.mem_reverse.1 hc))
    by_contra plain
    exact unnamed c hc (Bool.not_eq_true _ ▸ plain) (by simpa using kept)
  have empty : afterSlashes t = [] := List.dropWhile_eq_nil_iff.2 slashes
  have nowhere : authority? scheme [] [] = none := by
    rcases web with rfl | rfl <;> rfl
  rw [parse?_web web hs, empty, List.takeWhile_nil, nowhere] at h
  cases h

theorem isDropped_of_shown {c : Char} (shown : isEdgeBlank c = false) : isDropped c = false := by
  rw [isDropped, Bool.or_eq_false_iff, Bool.or_eq_false_iff]
  refine ⟨⟨?_, ?_⟩, ?_⟩ <;>
  · rw [decide_eq_false_iff_not]
    rintro rfl
    cases shown

theorem filter_of_shown {t : List Char} (shown : ∀ c ∈ t, isEdgeBlank c = false) :
    t.filter (!isDropped ·) = t :=
  List.filter_eq_self.2 fun c hc => by simp [isDropped_of_shown (shown c hc)]

theorem trimEnd_append_of_shown {t rest : List Char} (ne : rest ≠ [])
    (shown : ∀ c ∈ rest, isEdgeBlank c = false) :
    trimEnd isEdgeBlank (t ++ rest) = t ++ rest := by
  obtain empty | ⟨s, c, rfl⟩ := List.eq_nil_or_concat rest
  · exact absurd empty ne
  · rw [List.concat_eq_append] at shown ⊢
    rw [← List.append_assoc, trimEnd_append_singleton (shown c (by simp))]

/-- A text that is put behind another keeps the blanks at the end of the other. -/
theorem cleanEnd_append {t rest : List Char} (ne : rest ≠ [])
    (shown : ∀ c ∈ rest, isEdgeBlank c = false) :
    ∃ blank, (∀ c ∈ blank, isEdgeBlank c = true) ∧
      t.filter (!isDropped ·) = cleanEnd t ++ blank ∧
      cleanEnd (t ++ rest) = cleanEnd t ++ blank ++ rest := by
  obtain ⟨cut, parts, blank⟩ := exists_eq_trimEnd_append isEdgeBlank t
  have filtered : t.filter (!isDropped ·) = cleanEnd t ++ cut.filter (!isDropped ·) := by
    rw [cleanEnd, ← List.filter_append, ← parts]
  refine ⟨_, fun c hc => blank c (List.mem_of_mem_filter hc), filtered, ?_⟩
  rw [cleanEnd, trimEnd_append_of_shown ne shown, List.filter_append, filter_of_shown shown,
    filtered]

/-- The slashes in front of an address that names a place do not reach what is put behind it. -/
theorem dropWhile_isSeparator_append {front blank : List Char}
    (hblank : ∀ c ∈ blank, isEdgeBlank c = true)
    (named : ∃ c ∈ front ++ blank, isSeparator true c = false) (rest : List Char) :
    (front ++ blank ++ rest).dropWhile (isSeparator true) =
      front.dropWhile (isSeparator true) ++ blank ++ rest := by
  have stays : (front ++ blank).dropWhile (isSeparator true) =
      front.dropWhile (isSeparator true) ++ blank := by
    have none_dropped : blank.dropWhile (isSeparator true) = blank := by
      cases blank with
      | nil => rfl
      | cons c s =>
        have hc := endsAuthority_of_isEdgeBlank (hblank c List.mem_cons_self)
        rw [endsAuthority, Bool.or_eq_false_iff] at hc
        exact List.dropWhile_cons_of_neg (by simp [hc.1])
    rw [List.dropWhile_append, none_dropped]
    split
    · next empty => rw [List.isEmpty_iff.1 empty, List.nil_append]
    · rfl
  have left : (front ++ blank).dropWhile (isSeparator true) ≠ [] := by
    rw [Ne, List.dropWhile_eq_nil_iff]
    obtain ⟨c, hc, plain⟩ := named
    intro all
    simp [all c hc] at plain
  rw [List.dropWhile_append, if_neg (by simpa using left), stays]

/-- What is put behind an address that names a place, from a slash on, does not change where the
address leads. If blanks end the address, no authority is left. -/
theorem site_of_append (web : IsWeb scheme) {address s : String} {t rest : List Char} {u : Url}
    (haddress : address.toList = scheme.toList ++ ':' :: '/' :: '/' :: t)
    (hs : s.toList = address.toList ++ '/' :: rest)
    (named : ∃ c ∈ t, isSeparator true c = false ∧ isDropped c = false)
    (shown : ∀ c ∈ '/' :: rest, isEdgeBlank c = false) (h : parse? s = some u) :
    ∃ v, parse? address = some v ∧ v.scheme = u.scheme ∧ v.host = u.host ∧ v.port = u.port := by
  obtain ⟨blank, hblank, filtered, hclean⟩ := cleanEnd_append (t := t) (List.cons_ne_nil _ _) shown
  rw [haddress, List.append_assoc, List.cons_append, List.cons_append, List.cons_append] at hs
  have still : ∃ c ∈ cleanEnd t ++ blank, isSeparator true c = false := by
    obtain ⟨c, hc, plain, keep⟩ := named
    exact ⟨c, filtered ▸ List.mem_filter.2 ⟨hc, by simp [keep]⟩, plain⟩
  have after : afterSlashes (t ++ '/' :: rest) = afterSlashes t ++ blank ++ '/' :: rest := by
    rw [afterSlashes, hclean, dropWhile_isSeparator_append hblank still, afterSlashes]
  rw [parse?_web web hs, after] at h
  rw [parse?_web web haddress]
  generalize afterSlashes t = place at h ⊢
  have inside : ∀ c ∈ place.takeWhile (!endsAuthority ·), endsAuthority c = false :=
    fun c hc => by simpa using List.mem_takeWhile_imp hc
  suffices same : (place ++ blank ++ '/' :: rest).takeWhile (!endsAuthority ·) =
      place.takeWhile (!endsAuthority ·) by
    simp only [same, Option.map_eq_some_iff] at h ⊢
    obtain ⟨a, ha, rfl⟩ := h
    exact ⟨_, ⟨a, ha, rfl⟩, rfl, rfl, rfl⟩
  -- Where something ends the authority of the address, what is put behind it does not matter. Where
  -- nothing does, the authority goes on with the blanks up to the slash, and blanks would end it.
  cases hend : place.dropWhile (!endsAuthority ·) with
  | cons c tail =>
    have hc : endsAuthority c = true := by
      have := List.head?_dropWhile_not (!endsAuthority ·) place
      simpa [hend] using this
    have parts := List.takeWhile_append_dropWhile (p := (!endsAuthority ·)) (l := place)
    rw [hend] at parts
    conv_lhs => rw [← parts]
    rw [List.append_assoc, List.append_assoc, List.cons_append, takeWhile_endsAuthority inside hc]
  | nil =>
    have all : place.takeWhile (!endsAuthority ·) = place := by
      have parts := List.takeWhile_append_dropWhile (p := (!endsAuthority ·)) (l := place)
      rwa [hend, List.append_nil] at parts
    rw [all] at inside ⊢
    have both : ∀ c ∈ place ++ blank, endsAuthority c = false :=
      List.forall_mem_append.2 ⟨inside, fun c hc => endsAuthority_of_isEdgeBlank (hblank c hc)⟩
    have text := takeWhile_endsAuthority both (c := '/') (by decide) rest
    rw [text] at h ⊢
    rcases List.eq_nil_or_concat blank with rfl | ⟨blank, c, rfl⟩
    · exact List.append_nil _
    · rw [List.concat_eq_append, ← List.append_assoc] at both h
      rw [authority?_eq_none_of_blank web both (hblank c (by simp))] at h
      cases h

/-- Where an address is nothing but a place, what is put behind it is the path, the query and the
fragment. -/
theorem parse?_behind (web : IsWeb scheme) {s : String} {place rest : List Char}
    (hs : s.toList = scheme.toList ++ ':' :: '/' :: '/' :: (place ++ rest)) (ne : place ≠ [])
    (inside : ∀ c ∈ place, endsAuthority c = false)
    (ends : ∀ c ∈ rest.head?, endsAuthority c = true)
    (shown : ∀ c ∈ place ++ rest, isEdgeBlank c = false) :
    parse? s = (authority? scheme place []).map fun (a, _) => ofAuthority scheme a rest := by
  have whole : afterSlashes (place ++ rest) = place ++ rest := by
    have clean : cleanEnd (place ++ rest) = place ++ rest := by
      have whole : trimEnd isEdgeBlank (place ++ rest) = place ++ rest :=
        trimEnd_append_of_shown (t := []) (by simp [ne]) shown
      rw [cleanEnd, whole, filter_of_shown shown]
    obtain ⟨c, place, rfl⟩ := List.exists_cons_of_ne_nil ne
    have first := inside c List.mem_cons_self
    rw [endsAuthority, Bool.or_eq_false_iff] at first
    rw [afterSlashes, clean, List.cons_append, List.dropWhile_cons_of_neg (by simp [first.1])]
  have all : ∀ c ∈ place, (!endsAuthority c) = true := fun c hc => by simp [inside c hc]
  have takes : rest.takeWhile (!endsAuthority ·) = [] := by
    cases rest with
    | nil => rfl
    | cons c rest => exact List.takeWhile_cons_of_neg (by simp [ends c rfl])
  have drops : rest.dropWhile (!endsAuthority ·) = rest := by
    cases rest with
    | nil => rfl
    | cons c rest => exact List.dropWhile_cons_of_neg (by simp [ends c rfl])
  rw [parse?_web web hs, whole, List.takeWhile_append_of_pos all, List.dropWhile_append_of_pos all,
    takes, drops, List.append_nil]

/-- The URL with a path only. -/
theorem ofAuthority_path (scheme : String) (a : Authority) {rest : List Char}
    (path : ∀ c ∈ rest, endsPath c = false) :
    ofAuthority scheme a ('/' :: rest) =
      { ofAuthority scheme a [] with path := .segments (segments true [] rest) } := by
  have all : ∀ c ∈ '/' :: rest, (!endsPath c) = true :=
    List.forall_mem_cons.2 ⟨by decide, fun c hc => by simp [path c hc]⟩
  rw [ofAuthority, List.takeWhile_eq_self_iff.2 all, List.dropWhile_eq_nil_iff.2 all]
  rfl

end Url

end SecretTemplate
