import SecretTemplate.Proofs.Vault.Target

/-!
# What an endpoint shows

Behind the address and `/v1/` the URL of a read shows the mount, for engines of version 2 `data`,
and the segments of the path, with everything in them escaped that could be taken for something
else. So the mount and the path can be read off the URL again, a mount with slashes in it and empty
segments included, and no two secrets of an engine have the same URL.

Results:
1. `Percent.isComplete_encode`: every escape is complete.
2. `Endpoint.url_eq`: the URL of a read by its parts.
3. `Endpoint.url_shows`: what the URL of a read shows, and that it shows the read.
-/

namespace SecretTemplate

open Text

namespace Text.Percent

/-- Whether two hexadecimal digits stand behind every percent sign. -/
def IsComplete (s : List Char) : Prop :=
  ∀ front back, s = front ++ '%' :: back →
    ∃ a b rest, back = a :: b :: rest ∧ (digit? 16 a).isSome ∧ (digit? 16 b).isSome

theorem isComplete_of_not_mem {s : List Char} (h : '%' ∉ s) : IsComplete s := by
  rintro front back rfl
  exact absurd (List.mem_append_right front List.mem_cons_self) h

theorem isComplete_escapeByte (b : UInt8) : IsComplete (escapeByte b) := by
  have hb := b.toNat_lt
  have digit {n : Nat} (h : n < 16) : hexDigit n ≠ '%' ∧ (digit? 16 (hexDigit n)).isSome := by
    have all : ∀ m : Fin 16, hexDigit m ≠ '%' ∧ (digit? 16 (hexDigit m)).isSome := by decide
    exact all ⟨n, h⟩
  have high := digit (n := b.toNat / 16) (by omega)
  have low := digit (n := b.toNat % 16) (by omega)
  intro front back split
  cases front with
  | nil =>
    obtain ⟨-, rfl⟩ := List.cons.inj split
    exact ⟨_, _, [], rfl, high.2, low.2⟩
  | cons c front =>
    obtain ⟨-, later⟩ := List.cons.inj split
    have mark : '%' ∈ [hexDigit (b.toNat / 16), hexDigit (b.toNat % 16)] := by simp [later]
    simp only [List.mem_cons, List.not_mem_nil, or_false] at mark
    exact (mark.elim high.1.symm low.1.symm).elim

theorem IsComplete.append {s t : List Char} (hs : IsComplete s) (ht : IsComplete t) :
    IsComplete (s ++ t) := by
  intro front back split
  rcases List.append_eq_append_iff.1 split with ⟨more, rfl, rest⟩ | ⟨more, rfl, rest⟩
  · exact ht more back rest
  · cases more with
    | nil => exact ht [] back rest.symm
    | cons c more =>
      obtain ⟨rfl, rfl⟩ := List.cons.inj rest
      obtain ⟨a, b, behind, rfl, digits⟩ := hs front more rfl
      exact ⟨a, b, behind ++ t, rfl, digits⟩

theorem isComplete_flatMap {α : Type} {f : α → List Char} {l : List α}
    (h : ∀ a ∈ l, IsComplete (f a)) : IsComplete (l.flatMap f) := by
  induction l with
  | nil => exact isComplete_of_not_mem List.not_mem_nil
  | cons a l ih =>
    rw [List.forall_mem_cons] at h
    exact h.1.append (ih h.2)

/-- Every escape of a text is complete. -/
theorem isComplete_encode {allowed : Char → Bool} (escaped : allowed '%' = false) (s : List Char) :
    IsComplete (encode allowed s) := by
  refine isComplete_flatMap fun c _ => ?_
  unfold encodeChar
  split
  · next shown =>
    refine isComplete_of_not_mem fun mark => ?_
    rw [← List.mem_singleton.1 mark, escaped, Bool.and_false] at shown
    cases shown
  · exact isComplete_flatMap fun b _ => isComplete_escapeByte b

/-- Separators keep escapes complete. -/
theorem isComplete_intercalate {pieces : List (List Char)} (h : ∀ p ∈ pieces, IsComplete p) :
    IsComplete (['/'].intercalate pieces) := by
  have slash : IsComplete ['/'] := isComplete_of_not_mem (by decide)
  induction pieces with
  | nil => exact isComplete_of_not_mem List.not_mem_nil
  | cons p ps ih =>
    rw [List.forall_mem_cons] at h
    cases ps with
    | nil =>
      rw [List.intercalate_singleton]
      exact h.1
    | cons q qs =>
      rw [List.intercalate_cons_cons]
      exact (h.1.append slash).append (ih h.2)

end Text.Percent

namespace Endpoint

/-- The names that the URL of a read shows behind `v1`. -/
theorem names_eq (q : Read) :
    q.names = "v1" :: q.mount ::
      ((match q.engine with | .v1 => [] | .v2 => ["data"]) ++ q.segments) := rfl

/-- What the URL of a read shows behind the address and `/v1/`. -/
def shown (q : Read) : String :=
  String.ofList (['/'].intercalate (q.names.tail.map fun n => Percent.encode isPlain n.toList))

theorem toList_shown (q : Read) : (shown q).toList =
    ['/'].intercalate (q.names.tail.map fun n => Percent.encode isPlain n.toList) :=
  String.toList_ofList

/-- The URL of a read by its parts. -/
theorem url_eq (address : String) (q : Read) :
    url address q = base address ++ "/v1/" ++ shown q := by
  have v1 : Percent.encode isPlain "v1".toList = "v1".toList := by decide
  have parts : text q = "v1/".toList ++ (shown q).toList := by
    rw [toList_shown, text, names_eq, List.tail_cons, List.map_cons, List.map_cons,
      List.intercalate_cons_cons, v1]
    rfl
  rw [← String.toList_inj, toList_url, parts, String.toList_append, String.toList_append,
    List.append_assoc]
  rfl

theorem names?_shown (q : Read) : names? (shown q) = some q.names.tail :=
  names?_intercalate (by simp [names_eq])

theorem shown_injective {p q : Read} (engine : p.engine = q.engine) (same : shown p = shown q) :
    p = q := by
  have tails := names?_shown p
  rw [same, names?_shown, Option.some.injEq] at tails
  have names : p.names = q.names := by
    rw [names_eq p, names_eq q] at tails ⊢
    exact congrArg ("v1" :: ·) tails.symm
  exact Read.eq_of_names engine names

/-- What escaping leaves is printable, and stands for nothing in a URL. -/
theorem IsShown.printable {c : Char} (h : IsShown c) :
    0x20 < c.toNat ∧ c.toNat < 0x7F ∧
      c ∉ ['?', '#', '"', '<', '>', '\x60', '\x7b', '\x7d'] := by
  refine forall_isShown (fun c => 0x20 < c.toNat ∧ c.toNat < 0x7F ∧
    c ∉ ['?', '#', '"', '<', '>', '\x60', '\x7b', '\x7d']) ?_ h
  decide

/-- The URL of a read shows the mount and the segments of the path behind the address. What is shown
is printable and has no meaning in a URL but for the slashes and complete escapes, and it shows
which secret of an engine the URL is for. -/
theorem url_shows (address : String) (q : Read) :
    ∃ shown : String, url address q = base address ++ "/v1/" ++ shown ∧
      names? shown = some
        (q.mount :: ((match q.engine with | .v1 => [] | .v2 => ["data"]) ++ q.segments)) ∧
      (∀ c ∈ shown.toList, 0x20 < c.toNat ∧ c.toNat < 0x7F ∧
        c ∉ ['?', '#', '"', '<', '>', '\x60', '\x7b', '\x7d']) ∧
      Percent.IsComplete shown.toList ∧
      ∀ mount path, url address ⟨q.engine, mount, path⟩ = url address q ↔
        mount = q.mount ∧ path = q.path := by
  refine ⟨shown q, url_eq address q, names?_shown q, fun c hc => ?_, ?_, fun mount path => ?_⟩
  · rw [toList_shown] at hc
    rcases mem_intercalate_iff.1 hc with ⟨piece, hpiece, hc⟩ | ⟨rfl, -⟩
    · obtain ⟨n, -, rfl⟩ := List.mem_map.1 hpiece
      exact (isShown_encode _ c hc).printable
    · decide
  · rw [toList_shown]
    refine Percent.isComplete_intercalate ?_
    rw [List.forall_mem_map]
    exact fun n _ => Percent.isComplete_encode (by decide) _
  · constructor
    · intro same
      rw [url_eq, url_eq, String.append_right_inj] at same
      have alike : (⟨q.engine, mount, path⟩ : Read).engine = q.engine := rfl
      have read := shown_injective alike same
      exact ⟨congrArg Read.mount read, congrArg Read.path read⟩
    · rintro ⟨rfl, rfl⟩
      rfl

end Endpoint

end SecretTemplate
