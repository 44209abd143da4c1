import SecretTemplate.Proofs.Url.Site

/-!
# Users in web URLs

What stands in front of the last `@` of an authority is a name and a password, whatever it looks
like. It may hold further `@`, colons, brackets, or what would be a host if it stood alone: the
place is what follows. A web URL with a user leads where the URL without the user leads.

Results:
1. `splitUserinfo_append_snd`: what is put in front of an `@` does not change the place.
2. `authority?_congr`: the place decides about the host and the port.
3. `parse?_userinfo`: a user in a web URL changes the name and the password only.
-/

namespace SecretTemplate

open Text

namespace Url

variable {scheme : String}

/-- A URL without the name and the password in it. -/
def anonymous (u : Url) : Url := { u with username := "", password := none }

/-! ## Authorities -/

/-- What is put in front of an `@` does not change the place. -/
theorem splitUserinfo_append_snd (user text : List Char) :
    (splitUserinfo (user ++ '@' :: text)).2 = (splitUserinfo text).2 := by
  by_cases more : '@' ∈ text
  · obtain ⟨back, front, split, last⟩ := List.eq_append_cons_of_mem (List.mem_reverse.2 more)
    have text_eq : text = front.reverse ++ '@' :: back.reverse := by
      rw [← List.reverse_reverse text, split]
      simp
    have last : '@' ∉ back.reverse := by simpa using last
    have whole : user ++ '@' :: text = (user ++ '@' :: front.reverse) ++ '@' :: back.reverse := by
      simp [text_eq]
    rw [whole, text_eq, splitUserinfo_append _ last, splitUserinfo_append _ last]
  · rw [splitUserinfo_append user more, splitUserinfo, if_neg more]

/-- The place in the text of an authority decides about the host and the port. -/
theorem authority?_congr (web : IsWeb scheme) {x y : List Char}
    (place : (splitUserinfo x).2 = (splitUserinfo y).2) (rest : List Char) :
    (authority? scheme x rest).map (fun (a, _) => (a.host, a.port)) =
      (authority? scheme y rest).map fun (a, _) => (a.host, a.port) := by
  unfold authority?
  simp only [isSpecial_web web, place]
  split
  · simp
  · cases Host.parse? true (Host.splitPort false (splitUserinfo y).2).1 with
    | none => rfl
    | some host =>
      cases port? scheme (Host.splitPort false (splitUserinfo y).2).2 with
      | none => rfl
      | some p => rfl

/-! ## Whole URLs -/

/-- A place that starts with neither a slash nor what is dropped starts where the slashes of the
scheme end. -/
theorem afterSlashes_eq_cleanEnd {place : List Char}
    (start : ∀ c ∈ place.head?, isSeparator true c = false ∧ isDropped c = false) :
    afterSlashes place = cleanEnd place := by
  rw [afterSlashes, cleanEnd]
  cases kept : trimEnd isEdgeBlank place with
  | nil => rfl
  | cons c rest =>
    have first : c ∈ place.head? := by
      refine mem_head?_of_isPrefix (trimEnd_isPrefix isEdgeBlank place) ?_
      rw [kept]
      rfl
    obtain ⟨plain, shown⟩ := start c first
    rw [List.filter_cons_of_pos (by simp [shown]), List.dropWhile_cons_of_neg (by simp [plain])]

/-- What a URL with a user says behind the slashes of its scheme. -/
theorem afterSlashes_append {user : List Char} (quiet : ∀ c ∈ user, endsAuthority c = false)
    (place : List Char) :
    afterSlashes (user ++ '@' :: place) = user.filter (!isDropped ·) ++ '@' :: cleanEnd place := by
  have whole : cleanEnd (user ++ '@' :: place) =
      user.filter (!isDropped ·) ++ '@' :: cleanEnd place := by
    rw [cleanEnd, trimEnd_append_cons (by decide), List.filter_append,
      List.filter_cons_of_pos (by decide), cleanEnd]
  rw [afterSlashes, whole]
  cases shown : user.filter (!isDropped ·) with
  | nil => rfl
  | cons c rest =>
    have hc : c ∈ user := List.mem_of_mem_filter (shown ▸ List.mem_cons_self)
    have first := quiet c hc
    rw [endsAuthority, Bool.or_eq_false_iff] at first
    rw [List.cons_append, List.dropWhile_cons_of_neg (by simp [first.1])]

/-- A user in a web URL changes the name and the password only. -/
theorem parse?_userinfo (web : IsWeb scheme) {s t : String} {user place : List Char}
    (hs : s.toList = scheme.toList ++ ':' :: '/' :: '/' :: (user ++ '@' :: place))
    (ht : t.toList = scheme.toList ++ ':' :: '/' :: '/' :: place)
    (quiet : ∀ c ∈ user, endsAuthority c = false)
    (start : ∀ c ∈ place.head?, isSeparator true c = false ∧ isDropped c = false) :
    (parse? s).map anonymous = (parse? t).map anonymous := by
  -- Of the authority a URL keeps the host and the port when the user is left out.
  have anonymous_eq (text rest : List Char) :
      ((authority? scheme text []).map fun (a, _) => ofAuthority scheme a rest).map anonymous =
        ((authority? scheme text []).map fun (a, _) => (a.host, a.port)).map
          fun (host, port) => ofAuthority scheme { host, port } rest := by
    rw [Option.map_map, Option.map_map]
    rfl
  have inside : ∀ c ∈ user.filter (!isDropped ·) ++ ['@'], (!endsAuthority c) = true := by
    intro c hc
    rcases List.mem_append.1 hc with hc | hc
    · rw [quiet c (List.mem_of_mem_filter hc)]
      rfl
    · rw [List.mem_singleton.1 hc]
      rfl
  have split : user.filter (!isDropped ·) ++ '@' :: cleanEnd place =
      user.filter (!isDropped ·) ++ ['@'] ++ cleanEnd place := by simp
  rw [parse?_web web hs, parse?_web web ht, afterSlashes_append quiet,
    afterSlashes_eq_cleanEnd start, split, List.takeWhile_append_of_pos inside,
    List.dropWhile_append_of_pos inside, anonymous_eq, anonymous_eq, List.append_assoc,
    List.singleton_append, authority?_congr web (splitUserinfo_append_snd _ _)]

end Url

end SecretTemplate
