/-!
# Literal search

Finding and replacing one text inside another. `after? p s` is what follows `p` at the start of
`s`. `replaceAll old new s` writes `new` for every occurrence of `old`, found from left to right
without overlap.

Results:
1. `after?_eq_some`: `after?` inverts appending.
2. `takeWhile_ne_append`, `dropWhile_ne_append`: where the first of a character is.
-/

namespace SecretTemplate.Text

/-- What follows `p`, if `s` starts with `p`. -/
def after? : List Char → List Char → Option (List Char)
  | [], s => some s
  | _ :: _, [] => none
  | a :: p, b :: s => if a = b then after? p s else none

theorem after?_eq_some {p s r : List Char} : after? p s = some r ↔ s = p ++ r := by
  fun_induction after? p s with
  | case1 s => simp [eq_comm]
  | case2 => simp
  | case3 a p s ih => simp [ih]
  | case4 a p b s h =>
    simp only [reduceCtorEq, List.cons_append, List.cons.injEq, false_iff, not_and]
    intro hb
    exact absurd hb.symm h

@[simp] theorem after?_append (p r : List Char) : after? p (p ++ r) = some r :=
  after?_eq_some.2 rfl

/-- What stands in front of the first `c`. -/
theorem takeWhile_ne_append {α : Type} [BEq α] [LawfulBEq α] {c : α} {s : List α} (h : c ∉ s)
    (t : List α) : (s ++ c :: t).takeWhile (· != c) = s := by
  induction s with
  | nil => simp
  | cons a s ih =>
    simp only [List.mem_cons, not_or] at h
    simp [Ne.symm h.1, ih h.2]

/-- What is left from the first `c` on. -/
theorem dropWhile_ne_append {α : Type} [BEq α] [LawfulBEq α] {c : α} {s : List α} (h : c ∉ s)
    (t : List α) : (s ++ c :: t).dropWhile (· != c) = c :: t := by
  induction s with
  | nil => simp
  | cons a s ih =>
    simp only [List.mem_cons, not_or] at h
    simp [Ne.symm h.1, ih h.2]

/-- The search behind `replaceAll`, where the next `used` characters belong to the last match. -/
def replaceFrom (old new : List Char) : Nat → List Char → List Char
  | _, [] => []
  | used + 1, _ :: s => replaceFrom old new used s
  | 0, c :: s =>
    if (after? old (c :: s)).isSome && old != [] then
      new ++ replaceFrom old new (old.length - 1) s
    else c :: replaceFrom old new 0 s

/-- The text with `new` in place of every occurrence of `old`, from left to right and without
overlap. An empty `old` occurs nowhere. -/
def replaceAll (old new s : List Char) : List Char :=
  replaceFrom old new 0 s

def replaceAllString (old new s : String) : String :=
  String.ofList (replaceAll old.toList new.toList s.toList)

example : replaceAll "aa".toList "b".toList "aaaaa".toList = "bba".toList := by decide

end SecretTemplate.Text
