/-!
# Blank characters

A character is blank when it has the Unicode property `White_Space`. Trimming removes the longest
run of blank characters at either end of a text and touches nothing else.

Results:
1. `trimEnd_append_singleton`: a text whose last character is kept is not shortened at its end.
2. `dropWhile_trimEnd`: cutting the end leaves a cut start as it is.
-/

namespace SecretTemplate.Text

/-- The Unicode property `White_Space`. -/
def isBlank (c : Char) : Bool :=
  let n := c.val
  (0x09 ≤ n && n ≤ 0x0D) || n == 0x20 || n == 0x85 || n == 0xA0 || n == 0x1680 ||
    (0x2000 ≤ n && n ≤ 0x200A) || n == 0x2028 || n == 0x2029 || n == 0x202F || n == 0x205F ||
    n == 0x3000

/-- The text without its longest final run of characters that satisfy `p`. -/
def trimEnd (p : Char → Bool) (s : List Char) : List Char :=
  (s.reverse.dropWhile p).reverse

/-- The text without the blank characters at its two ends. -/
def trim (s : List Char) : List Char :=
  trimEnd isBlank (s.dropWhile isBlank)

def trimString (s : String) : String :=
  String.ofList (trim s.toList)

def trimEndString (p : Char → Bool) (s : String) : String :=
  String.ofList (trimEnd p s.toList)

@[simp] theorem trimEnd_nil (p : Char → Bool) : trimEnd p [] = [] := rfl

/-- A final character that is kept shields everything before it. -/
theorem trimEnd_append_singleton {p : Char → Bool} {c : Char} (h : p c = false) (s : List Char) :
    trimEnd p (s ++ [c]) = s ++ [c] := by
  simp [trimEnd, h]

/-- A final character that is dropped does not matter. -/
theorem trimEnd_append_drop {p : Char → Bool} {c : Char} (h : p c = true) (s : List Char) :
    trimEnd p (s ++ [c]) = trimEnd p s := by
  simp [trimEnd, h]

/-- Cutting the end of a text whose start is already cut keeps the start cut. -/
theorem dropWhile_trimEnd (p q : Char → Bool) (s : List Char) :
    (trimEnd q (s.dropWhile p)).dropWhile p = trimEnd q (s.dropWhile p) := by
  cases hs : s.dropWhile p with
  | nil => rfl
  | cons c r =>
    have hc : p c = false := by
      have := List.head?_dropWhile_not p s
      simpa [hs] using this
    cases ht : trimEnd q (c :: r) with
    | nil => rfl
    | cons d t =>
      have hpre : trimEnd q (c :: r) <+: c :: r := by
        have := List.dropWhile_suffix (l := (c :: r).reverse) q
        simpa [trimEnd] using List.reverse_prefix.2 this
      rw [ht] at hpre
      obtain ⟨u, hu⟩ := hpre
      have : d = c := by simpa using congrArg List.head? hu
      subst this
      simp [hc]

example : trimString "\u00a0 x y\u2003\n" = "x y" := by decide +kernel
example : trimEndString (· == '/') "https://h//" = "https://h" := by decide +kernel

end SecretTemplate.Text
