/-!
# Tables of characters

Sets and mappings of characters as lists in increasing order. A set is a list of ranges. A mapping
to single characters is a list of runs: the characters from `first` to `last` in steps of `step` are
mapped by adding `delta`.
-/

namespace SecretTemplate.Text

/-- Characters in arithmetic progression whose images lie at one distance. -/
structure Run where
  first : Nat
  last : Nat
  step : Nat
  delta : Int

namespace Run

def covers (r : Run) (n : Nat) : Bool :=
  r.first ≤ n && n ≤ r.last && (n - r.first) % r.step == 0

def image (r : Run) (n : Nat) : Nat :=
  (n + r.delta).toNat

/-- The image of `n` under the first run that covers it; the runs are in increasing order. -/
def lookup : List Run → Nat → Option Nat
  | [], _ => none
  | r :: rs, n =>
    if n < r.first then none
    else if r.covers n then some (r.image n)
    else lookup rs n

end Run

/-- Whether `n` lies in one of the ranges, which are in increasing order. -/
def inRanges : List (Nat × Nat) → Nat → Bool
  | [], _ => false
  | (first, last) :: rest, n =>
    if n < first then false else if n ≤ last then true else inRanges rest n

/-- What a list in increasing order of its keys has for `n`. -/
def valueAt? {α : Type} : List (Nat × α) → Nat → Option α
  | [], _ => none
  | (key, a) :: rest, n => if n < key then none else if n = key then some a else valueAt? rest n

end SecretTemplate.Text
