/-!
# Punycode

Labels in ASCII for labels that are not. The ASCII characters come first, in order. Behind the last
hyphen the other characters follow as insertions, in increasing order: each is a number in a base of
36 with variable digits, which counts how many places and code points lie between it and the
insertion before it.

Results:
1. `threshold_pos`: no threshold of a digit is zero.
2. `value?_digit`: a digit is read back.
-/

namespace SecretTemplate.Punycode

def digit (n : Nat) : Char :=
  if n < 26 then Char.ofNat (0x61 + n) else Char.ofNat (0x30 + (n - 26))

/-- The value of a digit of either case. -/
def value? (c : Char) : Option Nat :=
  let n := c.toNat
  if 0x61 ≤ n ∧ n ≤ 0x7A then some (n - 0x61)
  else if 0x41 ≤ n ∧ n ≤ 0x5A then some (n - 0x41)
  else if 0x30 ≤ n ∧ n ≤ 0x39 then some (n - 0x30 + 26)
  else none

/-- The value below which the digit at place `k` is the last of its number. -/
def threshold (k bias : Nat) : Nat :=
  if k ≤ bias then 1 else if bias + 26 ≤ k then 26 else k - bias

theorem threshold_pos (k bias : Nat) : 1 ≤ threshold k bias := by
  unfold threshold
  split
  · omega
  · split <;> omega

/-- The bias for a distance that has been scaled down, behind `k` places. -/
def settle (k distance : Nat) : Nat :=
  if 455 < distance then settle (k + 36) (distance / 35)
  else k + 36 * distance / (distance + 38)
termination_by distance
decreasing_by omega

/-- The bias for the number behind an insertion at a distance of `distance`, where `count`
characters are there by then. -/
def adapt (distance count : Nat) (first : Bool) : Nat :=
  let d := if first then distance / 700 else distance / 2
  settle 0 (d + d / count)

/-- The digits of a number from place `k` on. -/
def digits (bias k q : Nat) : List Char :=
  let t := threshold k bias
  if q < t then [digit q]
  else digit (t + (q - t) % (36 - t)) :: digits bias (k + 36) ((q - t) / (36 - t))
termination_by q
decreasing_by
  have h := threshold_pos k bias
  calc (q - threshold k bias) / (36 - threshold k bias)
      ≤ q - threshold k bias := Nat.div_le_self _ _
    _ < q := by omega

/-- What is known between two insertions. -/
structure Progress where
  /-- How many characters are there. -/
  count : Nat
  /-- The distance from the last insertion. -/
  distance : Nat := 0
  bias : Nat := 72
  /-- What has been written, the latest part first. -/
  written : List (List Char) := []

/-- The progress behind one character of the label while insertions of `m` are written. -/
def Progress.pass (basic m : Nat) (p : Progress) (c : Nat) : Progress :=
  if c < m then { p with distance := p.distance + 1 }
  else if c = m then
    { count := p.count + 1
      bias := adapt p.distance (p.count + 1) (p.count = basic)
      written := digits p.bias 36 p.distance :: p.written }
  else p

/-- The progress behind the insertions of all the code points, which are in increasing order and
start at `next`. -/
def insertions (label : List Nat) (basic : Nat) : (next : Nat) → List Nat → Progress → Progress
  | _, [], p => p
  | next, m :: ms, p =>
    let p := { p with distance := p.distance + (m - next) * (p.count + 1) }
    let p := label.foldl (Progress.pass basic m) p
    insertions label basic (m + 1) ms { p with distance := p.distance + 1 }

/-- The form of a label in ASCII, without a mark that it is one. -/
def encode (label : List Char) : List Char :=
  let basic := label.filter (·.toNat < 0x80)
  let codes := label.map Char.toNat
  let others := (codes.filter (0x80 ≤ ·)).eraseDups.mergeSort
  let p := insertions codes basic.length 0x80 others { count := basic.length }
  basic ++ (if basic.isEmpty then [] else ['-']) ++ p.written.reverse.flatten

structure Reading where
  /-- What the digits so far add up to, from the place of the last insertion. -/
  sum : Nat
  weight : Nat := 1
  place : Nat := 36

/-- The label that results when the insertions that digits denote are made in `label`, after code
points below `next` have been inserted and the last of them just before `start`. -/
def insertAll (label : List Nat) (next bias start : Nat) (r : Reading) :
    List Char → Option (List Nat)
  | [] => if r.place = 36 then some label else none
  | c :: cs => do
    let d ← value? c
    let sum := r.sum + d * r.weight
    let t := threshold r.place bias
    if d < t then
      let count := label.length + 1
      let n := next + sum / count
      let start' := sum % count
      if 0x110000 ≤ n ∨ (0xD800 ≤ n ∧ n < 0xE000) then none
      else
        insertAll (label.take start' ++ n :: label.drop start') n
          (adapt (sum - start) count (start = 0)) (start' + 1) { sum := start' + 1 } cs
    else insertAll label next bias start ⟨sum, r.weight * (36 - t), r.place + 36⟩ cs

/-- The label that a form in ASCII stands for. -/
def decode? (s : List Char) : Option (List Char) :=
  let rest := s.reverse.takeWhile (· != '-')
  let basic := (s.reverse.drop (rest.length + 1)).reverse
  let tail := if basic.isEmpty then s else rest.reverse
  (insertAll (basic.map Char.toNat) 0x80 72 0 { sum := 0 } tail).map (·.map Char.ofNat)

/-- A digit is read back. -/
theorem value?_digit {n : Nat} (h : n < 36) : value? (digit n) = some n := by
  have all : ∀ m : Fin 36, value? (digit m) = some m.val := by decide
  exact all ⟨n, h⟩

example : encode "bücher".toList = "bcher-kva".toList := by cbv
example : decode? "bcher-kva".toList = some "bücher".toList := by cbv
example : encode "他们为什么不说中文".toList = "ihqwcrb4cv8a8dqg056pqjye".toList := by cbv
example : decode? "ihqwcrb4cv8a8dqg056pqjye".toList = some "他们为什么不说中文".toList := by cbv

end SecretTemplate.Punycode
