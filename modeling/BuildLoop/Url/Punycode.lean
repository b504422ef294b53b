import BuildLoop.Text.Search

/-!
# Labels in ASCII

A label of a domain that goes beyond ASCII is written as its ASCII characters followed by the others
in order of their code points. Each of those is given by how far it lies from the one before, counted
over all places where it could stand, as a number of variable length to the base 36. The thresholds
between its digits follow the size of the numbers so far.

    decode? (encode cs) = some cs                     if some character of cs is beyond ASCII
-/

namespace BuildLoop.Url.Punycode

open Text

/-! ## Digits and thresholds -/

/-- The digit of a value below 36. -/
def digit (n : Nat) : Char := Char.ofNat (if n < 26 then 97 + n else 22 + n)

/-- The value of a digit. -/
def value? (c : Char) : Option Nat :=
  if 'a' ≤ c ∧ c ≤ 'z' then some (c.toNat - 97)
  else if '0' ≤ c ∧ c ≤ '9' then some (c.toNat - 22)
  else none

/-- The least value that a digit at a place has when another follows. -/
def threshold (place bias : Nat) : Nat := min 26 (max 1 (place - bias))

theorem threshold_pos (place bias : Nat) : 0 < threshold place bias := by
  unfold threshold; omega

/-- The bias for a number of this size. -/
def biasFor (size place : Nat) : Nat :=
  if size > 455 then biasFor (size / 35) (place + 36) else place + 36 * size / (size + 38)
termination_by size

/-- The bias after a distance, with how many characters there are then. -/
def adapt (distance count : Nat) (isFirst : Bool) : Nat :=
  let size := if isFirst then distance / 700 else distance / 2
  biasFor (size + size / count) 0

/-! ## Writing -/

/-- The digits of a distance. -/
def digits (bias place n : Nat) : List Char :=
  let t := threshold place bias
  if n < t then [digit n]
  else digit (t + (n - t) % (36 - t)) :: digits bias (place + 36) ((n - t) / (36 - t))
termination_by n
decreasing_by
  have := threshold_pos place bias
  have : (n - threshold place bias) / (36 - threshold place bias) ≤ n - threshold place bias :=
    Nat.div_le_self _ _
  omega

/-- What is written so far: its digits, the distance since, the bias, and how many characters of the
label it covers. -/
structure Writing where
  out : List Char
  distance : Nat
  bias : Nat
  done : Nat

/-- Passes a character of the label on the way to the code point `n`. -/
def Writing.pass (plain n : Nat) (w : Writing) (c : Char) : Writing :=
  if c.toNat < n then { w with distance := w.distance + 1 }
  else if c.toNat = n then {
    out := w.out ++ digits w.bias 36 w.distance
    distance := 0
    bias := adapt w.distance (w.done + 1) (w.done == plain)
    done := w.done + 1 }
  else w

/-- Writes the characters of the given code points, which ascend from `n` on. -/
def writeFrom (label : List Char) (plain : Nat) (w : Writing) : Nat → List Nat → List Char
  | _, [] => w.out
  | n, m :: ms =>
    let here := { w with distance := w.distance + (m - n) * (w.done + 1) }
    let past := label.foldl (Writing.pass plain m) here
    writeFrom label plain { past with distance := past.distance + 1 } (m + 1) ms

/-- The label in ASCII. -/
def encode (label : List Char) : List Char :=
  let plain := label.filter (·.toNat < 128)
  let wide := (((label.filter (·.toNat ≥ 128)).map Char.toNat).mergeSort (· ≤ ·)).eraseDups
  plain ++ (if plain.isEmpty then [] else ['-']) ++
    writeFrom label plain.length ⟨[], 0, 72, plain.length⟩ 128 wide

/-! ## Reading -/

/-- What is read so far: the characters, the code point, the place where the last distance began and
the place it has come to, the bias, and the place and weight of the next digit. -/
structure Reading where
  out : List Char
  code : Nat
  start : Nat
  here : Nat
  bias : Nat
  place : Nat
  weight : Nat

/-- Reads a digit. -/
def Reading.read (r : Reading) (c : Char) : Option Reading := do
  let v ← value? c
  let here := r.here + v * r.weight
  let t := threshold r.place r.bias
  if here ≥ 4294967296 then none
  else if v ≥ t then
    some { r with here, place := r.place + 36, weight := r.weight * (36 - t) }
  else
    let count := r.out.length + 1
    let code := r.code + here / count
    let i := here % count
    if code > 0x10ffff || (0xd800 ≤ code && code ≤ 0xdfff) then none
    else some {
      out := r.out.take i ++ Char.ofNat code :: r.out.drop i
      code
      start := i + 1
      here := i + 1
      bias := adapt (here - r.start) count (r.start == 0)
      place := 36
      weight := 1 }

/-- The label that a text in ASCII stands for. -/
def decode? (cs : List Char) : Option (List Char) := do
  let (plain, rest) := ((cutAtLast '-' cs).filter (!·.1.isEmpty)).getD ([], cs)
  let r ← rest.foldlM Reading.read ⟨plain, 128, 0, 0, 72, 36, 1⟩
  if r.place = 36 then some r.out else none

end BuildLoop.Url.Punycode
