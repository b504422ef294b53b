import BuildLoop.Number.Binary

/-!
# Shortest decimals

The decimal text of a number has the fewest digits that read back to it, and of those the nearest.
It is positional while the point falls among or next to the digits, otherwise it has an exponent
with a sign.

    readsBack b d k   ↔   d * 10 ^ k is rounded to b
-/

namespace BuildLoop.Number

/-- `d * 10 ^ k` as a ratio. -/
def decimalRatio (d : Nat) (k : Int) : Nat × Nat :=
  if k < 0 then (d, Nat.pow 10 (-k).toNat) else (d * Nat.pow 10 k.toNat, 1)

/-- Whether `d * 10 ^ k` is rounded to `m * 2 ^ e`. -/
def readsBack (m : Nat) (e : Int) (d : Nat) (k : Int) : Bool :=
  let (n, den) := decimalRatio d k
  match roundRatio .double n den with
  | some (m', e') => ratio m' e' == ratio m e ||
      (ratio m' e').1 * (ratio m e).2 == (ratio m e).1 * (ratio m' e').2
  | none => false

/-- The digits of `m * 2 ^ e` down to `10 ^ k`, rounded down. -/
def digitsAt (m : Nat) (e : Int) (k : Int) : Nat :=
  let (n, d) := ratio m e
  if k < 0 then n * Nat.pow 10 (-k).toNat / d else n / (d * Nat.pow 10 k.toNat)

/-- Whether `m * 2 ^ e` is at least `10 ^ p`. -/
def atLeastPower (m : Nat) (e : Int) (p : Int) : Bool :=
  let (n, d) := ratio m e
  if p < 0 then d ≤ n * Nat.pow 10 (-p).toNat else d * Nat.pow 10 p.toNat ≤ n

/-- The least `p` with `m * 2 ^ e < 10 ^ p`, for a positive number of 64 bits. -/
def decimalScale (m : Nat) (e : Int) : Int :=
  let guess := (((m.log2 : Int) + e) * 30103) / 100000
  if atLeastPower m e (guess + 1) then guess + 2
  else if atLeastPower m e guess then guess + 1 else guess

/-- The nearer of the two neighbours `d` and `d + 1` of `m * 2 ^ e` that read back. -/
def nearestOf (m : Nat) (e : Int) (d : Nat) (k : Int) : Option Nat :=
  let (n, den) := ratio m e
  let (lo, loDen) := decimalRatio (2 * d + 1) k
  match readsBack m e d k, readsBack m e (d + 1) k with
  | true, true =>
    let l := 2 * n * loDen
    let r := lo * den
    some (if l < r then d else if l > r then d + 1 else if d % 2 = 0 then d else d + 1)
  | true, false => some d
  | false, true => some (d + 1)
  | false, false => none

/-- The fewest digits of a positive number, trying `count`, `count + 1`, … of them, and the power
of ten of the last. Seventeen digits always read back. -/
def shortestFrom (m : Nat) (e : Int) (scale : Int) : Nat → Nat → Nat × Int
  | 0, count => (digitsAt m e (scale - count), scale - count)
  | more + 1, count =>
    match nearestOf m e (digitsAt m e (scale - count)) (scale - count) with
    | some d => (d, scale - count)
    | none => shortestFrom m e scale more (count + 1)

/-- Moves trailing zeros of the digits into the power of ten. -/
def dropZeros : Nat → Nat → Int → Nat × Int
  | 0, d, k => (d, k)
  | more + 1, d, k => if d ≠ 0 ∧ d % 10 = 0 then dropZeros more (d / 10) (k + 1) else (d, k)

/-- The fewest digits of a positive number and the power of ten of the last. -/
def shortest (m : Nat) (e : Int) : Nat × Int :=
  let (d, k) := shortestFrom m e (decimalScale m e) 17 1
  dropZeros 20 d k

/-- Zeros. -/
def zeros (n : Nat) : String := String.ofList (List.replicate n '0')

/-- An exponent with its sign. -/
def exponentText (x : Int) : String := (if x < 0 then "e-" else "e+") ++ toString x.natAbs

/-- Lays out digits `d`, the last of weight `10 ^ k`. -/
def layOut (d : Nat) (k : Int) : String :=
  let digits := toString d
  let n : Int := digits.length
  let point := n + k
  if 0 ≤ k ∧ point ≤ 16 then digits ++ zeros k.toNat ++ ".0"
  else if 0 < point ∧ point ≤ 16 then
    String.ofList (digits.toList.take point.toNat) ++ "." ++
      String.ofList (digits.toList.drop point.toNat)
  else if -5 < point ∧ point ≤ 0 then "0." ++ zeros (-point).toNat ++ digits
  else
    let tail := String.ofList (digits.toList.drop 1)
    String.ofList (digits.toList.take 1) ++ (if tail.isEmpty then "" else "." ++ tail) ++
      exponentText (point - 1)

/-- The decimal text of a number. -/
def Binary.text (b : Binary) : String :=
  let sign := if b.negative then "-" else ""
  if b.mantissa = 0 then sign ++ "0.0"
  else
    let (d, k) := shortest b.mantissa b.exponent
    sign ++ layOut d k

end BuildLoop.Number
