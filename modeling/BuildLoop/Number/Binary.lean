/-!
# Binary floating point numbers

A finite binary number is a sign and a dyadic value `mantissa * 2 ^ exponent`. A ratio is rounded
to a format by keeping as many bits as the format has and taking the nearer neighbour, a half going
to the even one.

    roundHalfEven n d = n / d   when d divides n                 (roundHalfEven_of_dvd)
-/

namespace BuildLoop.Number

/-- The bits of the mantissa and the least and greatest exponent of a format. -/
structure Format where
  bits : Nat
  minExponent : Int
  maxExponent : Int

/-- The format of 64 bits. -/
def Format.double : Format := ⟨53, -1074, 971⟩

/-- The format of 32 bits. -/
def Format.single : Format := ⟨24, -149, 104⟩

/-- A finite number: `± mantissa * 2 ^ exponent`. -/
structure Binary where
  negative : Bool
  mantissa : Nat
  exponent : Int
  deriving DecidableEq, Repr

/-- Zero. -/
def Binary.zero : Binary := ⟨false, 0, 0⟩

/-! ## Rounding -/

/-- The natural number nearest to `n / d`, a half going to the even one. -/
def roundHalfEven (n d : Nat) : Nat :=
  let q := n / d
  let r := n % d
  if 2 * r < d then q else if 2 * r > d then q + 1 else if q % 2 = 0 then q else q + 1

/-- The ratio `n / d` divided by `2 ^ e`. -/
def scaleDown (n d : Nat) (e : Int) : Nat × Nat :=
  if e < 0 then (n * Nat.pow 2 (-e).toNat, d) else (n, d * Nat.pow 2 e.toNat)

/-- The number of a format nearest to `n / d`; `none` beyond the largest one. -/
def roundRatio (f : Format) (n d : Nat) : Option (Nat × Int) :=
  if n = 0 then some (0, 0) else
  let low : Int := (n.log2 : Int) - (d.log2 : Int) - f.bits
  let (n₁, d₁) := scaleDown n d low
  let start := if n₁ / d₁ ≥ Nat.pow 2 f.bits then low + 1 else low
  let e := max start f.minExponent
  let (n₂, d₂) := scaleDown n d e
  let m := roundHalfEven n₂ d₂
  let (m, e) := if m = Nat.pow 2 f.bits then (m / 2, e + 1) else (m, e)
  if e > f.maxExponent then none else some (m, e)

/-- The value of `m * 2 ^ e` as a ratio. -/
def ratio (m : Nat) (e : Int) : Nat × Nat :=
  if e < 0 then (m, Nat.pow 2 (-e).toNat) else (m * Nat.pow 2 e.toNat, 1)

/-- The number rounded to a smaller format. -/
def Binary.narrow (f : Format) (b : Binary) : Option Binary :=
  let (n, d) := ratio b.mantissa b.exponent
  (roundRatio f n d).map fun r => ⟨b.negative, r.1, r.2⟩

/-- The number of a format nearest to a natural number with a sign. -/
def Binary.ofNat (f : Format) (negative : Bool) (n : Nat) : Option Binary :=
  (roundRatio f n 1).map fun r => ⟨negative, r.1, r.2⟩

/-! ## Reading a decimal -/

/-- `10 ^ k` as a number of 64 bits. -/
def powerOfTen (k : Nat) : Option (Nat × Int) := roundRatio .double (Nat.pow 10 k) 1

/-- The product of two numbers of 64 bits. -/
def mulDouble (a b : Nat × Int) : Option (Nat × Int) :=
  let (n, d) := ratio (a.1 * b.1) (a.2 + b.2)
  roundRatio .double n d

/-- The quotient of two numbers of 64 bits. -/
def divDouble (a b : Nat × Int) : Option (Nat × Int) :=
  let (n₁, d₁) := ratio a.1 a.2
  let (n₂, d₂) := ratio b.1 b.2
  roundRatio .double (n₁ * d₂) (d₁ * n₂)

/-- `a / 10 ^ k`, dividing by `10 ^ 308` while `k` is larger. A significand of 64 bits is zero after
two such turns, so three always suffice. -/
def divPowers : Nat → Nat × Int → Nat → Option (Nat × Int)
  | 0, a, _ => some a
  | turns + 1, a, k =>
    if a.1 = 0 then some a
    else if k ≤ 308 then (powerOfTen k).bind (divDouble a)
    else ((powerOfTen 308).bind (divDouble a)).bind fun q => divPowers turns q (k - 308)

/-- `significand * 10 ^ exponent` in 64 bits: the significand is rounded first, then multiplied or
divided by a power of ten. `none` beyond the largest number. -/
def ofDecimal (significand : Nat) (exponent : Int) : Option (Nat × Int) :=
  (roundRatio .double significand 1).bind fun s =>
    if exponent < 0 then divPowers 3 s (-exponent).toNat
    else if s.1 = 0 then some s
    else if exponent.toNat ≤ 308 then (powerOfTen exponent.toNat).bind (mulDouble s)
    else none

/-! ## Lemmas -/

theorem roundHalfEven_of_dvd (n d : Nat) (hd : 0 < d) (h : d ∣ n) :
    roundHalfEven n d = n / d := by
  have : n % d = 0 := Nat.mod_eq_zero_of_dvd h
  simp [roundHalfEven, this, hd]

end BuildLoop.Number
