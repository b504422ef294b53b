/-!
# Ranges of code points

A character property is given on ASCII by a test and beyond it by a list of inclusive ranges of
code points, in ascending order.

    covers [] n = false        covers ((a, b) :: r) n = (a ≤ n ∧ n ≤ b) ∨ covers r n
-/

namespace BuildLoop.Text

/-- Whether one of the inclusive ranges holds `n`. -/
def covers (ranges : List (Nat × Nat)) (n : Nat) : Bool :=
  ranges.any fun r => r.1 ≤ n && n ≤ r.2

/-- A property that is `ascii` below 128 and membership in `ranges` from there on. -/
def hasProperty (ascii : Char → Bool) (ranges : List (Nat × Nat)) (c : Char) : Bool :=
  if c.toNat < 128 then ascii c else covers ranges c.toNat

theorem hasProperty_of_ascii (ascii : Char → Bool) (ranges : List (Nat × Nat)) (c : Char)
    (h : c.toNat < 128) : hasProperty ascii ranges c = ascii c := by
  simp [hasProperty, h]

end BuildLoop.Text
