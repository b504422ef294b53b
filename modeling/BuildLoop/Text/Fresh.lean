/-!
# Fresh names

The first name of a numbered family that is not taken. As many names as there are taken ones, and
one more, always hold a free one if the family repeats none.

    fresh name taken n ∉ taken                  if `name` is injective
-/

namespace BuildLoop.Text

/-- The first free name from the `n`-th on, among `more` names and one; the last of them if all
others are taken. -/
def firstFree (name : Nat → String) (taken : List String) : Nat → Nat → String
  | 0, n => name n
  | more + 1, n => if taken.contains (name n) then firstFree name taken more (n + 1) else name n

/-- The first free name from the `n`-th on. -/
def fresh (name : Nat → String) (taken : List String) (n : Nat) : String :=
  firstFree name taken taken.length n

end BuildLoop.Text
