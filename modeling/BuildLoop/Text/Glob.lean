/-!
# Wildcard patterns for paths

`?` stands for one character, `*` for any characters, `**` as a whole path component for any
components, `[abc]`, `[a-z]` and `[!a]` for one character in or out of a set. A separator is an
ordinary character for all but `**`.

    accepts "a/**" s    ↔    s starts with "a/"
    a malformed pattern accepts nothing
-/

namespace BuildLoop.Text.Glob

/-- One part of a bracket set. -/
inductive Part where
  | char (c : Char)
  | range (first last : Char)

/-- One step of a pattern. -/
inductive Token where
  | char (c : Char)
  | anyChar
  | inSet (parts : List Part)
  | notInSet (parts : List Part)
  | anyChars
  | anyComponents

/-- The parts of a bracket set: `a-z` is a range, all else stands for itself. -/
def parts : List Char → List Part
  | a :: '-' :: z :: r => .range a z :: parts r
  | c :: r => .char c :: parts r
  | [] => []

/-- Whether a part holds the character. -/
def Part.holds (c : Char) : Part → Bool
  | .char d => c == d
  | .range a z => a ≤ c && c ≤ z

/-- The characters before the first `]`, if there is one. -/
def untilBracket (s : List Char) : Option (List Char) :=
  if s.contains ']' then some (s.takeWhile (· != ']')) else none

/-- The bracket set that follows `[`, and how many characters it takes with its closing bracket. -/
def bracketSet : List Char → Option (Token × Nat)
  | '!' :: x :: r => (untilBracket r).map fun inner => (.notInSet (parts (x :: inner)), inner.length + 3)
  | '!' :: [] => none
  | x :: r => (untilBracket r).map fun inner => (.inSet (parts (x :: inner)), inner.length + 2)
  | [] => none

/-- Reads a pattern; `prev` is the character before and `skip` is how many characters a token read
before still takes. Three stars, and two stars that are not a whole component, are malformed. -/
def tokensFrom (prev : Option Char) : Nat → List Char → Option (List Token)
  | _, [] => some []
  | skip + 1, c :: r => tokensFrom (some c) skip r
  | 0, c :: r =>
    if c = '?' then (tokensFrom (some c) 0 r).map (.anyChar :: ·)
    else if c = '*' then
      match r with
      | '*' :: '*' :: _ => none
      | '*' :: rest =>
        if prev.all (· == '/') then
          match rest with
          | [] => (tokensFrom (some c) 1 r).map (.anyComponents :: ·)
          | '/' :: _ => (tokensFrom (some c) 2 r).map (.anyComponents :: ·)
          | _ => none
        else none
      | _ => (tokensFrom (some c) 0 r).map (.anyChars :: ·)
    else if c = '[' then
      match bracketSet r with
      | none => none
      | some (t, n) => (tokensFrom (some c) n r).map (t :: ·)
    else (tokensFrom (some c) 0 r).map (.char c :: ·)

/-- The steps of a pattern, if it is well formed. -/
def tokens? (pattern : List Char) : Option (List Token) := tokensFrom none 0 pattern

/-- Whether `f` holds of some tail of the text. -/
def anyTail (f : List Char → Bool) : List Char → Bool
  | [] => f []
  | c :: r => f (c :: r) || anyTail f r

/-- Whether `f` holds of what follows some separator, or of the empty tail. -/
def anyAfterSlash (f : List Char → Bool) : List Char → Bool
  | [] => f []
  | c :: r => (c == '/' && f r) || anyAfterSlash f r

/-- Whether the steps take the whole text. -/
def fits : List Token → List Char → Bool
  | [], s => s.isEmpty
  | .anyChars :: ts, s => anyTail (fits ts) s
  | .anyComponents :: ts, s => fits ts s || anyAfterSlash (fits ts) s
  | .char a :: ts, c :: r => c == a && fits ts r
  | .anyChar :: ts, _ :: r => fits ts r
  | .inSet ps :: ts, c :: r => ps.any (Part.holds c) && fits ts r
  | .notInSet ps :: ts, c :: r => !ps.any (Part.holds c) && fits ts r
  | _ :: _, [] => false

/-- Whether the pattern is well formed and takes the whole text. -/
def accepts (pattern text : String) : Bool :=
  match tokens? pattern.toList with
  | some ts => fits ts text.toList
  | none => false

/-! ## Patterns without wildcards -/

/-- The steps of plain characters. -/
def plain (cs : List Char) : List Token := cs.map .char

theorem fits_plain_append (cs : List Char) (ts : List Token) (s : List Char) :
    fits (plain cs ++ ts) (cs ++ s) = fits ts s := by
  induction cs with
  | nil => rfl
  | cons c r ih =>
    show (c == c && fits (plain r ++ ts) (r ++ s)) = fits ts s
    rw [beq_self_eq_true, Bool.true_and, ih]

theorem fits_anyComponents (s : List Char) : fits [.anyComponents] s = true := by
  have hany : ∀ s, anyAfterSlash (fits []) s = true := by
    intro s
    induction s with
    | nil => rfl
    | cons c r ih => rw [anyAfterSlash, ih, Bool.or_true]
  rw [fits, hany, Bool.or_true]

/-- A pattern of plain characters accepts itself. -/
theorem accepts_of_plain {pattern : String} (h : tokens? pattern.toList = some (plain pattern.toList)) :
    accepts pattern pattern = true := by
  have hfits := fits_plain_append pattern.toList [] []
  rw [List.append_nil, List.append_nil] at hfits
  rw [accepts, h]
  exact hfits

/-- A pattern of plain characters before `**` accepts whatever follows them. -/
theorem accepts_of_below {pattern text : String} {cs s : List Char}
    (h : tokens? pattern.toList = some (plain cs ++ [.anyComponents])) (ht : text.toList = cs ++ s) :
    accepts pattern text = true := by
  rw [accepts, h, ht]
  exact (fits_plain_append cs _ s).trans (fits_anyComponents s)

/-- A pattern that starts with a plain character accepts nothing that starts with another one. -/
theorem accepts_of_head {pattern text : String} {a : Char} {ts : List Token}
    (h : tokens? pattern.toList = some (.char a :: ts)) (ht : text.toList.head? ≠ some a) :
    accepts pattern text = false := by
  rw [accepts, h]
  cases hs : text.toList with
  | nil => rfl
  | cons c r =>
    rw [hs] at ht
    have hc : (c == a) = false := by simpa using ht
    show (c == a && fits ts r) = false
    rw [hc, Bool.false_and]

end BuildLoop.Text.Glob
