import BuildLoop.Text.WordChar
import BuildLoop.Text.Blank

/-!
# Patterns

A pattern describes a set of texts together with an order of preference among the ways to match:
the left of two alternatives comes first, and a repetition takes as much as it can unless it is
marked short. Searching takes the leftmost place where the pattern matches and, there, the
preferred way.

    find (seq a b), at one place:  the first way of `a` that some way of `b` can follow

`run` explores the ways in order of preference and hands each end to a continuation; the first one
that the continuation accepts is the answer.

## Main definitions

* `Pattern`, and `run`, which explores its ways from a `Cursor`
* `find`, the leftmost match, and `findAll`, the matches from left to right without overlap
-/

namespace BuildLoop.Text

/-- A place in a text: the character before it and what follows it. -/
structure Cursor where
  prev : Option Char
  rest : List Char

/-- A description of texts with an order of preference. -/
inductive Pattern where
  /-- The empty text. -/
  | empty
  /-- One character of a class. -/
  | one (holds : Char → Bool)
  /-- Characters of a class, as many as possible. -/
  | many (holds : Char → Bool)
  /-- Characters of a class, as few as possible. -/
  | few (holds : Char → Bool)
  /-- One pattern after another. -/
  | seq (first second : Pattern)
  /-- Either pattern, the first preferred. -/
  | alt (first second : Pattern)
  /-- A pattern that takes at least one character, as often as possible. -/
  | again (body : Pattern)
  /-- A pattern whose text is kept under a number. -/
  | group (number : Nat) (body : Pattern)
  /-- A place with a word character on exactly one side. -/
  | wordEdge
  /-- The start of the text or of a line. -/
  | lineStart
  /-- The start of the text. -/
  | textStart

/-- The groups passed so far, latest first: number, what followed at its start, at its end. -/
abbrev Groups := List (Nat × List Char × List Char)

namespace Pattern

/-! ## Matching -/

/-- The places reached by taking zero, one, two, … characters of a class, longest first. -/
def places (holds : Char → Bool) (acc : List Cursor) (prev : Option Char) :
    List Char → List Cursor
  | [] => ⟨prev, []⟩ :: acc
  | c :: r =>
    if holds c then places holds (⟨prev, c :: r⟩ :: acc) (some c) r else ⟨prev, c :: r⟩ :: acc

/-- Takes `step` as often as possible; as each turn takes a character, the characters ahead bound
the number of turns. -/
def turns {α : Type} (step : Cursor → Groups → (Cursor → Groups → Option α) → Option α) :
    List Char → Cursor → Groups → (Cursor → Groups → Option α) → Option α
  | [], here, gs, k => k here gs
  | _ :: ahead, here, gs, k =>
    match step here gs fun next gs' => turns step ahead next gs' k with
    | some r => some r
    | none => k here gs

/-- Whether exactly one side of a place is a word character. -/
def atWordEdge (here : Cursor) : Bool :=
  here.prev.any isWordChar != here.rest.head?.any isWordChar

/-- Explores the ways of a pattern in order of preference until the continuation accepts one. -/
def run {α : Type} : Pattern → Cursor → Groups → (Cursor → Groups → Option α) → Option α
  | empty, here, gs, k => k here gs
  | one holds, here, gs, k =>
    match here.rest with
    | [] => none
    | c :: r => if holds c then k ⟨some c, r⟩ gs else none
  | many holds, here, gs, k => (places holds [] here.prev here.rest).findSome? fun next => k next gs
  | few holds, here, gs, k =>
    (places holds [] here.prev here.rest).reverse.findSome? fun next => k next gs
  | seq a b, here, gs, k => run a here gs fun next gs' => run b next gs' k
  | alt a b, here, gs, k =>
    match run a here gs k with
    | some r => some r
    | none => run b here gs k
  | again a, here, gs, k => turns (run a) here.rest here gs k
  | group n a, here, gs, k =>
    run a here gs fun next gs' => k next ((n, here.rest, next.rest) :: gs')
  | wordEdge, here, gs, k => if atWordEdge here then k here gs else none
  | lineStart, here, gs, k => if here.prev.all (· == '\n') then k here gs else none
  | textStart, here, gs, k => if here.prev.isNone then k here gs else none

/-- The part of a text that is left when its tail `stop` is taken away. -/
def upTo (start stop : List Char) : List Char := start.take (start.length - stop.length)

/-- A match: the character before it, its text, its groups and the place after it. -/
structure Match where
  prev : Option Char
  text : List Char
  groups : List (Nat × List Char)
  next : Cursor

/-- The text of a group, if it took part in the match. -/
def Match.group? (m : Match) (n : Nat) : Option (List Char) :=
  (m.groups.find? (·.1 == n)).map (·.2)

/-- The preferred match at one place. -/
def matchAt (p : Pattern) (here : Cursor) : Option Match :=
  run p here [] fun next gs => some {
    prev := here.prev
    text := upTo here.rest next.rest
    groups := gs.map fun g => (g.1, upTo g.2.1 g.2.2)
    next := next }

/-- The leftmost match in the text that follows `prev`. -/
def findFrom (p : Pattern) (prev : Option Char) : List Char → Option Match
  | [] => matchAt p ⟨prev, []⟩
  | c :: r =>
    match matchAt p ⟨prev, c :: r⟩ with
    | some m => some m
    | none => findFrom p (some c) r

/-- The leftmost match. -/
def find (p : Pattern) (s : List Char) : Option Match := findFrom p none s

/-- Whether the pattern matches somewhere. -/
def test (p : Pattern) (s : List Char) : Bool := (find p s).isSome

/-- The matches of a pattern that takes at least one character, from left to right without
overlap; `skip` is how many characters of the last one are still to be passed. -/
def findAllFrom (p : Pattern) (acc : List Match) (prev : Option Char) :
    Nat → List Char → List Match
  | _, [] => acc.reverse
  | skip + 1, c :: r => findAllFrom p acc (some c) skip r
  | 0, c :: r =>
    match matchAt p ⟨prev, c :: r⟩ with
    | some m => findAllFrom p (m :: acc) (some c) (m.text.length - 1) r
    | none => findAllFrom p acc (some c) 0 r

/-- The matches of a pattern, from left to right without overlap. -/
def findAll (p : Pattern) (s : List Char) : List Match := findAllFrom p [] none 0 s

/-! ## Common patterns -/

/-- Equality of characters up to simple case folding, for an ASCII `a`: the long s and the Kelvin
sign fold to `s` and `k`. -/
def sameFolded (a c : Char) : Bool :=
  a.toLower == c.toLower || (a.toLower == 's' && c.toNat == 0x17f) ||
    (a.toLower == 'k' && c.toNat == 0x212a)

/-- Exactly these characters. -/
def chars : List Char → Pattern
  | [] => empty
  | [a] => one (· == a)
  | a :: r => seq (one (· == a)) (chars r)

/-- These characters in any letter case. -/
def charsFolded : List Char → Pattern
  | [] => empty
  | [a] => one (sameFolded a)
  | a :: r => seq (one (sameFolded a)) (charsFolded r)

/-- Exactly this text. -/
def lit (s : String) : Pattern := chars s.toList

/-- This text in any letter case. -/
def word (s : String) : Pattern := charsFolded s.toList

/-- One after the other. -/
def all : List Pattern → Pattern
  | [] => empty
  | [p] => p
  | p :: r => seq p (all r)

/-- One of several, earlier ones preferred. -/
def any : List Pattern → Pattern
  | [] => one fun _ => false
  | [p] => p
  | p :: r => alt p (any r)

/-- A pattern or nothing, the pattern preferred. -/
def optional (p : Pattern) : Pattern := alt p empty

/-- At least one character of a class, as many as possible. -/
def atLeastOne (holds : Char → Bool) : Pattern := seq (one holds) (many holds)

/-- A pattern at least once, as often as possible. -/
def atLeastOnce (p : Pattern) : Pattern := seq p (again p)

/-- At least one blank. -/
def blanks : Pattern := atLeastOne isBlank

end Pattern

end BuildLoop.Text
