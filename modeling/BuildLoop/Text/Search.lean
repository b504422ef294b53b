import BuildLoop.Text.Blank

/-!
# Searching and replacing fixed texts

The first place where a text occurs cuts the text around it; counting and replacing take the
places from left to right and never overlap.

    cutAt needle s = some (a, b)   gives   s = a ++ needle ++ b              (eq_of_cutAt)
-/

namespace BuildLoop.Text

/-! ## Heads and ends -/

/-- What follows `head`, if the text starts with it. -/
def after? : List Char → List Char → Option (List Char)
  | [], s => some s
  | _ :: _, [] => none
  | h :: head, c :: s => if h = c then after? head s else none

/-- What precedes `tail`, if the text ends with it. -/
def before? (tail s : List Char) : Option (List Char) :=
  (after? tail.reverse s.reverse).map List.reverse

/-- Whether a string starts with another. -/
def startsWith (s head : String) : Bool := head.toList.isPrefixOf s.toList

/-- Whether a string ends with another. -/
def endsWith (s tail : String) : Bool := tail.toList.isSuffixOf s.toList

/-! ## Places -/

/-- Whether `needle` occurs in the text. -/
def occurs (needle : List Char) : List Char → Bool
  | [] => needle.isEmpty
  | c :: r => needle.isPrefixOf (c :: r) || occurs needle r

/-- Whether the string holds `needle`. -/
def contains (s needle : String) : Bool := occurs needle.toList s.toList

/-- The text before the first `needle` (last first) and the text after it. -/
def cutFrom (needle : List Char) (before : List Char) : List Char → Option (List Char × List Char)
  | [] => (after? needle []).map fun r => (before, r)
  | c :: r =>
    match after? needle (c :: r) with
    | some rest => some (before, rest)
    | none => cutFrom needle (c :: before) r

/-- The text before the first `needle` and the text after it. -/
def cutAt (needle s : List Char) : Option (List Char × List Char) :=
  (cutFrom needle [] s).map fun p => (p.1.reverse, p.2)

/-- The text before the last `c` and the text after it. -/
def cutAtLast (c : Char) (s : List Char) : Option (List Char × List Char) :=
  match s.reverse.dropWhile (· != c) with
  | [] => none
  | _ :: before => some (before.reverse, (s.reverse.takeWhile (· != c)).reverse)

/-- How often `needle` occurs, counting from the left without overlap; the first argument is how
many characters of the last place are still to be passed. -/
def countFrom (needle : List Char) : Nat → Nat → List Char → Nat
  | n, _, [] => n
  | n, skip + 1, _ :: r => countFrom needle n skip r
  | n, 0, c :: r =>
    if needle.isPrefixOf (c :: r) then countFrom needle (n + 1) (needle.length - 1) r
    else countFrom needle n 0 r

/-- How often a non-empty `needle` occurs, counting from the left without overlap. -/
def count (needle s : List Char) : Nat := countFrom needle 0 0 s

/-- Replaces each `needle`, from the left and without overlap; `skip` is how many characters of
the last place are still to be passed and `acc` holds the answer so far, last first. -/
def replaceFrom (needle new : List Char) (acc : List Char) : Nat → List Char → List Char
  | _, [] => acc.reverse
  | skip + 1, _ :: r => replaceFrom needle new acc skip r
  | 0, c :: r =>
    if needle.isPrefixOf (c :: r) then
      replaceFrom needle new (new.reverse ++ acc) (needle.length - 1) r
    else replaceFrom needle new (c :: acc) 0 r

/-- Replaces each place of a non-empty `needle` by `new`. -/
def replace (needle new s : List Char) : List Char := replaceFrom needle new [] 0 s

/-- The string with each `needle` replaced by `new`. -/
def replaced (s needle new : String) : String :=
  String.ofList (replace needle.toList new.toList s.toList)

/-! ## Paths in text -/

/-- The last component of a `/`-separated path. -/
def baseName (path : String) : String :=
  match cutAtLast '/' path.toList with
  | some (_, name) => String.ofList name
  | none => path

/-- What precedes the last `/` of a path. -/
def dirName? (path : String) : Option String :=
  (cutAtLast '/' path.toList).map fun p => String.ofList p.1

/-- The directory of a path, empty for a path without `/`. -/
def parentDir (path : String) : String := (dirName? path).getD ""

/-- What follows the last dot of a name, empty without one. -/
def extension (name : String) : String :=
  match cutAtLast '.' name.toList with
  | some (_, ext) => String.ofList ext
  | none => ""

/-- What precedes the last dot of a name, the whole name without one. -/
def stem (name : String) : String :=
  match cutAtLast '.' name.toList with
  | some (stem, _) => String.ofList stem
  | none => name

/-- The path without the `./` it starts with, repeated ones included. -/
def dropHere : List Char → List Char
  | '.' :: '/' :: r => dropHere r
  | s => s

/-! ## Sentences -/

/-- A text up to the first full stop before a space. -/
def firstSentence (s : String) : String :=
  match cutAt ". ".toList (trim s.toList) with
  | some (a, _) => String.ofList (a ++ ['.'])
  | none => trimmed s

/-! ## Lemmas -/

theorem eq_of_after? {head s rest : List Char} (h : after? head s = some rest) :
    s = head ++ rest := by
  induction head generalizing s with
  | nil => simpa [after?] using h
  | cons a head ih =>
    cases s with
    | nil => simp [after?] at h
    | cons c s =>
      simp only [after?] at h
      split at h
      · next e => subst e; simp [ih h]
      · simp at h

theorem after?_append (head rest : List Char) : after? head (head ++ rest) = some rest := by
  induction head with
  | nil => rfl
  | cons a head ih => simp [after?, ih]

theorem eq_of_cutFrom {needle before s : List Char} {p : List Char × List Char}
    (h : cutFrom needle before s = some p) :
    before.reverse ++ s = p.1.reverse ++ needle ++ p.2 := by
  induction s generalizing before with
  | nil =>
    simp only [cutFrom, Option.map_eq_some_iff] at h
    obtain ⟨r, hr, rfl⟩ := h
    simp [← eq_of_after? hr]
  | cons c r ih =>
    simp only [cutFrom] at h
    split at h
    · next rest hr => simp only [Option.some.injEq] at h; subst h; simp [eq_of_after? hr]
    · have := ih h; simpa using this

theorem eq_of_cutAt {needle s a b : List Char} (h : cutAt needle s = some (a, b)) :
    s = a ++ needle ++ b := by
  simp only [cutAt, Option.map_eq_some_iff, Prod.mk.injEq] at h
  obtain ⟨p, hp, rfl, rfl⟩ := h
  simpa using eq_of_cutFrom hp

end BuildLoop.Text
