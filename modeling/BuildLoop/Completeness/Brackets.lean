import BuildLoop.Text.Search

/-!
# Brackets outside strings and comments

A source text is cut from left to right into comments, strings and single characters. It is whole
if every comment and string ends and the brackets among the single characters are nested well.

    closeComment s = (_, r)   gives   r shorter than s                  (length_of_closeComment)

Lines are counted from one. A line feed that a backslash precedes inside a string is part of the
string's escape and is not counted.
-/

namespace BuildLoop.Completeness

open Text

/-- What comments and strings look like in a family of languages. -/
inductive Family where
  /-- Comments `//` and `/* */`, strings in single, double and back quotes. -/
  | script
  /-- Comments `/* */`, strings in single and double quotes. -/
  | style
  /-- Comments `#`, strings in single, double and tripled quotes. -/
  | python
  deriving DecidableEq, Repr

namespace Family

/-- Whether `c` opens a string. -/
def isQuote (f : Family) (c : Char) : Bool :=
  c == '"' || c == '\'' || (f == script && c == '\x60')

/-- Whether comments up to the end of the line open here. -/
def opensLineComment : Family → List Char → Bool
  | script, '/' :: '/' :: _ => true
  | python, '#' :: _ => true
  | _, _ => false

/-- What follows the opening of a block comment. -/
def blockComment? : Family → List Char → Option (List Char)
  | python, _ => none
  | _, '/' :: '*' :: r => some r
  | _, _ => none

/-- What follows the opening of a string in tripled quotes, with the quote. -/
def tripleQuote? : Family → List Char → Option (Char × List Char)
  | python, '"' :: '"' :: '"' :: r => some ('"', r)
  | python, '\'' :: '\'' :: '\'' :: r => some ('\'', r)
  | _, _ => none

end Family

/-- What is wrong with a text, and on which line. -/
structure Imbalance where
  line : Nat
  message : String
  deriving DecidableEq, Repr

/-! ## Ends of comments and strings -/

/-- The line and the text after the first `*/`. -/
def closeComment (line : Nat) : List Char → Option (Nat × List Char)
  | [] => none
  | '*' :: '/' :: r => some (line, r)
  | c :: r => closeComment (if c = '\n' then line + 1 else line) r

/-- The line and the text after three quotes `q` in a row that no backslash reaches. -/
def closeTriple (q : Char) (line : Nat) : List Char → Option (Nat × List Char)
  | [] => none
  | '\\' :: r =>
    match r with
    | [] => none
    | _ :: r => closeTriple q line r
  | c :: r =>
    if [q, q].isPrefixOf r && c == q then some (line, r.drop 2)
    else closeTriple q (if c = '\n' then line + 1 else line) r

/-- The line and the text after the next quote `q` that no backslash precedes. Only a string in back
quotes runs over a line feed. -/
def closeString (q : Char) (line : Nat) : List Char → Option (Nat × List Char)
  | [] => none
  | '\\' :: r =>
    match r with
    | [] => none
    | _ :: r => closeString q line r
  | c :: r =>
    if c = q then some (line, r)
    else if c = '\n' then
      if q = '\x60' then closeString q (line + 1) r else none
    else closeString q line r

/-- The text from the next line feed on. -/
def dropLine (s : List Char) : List Char := s.dropWhile (· != '\n')

/-! ## Lengths -/

theorem length_of_closeComment {s r : List Char} {line line' : Nat}
    (h : closeComment line s = some (line', r)) : r.length < s.length := by
  fun_induction closeComment line s with
  | case1 => simp at h
  | case2 => cases h; simp only [List.length_cons]; omega
  | case3 line c r' _ ih => have := ih h; simp; omega

theorem length_of_closeTriple {q : Char} {s r : List Char} {line line' : Nat}
    (h : closeTriple q line s = some (line', r)) : r.length < s.length := by
  fun_induction closeTriple q line s with
  | case1 => simp at h
  | case2 => simp at h
  | case3 _ _ _ ih => have := ih h; simp; omega
  | case4 =>
    simp only [Option.some.injEq, Prod.mk.injEq] at h
    simp only [← h.2, List.length_drop, List.length_cons]
    omega
  | case5 _ _ _ _ _ ih => have := ih h; simp; omega

theorem length_of_closeString {q : Char} {s r : List Char} {line line' : Nat}
    (h : closeString q line s = some (line', r)) : r.length < s.length := by
  fun_induction closeString q line s with
  | case1 => simp at h
  | case2 => simp at h
  | case3 _ _ _ ih => have := ih h; simp; omega
  | case4 => simp_all
  | case5 _ _ _ _ _ ih => have := ih h; simp; omega
  | case6 => simp at h
  | case7 _ _ _ _ _ _ ih => have := ih h; simp; omega

theorem length_dropLine_le (s : List Char) : (dropLine s).length ≤ s.length :=
  (List.dropWhile_sublist _).length_le

theorem length_of_blockComment? {f : Family} {s r : List Char} (h : f.blockComment? s = some r) :
    r.length < s.length := by
  unfold Family.blockComment? at h
  split at h
  · cases h
  · cases h; simp only [List.length_cons]; omega
  · cases h

theorem length_of_tripleQuote? {f : Family} {s r : List Char} {q : Char}
    (h : f.tripleQuote? s = some (q, r)) : r.length < s.length := by
  unfold Family.tripleQuote? at h
  split at h <;> simp_all <;> omega

/-! ## Brackets -/

/-- The bracket that a closing one matches. -/
def opener? : Char → Option Char
  | ')' => some '('
  | ']' => some '['
  | '\x7d' => some '\x7b'
  | _ => none

/-- Whether `c` is an opening bracket. -/
def isOpener (c : Char) : Bool := c == '(' || c == '[' || c == '\x7b'

/-- A text in single quotes. -/
def inQuotes (s : String) : String := "'" ++ s ++ "'"

/-- The brackets that are open after a character outside strings and comments, innermost first. -/
def pass (c : Char) (line : Nat) (opened : List (Char × Nat)) :
    Except Imbalance (List (Char × Nat)) :=
  if isOpener c then .ok ((c, line) :: opened)
  else match opener? c with
    | none => .ok opened
    | some expected =>
      match opened with
      | [] => .error ⟨line, "unmatched " ++ inQuotes c.toString⟩
      | (o, at_) :: outer =>
        if o = expected then .ok outer
        else .error ⟨line, inQuotes c.toString ++ " closes " ++ inQuotes o.toString ++
          " opened on line " ++ toString at_⟩

/-- Checks what follows a place on a line, with the brackets open there, innermost first. -/
def checkFrom (f : Family) (line : Nat) (opened : List (Char × Nat)) (s : List Char) :
    Except Imbalance Unit :=
  match s with
  | [] =>
    match opened with
    | [] => .ok ()
    | (o, at_) :: _ => .error ⟨at_, inQuotes o.toString ++ " is never closed"⟩
  | c :: r =>
    if c = '\n' then checkFrom f (line + 1) opened r
    else match _hb : f.blockComment? (c :: r) with
      | some inside =>
        match _hc : closeComment line inside with
        | some (line, rest) => checkFrom f line opened rest
        | none => .error ⟨line, "unterminated block comment"⟩
      | none =>
        if f.opensLineComment (c :: r) then checkFrom f line opened (dropLine r)
        else match _ht : f.tripleQuote? (c :: r) with
          | some (q, inside) =>
            match _hc : closeTriple q line inside with
            | some (line, rest) => checkFrom f line opened rest
            | none => .error ⟨line, "unterminated triple-quoted string"⟩
          | none =>
            if f.isQuote c then
              match _hc : closeString c line r with
              | some (line, rest) => checkFrom f line opened rest
              | none => .error ⟨line, "unterminated string literal " ++ c.toString⟩
            else match pass c line opened with
              | .ok opened => checkFrom f line opened r
              | .error e => .error e
termination_by s.length
decreasing_by
  · simp
  · have := length_of_blockComment? _hb
    have := length_of_closeComment _hc
    omega
  · have := length_dropLine_le r
    simp only [List.length_cons]
    omega
  · have := length_of_tripleQuote? _ht
    have := length_of_closeTriple _hc
    omega
  · have := length_of_closeString _hc
    simp only [List.length_cons]
    omega
  · simp

/-- Checks that comments and strings end and that brackets are nested well. -/
def checkBrackets (f : Family) (s : String) : Except Imbalance Unit := checkFrom f 1 [] s.toList

end BuildLoop.Completeness
