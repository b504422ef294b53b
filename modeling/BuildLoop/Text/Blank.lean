/-!
# Blank characters, trimming, words and lines

Blank are the characters with the white-space property. A text is trimmed at either end, cut into
words at blanks, and cut into lines at line feeds.

    trim s = trimEnd (trimStart s)
    lines "a\r\nb\n" = ["a", "b"]        a carriage return goes with the line feed that follows it
-/

namespace BuildLoop.Text

/-! ## Blanks -/

/-- A character with the white-space property. -/
def isBlank (c : Char) : Bool :=
  let n := c.toNat
  (9 ≤ n && n ≤ 13) || n == 0x20 || n == 0x85 || n == 0xa0 || n == 0x1680 ||
    (0x2000 ≤ n && n ≤ 0x200a) || n == 0x2028 || n == 0x2029 || n == 0x202f ||
    n == 0x205f || n == 0x3000

/-- The text without what satisfies `p` at its end. -/
def dropEndWhile (p : Char → Bool) (s : List Char) : List Char :=
  (s.reverse.dropWhile p).reverse

/-- The text without the blanks it starts with. -/
def trimStart (s : List Char) : List Char := s.dropWhile isBlank

/-- The text without the blanks it ends with. -/
def trimEnd (s : List Char) : List Char := dropEndWhile isBlank s

/-- The text without the blanks at either end. -/
def trim (s : List Char) : List Char := trimEnd (trimStart s)

/-- The string without the blanks at either end. -/
def trimmed (s : String) : String := String.ofList (trim s.toList)

/-- Whether a string holds nothing but blanks. -/
def isBlankText (s : String) : Bool := s.toList.all isBlank

/-! ## Pieces -/

/-- The pieces between the characters that satisfy `p`; `piece` is the current one and `acc` holds
those before it, both last first. -/
def splitFrom (p : Char → Bool) (piece : List Char) (acc : List (List Char)) :
    List Char → List (List Char)
  | [] => (piece.reverse :: acc).reverse
  | c :: r =>
    if p c then splitFrom p [] (piece.reverse :: acc) r else splitFrom p (c :: piece) acc r

/-- The pieces between the characters that satisfy `p`: one more than there are such characters. -/
def splitAtEach (p : Char → Bool) (s : List Char) : List (List Char) := splitFrom p [] [] s

/-- The non-empty pieces between blanks. -/
def words (s : List Char) : List (List Char) :=
  (splitAtEach isBlank s).filter (!·.isEmpty)

/-- A line without the carriage return before its line feed. -/
def dropReturn (line : List Char) : List Char :=
  match line.reverse with
  | '\r' :: r => r.reverse
  | _ => line

/-- The lines of a text, without their ends. What follows the last line feed is a line only if it
is not empty, and keeps a carriage return at its end. -/
def lines (s : List Char) : List (List Char) :=
  match (splitAtEach (· == '\n') s).reverse with
  | [] => []
  | [] :: rest => (rest.map dropReturn).reverse
  | last :: rest => (last :: rest.map dropReturn).reverse

/-- The lines of a string. -/
def linesOf (s : String) : List String := (lines s.toList).map String.ofList

/-- The text with a line feed after each line. -/
def unlines (ls : List String) : String := String.join (ls.map (· ++ "\n"))

/-! ## Lemmas -/

theorem splitFrom_append (p : Char → Bool) (piece : List Char) (acc : List (List Char))
    (s : List Char) : splitFrom p piece acc s = acc.reverse ++ splitFrom p piece [] s := by
  induction s generalizing piece acc with
  | nil => simp [splitFrom]
  | cons c r ih =>
    simp only [splitFrom]
    split
    · rw [ih, ih [] [piece.reverse]]; simp
    · exact ih _ _

theorem splitFrom_ne_nil (p : Char → Bool) (piece : List Char) (acc : List (List Char))
    (s : List Char) : splitFrom p piece acc s ≠ [] := by
  induction s generalizing piece acc with
  | nil => simp [splitFrom]
  | cons c r ih => simp only [splitFrom]; split <;> exact ih _ _

end BuildLoop.Text
