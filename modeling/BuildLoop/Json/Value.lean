import BuildLoop.Number.Shortest

/-!
# JSON values and their text

A value is null, a truth value, a number, a text, a list or an object. An object keeps its members
in the order they were given; objects that are sorted by key are built with `Json.insert`.

The compact text has no blanks. The indented text puts each item and member on a line of its own,
two spaces deeper than the brackets around it.

    lookup k (insert k v ms) = some v                            (lookup_insert)
-/

namespace BuildLoop

/-- Puts a value into a table sorted by key, in place of one with the same key. -/
def putKey {α : Type} (key : String) (value : α) : List (String × α) → List (String × α)
  | [] => [(key, value)]
  | (k, v) :: r =>
    if k = key then (key, value) :: r
    else if key < k then (key, value) :: (k, v) :: r
    else (k, v) :: putKey key value r

/-- A number: whole, or a binary one. -/
inductive Json.Number where
  | whole (n : Int)
  | real (b : Number.Binary)
  deriving DecidableEq, Repr

/-- A JSON value. -/
inductive Json where
  | null
  | bool (b : Bool)
  | number (n : Json.Number)
  | text (s : String)
  | list (items : List Json)
  | object (members : List (String × Json))
  deriving Repr

namespace Json

/-! ## Building and looking up -/

/-- A natural number. -/
def ofNat (n : Nat) : Json := .number (.whole n)

/-- A list of texts. -/
def texts (ss : List String) : Json := .list (ss.map .text)

/-- A text or null. -/
def optionalText (s : Option String) : Json := (s.map .text).getD .null

/-- A natural number or null. -/
def optionalNat (n : Option Nat) : Json := (n.map ofNat).getD .null

/-- The value of the first member with this key. -/
def lookup (key : String) : List (String × Json) → Option Json
  | [] => none
  | (k, v) :: r => if k = key then some v else lookup key r

/-- Puts a member into a list sorted by key, replacing one with the same key. -/
def insert (key : String) (value : Json) : List (String × Json) → List (String × Json)
  | [] => [(key, value)]
  | (k, v) :: r =>
    if k = key then (key, value) :: r
    else if key < k then (key, value) :: (k, v) :: r
    else (k, v) :: insert key value r

/-- The member of an object with this key. -/
def field? (j : Json) (key : String) : Option Json :=
  match j with
  | .object ms => lookup key ms
  | _ => none

/-- The text, if the value is one. -/
def asText? : Json → Option String
  | .text s => some s
  | _ => none

/-- The natural number, if the value is one. -/
def asNat? : Json → Option Nat
  | .number (.whole (.ofNat n)) => some n
  | _ => none

/-- The items, if the value is a list. -/
def asList? : Json → Option (List Json)
  | .list items => some items
  | _ => none

/-! ## Text -/

/-- The digits of a control character's code after `\u00`. -/
def controlDigits (n : Nat) : List Char :=
  [Nat.digitChar (n / 16), Nat.digitChar (n % 16)]

/-- One character inside a JSON string. -/
def escapeChar (c : Char) : List Char :=
  if c = '"' then ['\\', '"']
  else if c = '\\' then ['\\', '\\']
  else if c = '\n' then ['\\', 'n']
  else if c = '\r' then ['\\', 'r']
  else if c = '\t' then ['\\', 't']
  else if c.toNat = 8 then ['\\', 'b']
  else if c.toNat = 12 then ['\\', 'f']
  else if c.toNat < 32 then ['\\', 'u', '0', '0'] ++ controlDigits c.toNat
  else [c]

/-- A JSON string. -/
def textString (s : String) : String :=
  String.ofList ('"' :: s.toList.flatMap escapeChar ++ ['"'])

/-- A number's text. -/
def Number.text : Json.Number → String
  | .whole n => toString n
  | .real b => b.text

mutual

/-- The text without blanks. -/
def compact : Json → String
  | .null => "null"
  | .bool b => if b then "true" else "false"
  | .number n => n.text
  | .text s => textString s
  | .list items => "[" ++ compactItems items ++ "]"
  | .object members => "\x7b" ++ compactMembers members ++ "\x7d"

/-- The items of a list, separated by commas. -/
def compactItems : List Json → String
  | [] => ""
  | [j] => compact j
  | j :: r => compact j ++ "," ++ compactItems r

/-- The members of an object, separated by commas. -/
def compactMembers : List (String × Json) → String
  | [] => ""
  | [(k, j)] => textString k ++ ":" ++ compact j
  | (k, j) :: r => textString k ++ ":" ++ compact j ++ "," ++ compactMembers r

end

/-- A line feed and the blanks of a depth. -/
def newline (depth : Nat) : String := "\n" ++ String.ofList (List.replicate (2 * depth) ' ')

mutual

/-- The text with a line for each item and member, inside brackets at `depth`. -/
def indentedAt (depth : Nat) : Json → String
  | .null => "null"
  | .bool b => if b then "true" else "false"
  | .number n => n.text
  | .text s => textString s
  | .list [] => "[]"
  | .list (j :: r) => "[" ++ indentedItems (depth + 1) (j :: r) ++ newline depth ++ "]"
  | .object [] => "\x7b\x7d"
  | .object (m :: r) =>
    "\x7b" ++ indentedMembers (depth + 1) (m :: r) ++ newline depth ++ "\x7d"

/-- The items of a list, each on its line. -/
def indentedItems (depth : Nat) : List Json → String
  | [] => ""
  | [j] => newline depth ++ indentedAt depth j
  | j :: r => newline depth ++ indentedAt depth j ++ "," ++ indentedItems depth r

/-- The members of an object, each on its line. -/
def indentedMembers (depth : Nat) : List (String × Json) → String
  | [] => ""
  | [(k, j)] => newline depth ++ textString k ++ ": " ++ indentedAt depth j
  | (k, j) :: r =>
    newline depth ++ textString k ++ ": " ++ indentedAt depth j ++ "," ++ indentedMembers depth r

end

/-- The text with a line for each item and member. -/
def indented (j : Json) : String := indentedAt 0 j

/-! ## Lemmas -/

theorem lookup_insert (key : String) (value : Json) (ms : List (String × Json)) :
    lookup key (insert key value ms) = some value := by
  induction ms with
  | nil => simp [insert, lookup]
  | cons m r ih =>
    obtain ⟨k, v⟩ := m
    simp only [insert]
    split
    · simp [lookup]
    · split
      · simp [lookup]
      · next h _ => simp [lookup, h, ih]

end Json

end BuildLoop
