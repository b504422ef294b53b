import BuildLoop.Json.Value
import BuildLoop.Text.Printable

/-!
# Reading JSON text

A reader works on a `Source`: the characters ahead, and the line and the column (in bytes) of the
place. What stops a reader is a `Stop`: a message at a place, or a message whose place is found by
the list or object around it, once it has passed over its closing bracket.

    readText (source of escape s, then a quote) = s         a string reads back what was escaped

Whether a place lies before or after the character that was looked at is part of the message: a
character that was taken is behind the place, one that was only looked at lies under it.
-/

namespace BuildLoop.Json

/-! ## Places -/

/-- A line, from one, and how many bytes of it lie before the place. -/
structure Mark where
  line : Nat
  column : Nat
  deriving DecidableEq, Repr

/-- The characters ahead and the place they start at. -/
structure Source where
  rest : List Char
  mark : Mark

/-- The beginning of a text. -/
def Source.start (s : List Char) : Source := ⟨s, ⟨1, 0⟩⟩

/-- The place after a character. -/
def Mark.past (m : Mark) (c : Char) : Mark :=
  if c = '\n' then ⟨m.line + 1, 0⟩ else ⟨m.line, m.column + c.utf8Size⟩

/-- The place one byte on. -/
def Mark.pastByte (m : Mark) (s : List Char) : Mark :=
  match s with
  | [] => m
  | '\n' :: _ => ⟨m.line + 1, 0⟩
  | _ :: _ => ⟨m.line, m.column + 1⟩

/-- The place `n` bytes on, or the end of the text. -/
def Mark.pastBytes (m : Mark) : Nat → List Char → Mark
  | _, [] => m
  | n, c :: r =>
    if c.utf8Size ≤ n then (m.past c).pastBytes (n - c.utf8Size) r
    else ⟨m.line, m.column + n⟩

/-- The place under the character ahead, counted after it. -/
def Source.ahead (s : Source) : Mark := s.mark.pastByte s.rest

/-- Passes over the blanks of JSON. -/
def skipFrom (m : Mark) : List Char → Source
  | [] => ⟨[], m⟩
  | c :: r =>
    if c = ' ' ∨ c = '\n' ∨ c = '\t' ∨ c = '\r' then skipFrom (m.past c) r
    else ⟨c :: r, m⟩

/-- Passes over the blanks of JSON. -/
def Source.skip (s : Source) : Source := skipFrom s.mark s.rest

/-- The source after the character ahead. -/
def Source.drop (s : Source) : Source :=
  match s.rest with
  | [] => s
  | c :: r => ⟨r, s.mark.past c⟩

/-! ## What stops a reader -/

/-- Whether the text is no JSON, ends too early, or is JSON of the wrong shape. -/
inductive Category where
  | malformed
  | cutShort
  | wrongShape
  deriving DecidableEq, Repr

/-- One step of the way to a value. -/
inductive Step where
  | key (k : String)
  | index (n : Nat)

/-- Why reading stopped. -/
inductive Stop where
  /-- A message at a place; the steps lead to the value that was read. -/
  | at (category : Category) (message : String) (mark : Mark) (path : List Step)
  /-- A message about a shape whose place the surrounding brackets determine. -/
  | loose (message : String) (source : Source) (path : List Step)

/-- What a reader answers: a value and what follows it. -/
abbrev Read (α : Type) := Except Stop (α × Source)

/-- Stops: the text is no JSON here. -/
def malformed {α : Type} (message : String) (mark : Mark) : Except Stop α :=
  .error (.at .malformed message mark [])

/-- Stops: the text ends here. -/
def cutShort {α : Type} (message : String) (mark : Mark) : Except Stop α :=
  .error (.at .cutShort message mark [])

/-- Stops: a value of another shape was expected. -/
def wrongShape {α : Type} (message : String) (mark : Mark) : Except Stop α :=
  .error (.at .wrongShape message mark [])

/-- Stops: the members or items do not make up the shape. -/
def loose {α : Type} (message : String) (source : Source) : Except Stop α :=
  .error (.loose message source [])

/-- The stop with one more step at the front of its path. -/
def Stop.under (step : Step) : Stop → Stop
  | .at c m k path => .at c m k (step :: path)
  | .loose m s path => .loose m s (step :: path)

/-- Passes a stop on from under a step. -/
def under {α : Type} (step : Step) (r : Except Stop α) : Except Stop α :=
  match r with
  | .error e => .error (e.under step)
  | .ok a => .ok a

/-- Gives a loose stop its place. -/
def Stop.settle (place : Source → Mark) : Stop → Stop
  | .loose m s path => .at .wrongShape m (place s) path
  | e => e

/-- Gives a loose stop its place. -/
def settle {α : Type} (place : Source → Mark) (r : Except Stop α) : Except Stop α :=
  match r with
  | .error e => .error (e.settle place)
  | .ok a => .ok a

/-- The place after trying to close an object. -/
def closeObject (s : Source) : Mark :=
  match s.skip.rest with
  | '\x7d' :: _ => s.skip.drop.mark
  | _ => s.skip.mark

/-- The place after trying to close a list. -/
def closeList (s : Source) : Mark :=
  match s.skip.rest with
  | ']' :: _ => s.skip.drop.mark
  | ',' :: _ => s.skip.drop.skip.mark
  | _ => s.skip.mark

/-- The message and its place, as one line. -/
def Stop.text : Stop → String
  | .at _ m k _ => m ++ " at line " ++ toString k.line ++ " column " ++ toString k.column
  | .loose m _ _ => m

/-- The line of a stop. -/
def Stop.line : Stop → Nat
  | .at _ _ k _ => k.line
  | .loose .. => 0

/-- The category of a stop. -/
def Stop.category : Stop → Category
  | .at c .. => c
  | .loose .. => .wrongShape

/-- The steps to the value that was read, as text. -/
def pathText : List Step → String
  | [] => ""
  | .index n :: r => "[" ++ toString n ++ "]" ++ pathText r
  | .key k :: r => k ++ (match r with | .key _ :: _ => "." | _ => "") ++ pathText r

/-- The message with the steps to the value in front. -/
def Stop.textWithPath (e : Stop) : String :=
  let path := match e with
    | .at _ _ _ p => p
    | .loose _ _ p => p
  if path.isEmpty then e.text else pathText path ++ ": " ++ e.text

/-! ## Words -/

/-- Takes exactly these letters. -/
def readLetters (s : Source) : List Char → Except Stop Source
  | [] => .ok s
  | l :: letters =>
    match s.rest with
    | [] => cutShort "EOF while parsing a value" s.mark
    | c :: _ => if c = l then readLetters s.drop letters else malformed "expected ident" s.ahead

/-! ## Strings -/

/-- The value of a hexadecimal digit. -/
def hexValue? (c : Char) : Option Nat :=
  if '0' ≤ c ∧ c ≤ '9' then some (c.toNat - '0'.toNat)
  else if 'a' ≤ c ∧ c ≤ 'f' then some (c.toNat - 'a'.toNat + 10)
  else if 'A' ≤ c ∧ c ≤ 'F' then some (c.toNat - 'A'.toNat + 10)
  else none

/-- The value of four hexadecimal digits. -/
def hexValues? : List Char → Option Nat
  | a :: b :: c :: d :: _ => do
    let a ← hexValue? a
    let b ← hexValue? b
    let c ← hexValue? c
    let d ← hexValue? d
    some (((a * 16 + b) * 16 + c) * 16 + d)
  | _ => none

/-- The bytes of a text. -/
def byteCount (s : List Char) : Nat := s.foldl (fun n c => n + c.utf8Size) 0

/-- Stops at four bytes that are no hexadecimal digits. -/
def badHex {α : Type} (m : Mark) (s : List Char) : Except Stop α :=
  if byteCount (s.take 4) < 4 then
    cutShort "EOF while parsing a string" (m.pastBytes (byteCount s) s)
  else malformed "invalid escape" (m.pastBytes 4 s)

/-- The place after `n` characters that are one byte each. -/
def Mark.right (m : Mark) (n : Nat) : Mark := ⟨m.line, m.column + n⟩

/-- Reads the rest of a string, after its opening quote; `acc` holds what was read, last first.
A surrogate pair stands for one character; in a string that is passed over (`keep` is false) a
lone surrogate is let through, and a control character lies ahead of the place, not behind it. -/
def readTextFrom (keep : Bool) (acc : List Char) (m : Mark) : List Char → Read String
  | [] => cutShort "EOF while parsing a string" m
  | '"' :: r => .ok (String.ofList acc.reverse, ⟨r, m.right 1⟩)
  | '\\' :: r =>
    match r with
    | [] => cutShort "EOF while parsing a string" (m.right 1)
    | '"' :: r => readTextFrom keep ('"' :: acc) (m.right 2) r
    | '\\' :: r => readTextFrom keep ('\\' :: acc) (m.right 2) r
    | '/' :: r => readTextFrom keep ('/' :: acc) (m.right 2) r
    | 'b' :: r => readTextFrom keep (Char.ofNat 8 :: acc) (m.right 2) r
    | 'f' :: r => readTextFrom keep (Char.ofNat 12 :: acc) (m.right 2) r
    | 'n' :: r => readTextFrom keep ('\n' :: acc) (m.right 2) r
    | 'r' :: r => readTextFrom keep ('\r' :: acc) (m.right 2) r
    | 't' :: r => readTextFrom keep ('\t' :: acc) (m.right 2) r
    | 'u' :: r =>
      match hexValues? r with
      | none => badHex (m.right 2) r
      | some n =>
        match r with
        | _ :: _ :: _ :: _ :: r =>
          let m := m.right 6
          if !keep || n < 0xd800 || 0xdfff < n then readTextFrom keep (Char.ofNat n :: acc) m r
          else if 0xdc00 ≤ n then malformed "lone leading surrogate in hex escape" m
          else match r with
            | [] => cutShort "EOF while parsing a string" m
            | '\\' :: [] => cutShort "EOF while parsing a string" (m.right 1)
            | '\\' :: 'u' :: r =>
              match hexValues? r with
              | none => badHex (m.right 2) r
              | some n₂ =>
                match r with
                | _ :: _ :: _ :: _ :: r =>
                  let m := m.right 6
                  if n₂ < 0xdc00 || 0xdfff < n₂ then
                    malformed "lone leading surrogate in hex escape" m
                  else
                    let code := (n - 0xd800) * 0x400 + (n₂ - 0xdc00) + 0x10000
                    readTextFrom keep (Char.ofNat code :: acc) m r
                | _ => badHex (m.right 2) r
            | '\\' :: c :: _ =>
              malformed "unexpected end of hex escape" ((m.right 1).pastByte [c])
            | c :: _ => malformed "unexpected end of hex escape" (m.pastByte [c])
        | _ => badHex (m.right 2) r
    | c :: _ => malformed "invalid escape" ((m.right 1).pastByte [c])
  | c :: r =>
    if c.toNat < 32 then
      malformed "control character (\\u0000-\\u001F) found while parsing a string"
        (if keep then m.past c else m)
    else readTextFrom keep (c :: acc) (m.past c) r

/-- Reads the rest of a string, after its opening quote. -/
def readText (s : Source) : Read String := readTextFrom true [] s.mark s.rest

/-- Passes over the rest of a string, after its opening quote. -/
def ignoreText (s : Source) : Except Stop Source :=
  match readTextFrom false [] s.mark s.rest with
  | .error e => .error e
  | .ok (_, s) => .ok s

/-! ## Numbers -/

/-- Takes the decimal digits ahead; the value so far is `n`. The digits stop early at one that
would take the value beyond 64 bits, and the flag tells whether they did. -/
def readDigits (n : Nat) (count : Nat) (m : Mark) : List Char → (Nat × Nat × Bool) × Source
  | [] => ((n, count, false), ⟨[], m⟩)
  | c :: r =>
    if c.isDigit then
      let n' := n * 10 + (c.toNat - '0'.toNat)
      if n' < Nat.pow 2 64 then readDigits n' (count + 1) (m.right 1) r
      else ((n, count, true), ⟨c :: r, m⟩)
    else ((n, count, false), ⟨c :: r, m⟩)

/-- Passes over the decimal digits ahead and counts them. -/
def skipDigits (count : Nat) (m : Mark) : List Char → Nat × Source
  | [] => (count, ⟨[], m⟩)
  | c :: r => if c.isDigit then skipDigits (count + 1) (m.right 1) r else (count, ⟨c :: r, m⟩)

/-- Takes the digits of an exponent; the value so far is `n`. The digits stop early after one that
takes the value beyond 31 bits, and there is no value then. -/
def readExponentDigits (n : Nat) (m : Mark) : List Char → Option Nat × Source
  | [] => (some n, ⟨[], m⟩)
  | c :: r =>
    if c.isDigit then
      let n := n * 10 + (c.toNat - '0'.toNat)
      if n < Nat.pow 2 31 then readExponentDigits n (m.right 1) r else (none, ⟨r, m.right 1⟩)
    else (some n, ⟨c :: r, m⟩)

/-- A decimal as a number of 64 bits, unless it is out of range. -/
def decimal (negative : Bool) (significand : Nat) (exponent : Int) (s : Source) :
    Read Json.Number :=
  match Number.ofDecimal significand exponent with
  | some (m, e) => .ok (.real ⟨negative, m, e⟩, s)
  | none => malformed "number out of range" s.mark

/-- Reads the exponent of a number, after the letter. -/
def readExponent (negative : Bool) (significand : Nat) (exponent : Int) (s : Source) :
    Read Json.Number :=
  let (down, s) := match s.rest with
    | '+' :: _ => (false, s.drop)
    | '-' :: _ => (true, s.drop)
    | _ => (false, s)
  match s.rest with
  | [] => cutShort "EOF while parsing a value" s.mark
  | c :: _ =>
    if c.isDigit then
      match readExponentDigits 0 s.mark s.rest with
      | (some n, s) => decimal negative significand (if down then exponent - n else exponent + n) s
      | (none, s) =>
        if significand ≠ 0 ∧ !down then malformed "number out of range" s.mark
        else .ok (.real ⟨negative, 0, 0⟩, (skipDigits 0 s.mark s.rest).2)
    else malformed "invalid number" s.ahead

/-- Reads what may follow the digits of a number: an exponent or nothing. -/
def readTail (negative : Bool) (significand : Nat) (exponent : Int) (s : Source) :
    Read Json.Number :=
  match s.rest with
  | 'e' :: _ => readExponent negative significand exponent s.drop
  | 'E' :: _ => readExponent negative significand exponent s.drop
  | _ => decimal negative significand exponent s

/-- Reads the places of a number, after the point. -/
def readPlaces (negative : Bool) (significand : Nat) (exponent : Int) (s : Source) :
    Read Json.Number :=
  let ((n, count, tooLarge), s) := readDigits significand 0 s.mark s.rest
  if tooLarge then
    readTail negative n (exponent - count) (skipDigits 0 s.mark s.rest).2
  else if count = 0 then
    match s.rest with
    | [] => cutShort "EOF while parsing a value" s.mark
    | _ => malformed "invalid number" s.ahead
  else readTail negative n (exponent - count) s

/-- The whole number with a sign; minus zero and what is below 64 bits is a binary number. -/
def wholeNumber (negative : Bool) (n : Nat) (s : Source) : Read Json.Number :=
  if !negative then .ok (.whole n, s)
  else if n = 0 ∨ Nat.pow 2 63 < n then
    match Number.roundRatio .double n 1 with
    | some (m, e) => .ok (.real ⟨true, m, e⟩, s)
    | none => malformed "number out of range" s.mark
  else .ok (.whole (-n), s)

/-- Reads what follows the whole part of a number. -/
def readFraction (negative : Bool) (n : Nat) (s : Source) : Read Json.Number :=
  match s.rest with
  | '.' :: _ => readPlaces negative n 0 s.drop
  | 'e' :: _ => readExponent negative n 0 s.drop
  | 'E' :: _ => readExponent negative n 0 s.drop
  | _ => wholeNumber negative n s

/-- Reads a number, after its sign. -/
def readNumber (negative : Bool) (s : Source) : Read Json.Number :=
  match s.rest with
  | [] => cutShort "EOF while parsing a value" s.mark
  | '0' :: r =>
    match r with
    | c :: _ =>
      if c.isDigit then malformed "invalid number" s.drop.ahead else readFraction negative 0 s.drop
    | [] => readFraction negative 0 s.drop
  | c :: _ =>
    if c.isDigit then
      let ((n, _, tooLarge), s) := readDigits 0 0 s.mark s.rest
      if tooLarge then
        let (dropped, s) := skipDigits 0 s.mark s.rest
        match s.rest with
        | '.' :: _ => readPlaces negative n dropped s.drop
        | _ => readTail negative n dropped s
      else readFraction negative n s
    else malformed "invalid number" s.ahead

/-- Passes over a number, after its sign. -/
def ignoreNumber (s : Source) : Except Stop Source := do
  let s ← match s.rest with
    | '0' :: c :: _ =>
      if c.isDigit then malformed "invalid number" s.drop.ahead else pure s.drop
    | c :: _ =>
      if c.isDigit then pure (skipDigits 0 s.mark s.rest).2 else malformed "invalid number" s.ahead
    | [] => malformed "invalid number" s.ahead
  let s ← match s.rest with
    | '.' :: _ =>
      let (count, s) := skipDigits 0 s.drop.mark s.drop.rest
      if count = 0 then malformed "invalid number" s.ahead else pure s
    | _ => pure s
  let exponent (s : Source) : Except Stop Source :=
    let s := match s.rest with
      | '+' :: _ => s.drop
      | '-' :: _ => s.drop
      | _ => s
    let (count, after) := skipDigits 0 s.mark s.rest
    if count = 0 then malformed "invalid number" s.ahead else pure after
  match s.rest with
  | 'e' :: _ => exponent s.drop
  | 'E' :: _ => exponent s.drop
  | _ => pure s

/-! ## Values of any shape -/

/-- The colon after a key. -/
def readColon (s : Source) : Except Stop Source :=
  match s.skip.rest with
  | ':' :: _ => .ok s.skip.drop
  | [] => cutShort "EOF while parsing an object" s.skip.mark
  | _ => malformed "expected `:`" s.skip.ahead

/-- Passes over a key, the quote of which is expected ahead, and its colon. -/
def ignoreKey (s : Source) : Except Stop Source :=
  match s.skip.rest with
  | '"' :: _ => do
    let s ← ignoreText s.skip.drop
    readColon s
  | [] => cutShort "EOF while parsing an object" s.skip.mark
  | _ => malformed "key must be a string" s.skip.ahead

/-- Passes over a value that is no list and no object. -/
def ignoreScalar (s : Source) : Except Stop Source :=
  match s.rest with
  | 'n' :: _ => readLetters s.drop ['u', 'l', 'l']
  | 't' :: _ => readLetters s.drop ['r', 'u', 'e']
  | 'f' :: _ => readLetters s.drop ['a', 'l', 's', 'e']
  | '-' :: _ => ignoreNumber s.drop
  | '"' :: _ => ignoreText s.drop
  | [] => cutShort "EOF while parsing a value" s.mark
  | c :: _ => if c.isDigit then ignoreNumber s else malformed "expected value" s.ahead

/-- Passes over a value and the rest of the brackets open around it (`true` for an object). A value
is expected ahead if `wanted`, otherwise one has just ended. Each turn takes a character, so the
characters ahead bound the turns. -/
def ignoreFrom : List Char → Bool → List Bool → Source → Except Stop Source
  | [], _, _, s => .ok s
  | _ :: turns, true, stack, s =>
    let s := s.skip
    match s.rest with
    | '[' :: _ =>
      match s.drop.skip.rest with
      | ']' :: _ => ignoreFrom turns false stack s.drop.skip.drop
      | [] => cutShort "EOF while parsing a list" s.drop.skip.mark
      | _ => ignoreFrom turns true (false :: stack) s.drop
    | '\x7b' :: _ =>
      match s.drop.skip.rest with
      | '\x7d' :: _ => ignoreFrom turns false stack s.drop.skip.drop
      | _ => do
        let s ← ignoreKey s.drop
        ignoreFrom turns true (true :: stack) s
    | _ => do
      let s ← ignoreScalar s
      ignoreFrom turns false stack s
  | _ :: _, false, [], s => .ok s
  | _ :: turns, false, inObject :: stack, s =>
    let s := s.skip
    match s.rest with
    | ',' :: _ =>
      if inObject then do
        let s ← ignoreKey s.drop
        ignoreFrom turns true (inObject :: stack) s
      else ignoreFrom turns true (inObject :: stack) s.drop
    | c :: _ =>
      if c = (if inObject then '\x7d' else ']') then ignoreFrom turns false stack s.drop
      else malformed (if inObject then "expected `,` or `\x7d`" else "expected `,` or `]`") s.ahead
    | [] =>
      cutShort (if inObject then "EOF while parsing an object" else "EOF while parsing a list")
        s.mark

/-- Passes over a value of any shape. -/
def ignoreValue (s : Source) : Except Stop Source := ignoreFrom (' ' :: s.rest) true [] s

/-- Finds the next item of a list ahead, or its closing bracket. -/
def readNext (first : Bool) (s : Source) : Except Stop (Option Source) :=
  let s := s.skip
  match s.rest with
  | ']' :: _ => .ok none
  | [] => cutShort "EOF while parsing a list" s.mark
  | c :: _ =>
    if first then .ok (some s)
    else if c ≠ ',' then malformed "expected `,` or `]`" s.ahead
    else match s.drop.skip.rest with
      | ']' :: _ => malformed "trailing comma" s.drop.skip.ahead
      | [] => cutShort "EOF while parsing a value" s.drop.skip.mark
      | _ => .ok (some s.drop.skip)

/-- Reads the items of a list up to its closing bracket, which is left ahead; an item is told how
many came before it. Each turn takes a character, so the characters ahead bound the turns. -/
def readItems {α : Type} (item : Nat → Source → Read α) :
    List Char → Nat → List α → Source → Read (List α)
  | turns, count, acc, s =>
    match readNext (count == 0) s with
    | .error e => .error e
    | .ok none => .ok (acc.reverse, s.skip)
    | .ok (some s) =>
      match item count s with
      | .error e => .error e
      | .ok (a, s) =>
        match turns with
        | [] => .ok ((a :: acc).reverse, s)
        | _ :: turns => readItems item turns (count + 1) (a :: acc) s

/-- Reads the next key of an object and its quotes, or finds the closing bracket ahead. -/
def readKey (first : Bool) (s : Source) : Read (Option String) :=
  let s := s.skip
  match s.rest with
  | '\x7d' :: _ => .ok (none, s)
  | [] => cutShort "EOF while parsing an object" s.mark
  | c :: _ =>
    let start : Except Stop Source :=
      if first then
        if c = '"' then .ok s.drop else malformed "key must be a string" s.ahead
      else if c ≠ ',' then malformed "expected `,` or `\x7d`" s.ahead
      else match s.drop.skip.rest with
        | '"' :: _ => .ok s.drop.skip.drop
        | '\x7d' :: _ => malformed "trailing comma" s.drop.skip.ahead
        | [] => cutShort "EOF while parsing a value" s.drop.skip.mark
        | _ => malformed "key must be a string" s.drop.skip.ahead
    match start with
    | .error e => .error e
    | .ok s => (readText s).map fun p => (some p.1, p.2)

/-- Reads the members of an object up to its closing bracket, which is left ahead; `member` reads
what follows a key and folds it into the state. -/
def readMembers {σ : Type} (member : σ → String → Source → Read σ) :
    List Char → Bool → σ → Source → Read σ
  | turns, first, st, s =>
    match readKey first s with
    | .error e => .error e
    | .ok (none, s) => .ok (st, s)
    | .ok (some key, s) =>
      match member st key s with
      | .error e => .error e
      | .ok (st, s) =>
        match turns with
        | [] => .ok (st, s)
        | _ :: turns => readMembers member turns false st s

/-- Reads an object between its brackets. -/
def readObject {σ : Type} (member : σ → String → Source → Read σ) (st : σ) (s : Source) :
    Read σ :=
  match readMembers member s.drop.rest true st s.drop with
  | .error e => .error e
  | .ok (st, s) => .ok (st, s.drop)

/-- Closes a list whose items were read. -/
def endList (s : Source) : Except Stop Source :=
  match s.skip.rest with
  | ']' :: _ => .ok s.skip.drop
  | ',' :: _ =>
    match s.skip.drop.skip.rest with
    | ']' :: _ => malformed "trailing comma" s.skip.drop.skip.ahead
    | _ => malformed "trailing characters" s.skip.drop.skip.ahead
  | [] => cutShort "EOF while parsing a list" s.skip.mark
  | _ => malformed "trailing characters" s.skip.ahead

/-- Reads a value that is no list and no object. -/
def readScalar (s : Source) : Read Json :=
  match s.rest with
  | 'n' :: _ => (readLetters s.drop ['u', 'l', 'l']).map fun s => (.null, s)
  | 't' :: _ => (readLetters s.drop ['r', 'u', 'e']).map fun s => (.bool true, s)
  | 'f' :: _ => (readLetters s.drop ['a', 'l', 's', 'e']).map fun s => (.bool false, s)
  | '-' :: _ => (readNumber true s.drop).map fun p => (.number p.1, p.2)
  | '"' :: _ => (readText s.drop).map fun p => (.text p.1, p.2)
  | [] => cutShort "EOF while parsing a value" s.mark
  | c :: _ =>
    if c.isDigit then (readNumber false s).map fun p => (.number p.1, p.2)
    else malformed "expected value" s.ahead

/-- How the members of an object are kept: sorted by key, the last of a key winning, or all of them
as they come. -/
inductive Keep where
  | sorted
  | all

/-- Reads a value of any shape, with at most `depth` brackets open around each other. -/
def readAny (keep : Keep) : Nat → Source → Except Stop (Json × Source)
  | 0, s =>
    match s.skip.rest with
    | '[' :: _ => malformed "recursion limit exceeded" s.skip.ahead
    | '\x7b' :: _ => malformed "recursion limit exceeded" s.skip.ahead
    | _ => readScalar s.skip
  | depth + 1, s =>
    let s := s.skip
    match s.rest with
    | '[' :: _ => do
      let (items, s) ← readItems (fun _ => readAny keep depth) s.drop.rest 0 [] s.drop
      .ok (.list items, s.drop)
    | '\x7b' :: _ => do
      let member (ms : List (String × Json)) (key : String) (s : Source) :
          Except Stop (List (String × Json) × Source) := do
        let s ← readColon s
        let (v, s) ← readAny keep depth s
        .ok (match keep with
          | .sorted => (insert key v ms, s)
          | .all => ((key, v) :: ms, s))
      let (ms, s) ← readObject member [] s
      .ok (.object (match keep with
        | .sorted => ms
        | .all => ms.reverse), s)
    | _ => readScalar s

/-- How many brackets may be open around each other. -/
def depthLimit : Nat := 127

/-- Nothing but blanks may follow a value. -/
def readEnd {α : Type} (r : Read α) : Except Stop α := do
  let (a, s) ← r
  match s.skip.rest with
  | [] => .ok a
  | _ => malformed "trailing characters" s.skip.ahead

/-- Reads a text that is one JSON value; objects are sorted by key. -/
def parse (s : String) : Except Stop Json := readEnd (readAny .sorted depthLimit (.start s.toList))

end BuildLoop.Json
