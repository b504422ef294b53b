import BuildLoop.Text.Search

/-!
# Percent escapes

An escape is a percent sign with two hexadecimal digits, and stands for a byte. Which characters are
escaped depends on the part of an address that they are in; those beyond ASCII always are, as the
bytes of their UTF-8 form.

    unescape (escape isEscaped cs) = the bytes of cs          if `isEscaped '%'`
-/

namespace BuildLoop.Url

/-! ## Escapes -/

/-- The value of a hexadecimal digit. -/
def digitValue? (c : Char) : Option Nat :=
  if '0' ≤ c ∧ c ≤ '9' then some (c.toNat - 48)
  else if 'a' ≤ c ∧ c ≤ 'f' then some (c.toNat - 87)
  else if 'A' ≤ c ∧ c ≤ 'F' then some (c.toNat - 55)
  else none

/-- The escape of a byte. -/
def escapeByte (b : UInt8) : List Char :=
  ['%', (Nat.digitChar (b.toNat / 16)).toUpper, (Nat.digitChar (b.toNat % 16)).toUpper]

/-- The bytes of a character. -/
def bytesOf (c : Char) : List UInt8 := (String.singleton c).toUTF8.toList

/-- The text with escapes for the characters that need them. -/
def escape (isEscaped : Char → Bool) (cs : List Char) : String :=
  String.ofList (cs.flatMap fun c =>
    if isEscaped c || c.toNat ≥ 128 then (bytesOf c).flatMap escapeByte else [c])

/-- The bytes that a text with escapes stands for. What is no escape stands for itself. -/
def unescape : List Char → List UInt8
  | '%' :: a :: b :: r =>
    match digitValue? a, digitValue? b with
    | some x, some y => UInt8.ofNat (16 * x + y) :: unescape r
    | _, _ => 37 :: unescape (a :: b :: r)
  | c :: r => bytesOf c ++ unescape r
  | [] => []

/-- The text that a text with escapes stands for, if its bytes are one. -/
def unescaped? (cs : List Char) : Option String := String.fromUTF8? ⟨(unescape cs).toArray⟩

/-! ## What is escaped -/

/-- Control characters are escaped everywhere. -/
def isControl (c : Char) : Bool := c.toNat < 32 || c.toNat == 127

/-- What is escaped in a fragment. -/
def inFragment (c : Char) : Bool := isControl c || " \"<>\x60".toList.contains c

/-- What is escaped in a name of a path. -/
def inPath (c : Char) : Bool := inFragment c || "#?\x7b\x7d".toList.contains c

/-- What is escaped in the name of a user. -/
def inUser (c : Char) : Bool := inPath c || "/:;=@[\\]^|".toList.contains c

/-- What is escaped in a query. -/
def inQuery (isWeb : Bool) (c : Char) : Bool :=
  isControl c || " \"#<>".toList.contains c || (isWeb && c == '\'')

end BuildLoop.Url
