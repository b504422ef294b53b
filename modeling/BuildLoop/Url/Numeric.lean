import BuildLoop.Text.Blank
import BuildLoop.Url.Percent

/-!
# Numeric hosts

A host may be a number of 32 bits, written as one to four numbers to the bases 8, 10 or 16, of which
the last fills what the others leave. It may be a number of 128 bits, written between brackets as
eight groups of hexadecimal digits; there one run of zero groups may be left out, and the last two
groups may be written as four numbers of eight bits.

    address4? host = some n   →   n < 2^32
    groups? text = some gs    →   gs has eight members, each below 65536
-/

namespace BuildLoop.Url

open Text

/-! ## 32 bits -/

/-- The number that digits to a base are. -/
def digitsValue? (base : Nat) (cs : List Char) : Option Nat :=
  cs.foldlM (fun n c => (digitValue? c).bind fun d =>
    if d < base then some (base * n + d) else none) 0

/-- The number that a part is: hexadecimal after `0x`, octal after `0`, else decimal. -/
def partValue? : List Char → Option Nat
  | [] => none
  | ['0'] => some 0
  | '0' :: 'x' :: r => digitsValue? 16 r
  | '0' :: 'X' :: r => digitsValue? 16 r
  | '0' :: r => digitsValue? 8 r
  | cs => digitsValue? 10 cs

/-- The parts of a host, a last empty one left out. -/
def hostParts (host : List Char) : List (List Char) :=
  let parts := splitAtEach (· == '.') host
  if parts.length > 1 && parts.getLast? == some [] then parts.dropLast else parts

/-- Whether the last part of a host makes it a number, right or wrong. -/
def endsInNumber (host : List Char) : Bool :=
  match (hostParts host).getLast? with
  | some part => (!part.isEmpty && part.all Char.isDigit) || (partValue? part).isSome
  | none => false

/-- The number that numbers stand for which share `room` bytes. -/
def joinParts? (room : Nat) : List Nat → Option Nat
  | [] => none
  | [n] => if n < Nat.pow 256 room then some n else none
  | n :: r =>
    if n > 255 then none
    else (joinParts? (room - 1) r).map (n * Nat.pow 256 (room - 1) + ·)

/-- The number of 32 bits that a host is. -/
def address4? (host : List Char) : Option Nat :=
  let parts := hostParts host
  if parts.length > 4 then none else (parts.mapM partValue?).bind (joinParts? 4)

/-- A number of 32 bits as four numbers. -/
def address4Text (n : Nat) : String :=
  ".".intercalate ([16777216, 65536, 256, 1].map fun place => toString (n / place % 256))

/-! ## 128 bits -/

/-- A number of eight bits in its shortest decimal form. -/
def byteValue? (cs : List Char) : Option Nat :=
  if cs.isEmpty || cs.length > 3 || (cs.length > 1 && cs.head? == some '0') then none
  else (digitsValue? 10 cs).bind fun n => if n < 256 then some n else none

/-- The two groups that four numbers of eight bits stand for. -/
def dottedGroups? (cs : List Char) : Option (List Nat) :=
  match (splitAtEach (· == '.') cs).mapM byteValue? with
  | some [a, b, c, d] => some [256 * a + b, 256 * c + d]
  | _ => none

/-- The groups between colons; the last may be dotted if `mayBeDotted`. -/
def someGroups? (mayBeDotted : Bool) : List (List Char) → Option (List Nat)
  | [] => some []
  | g :: r =>
    if mayBeDotted && r.isEmpty && g.contains '.' then dottedGroups? g
    else if g.isEmpty || g.length > 4 then none
    else do
      let n ← digitsValue? 16 g
      let ns ← someGroups? mayBeDotted r
      some (n :: ns)

/-- The groups of a text without a left out run. -/
def groupsOf? (mayBeDotted : Bool) (cs : List Char) : Option (List Nat) :=
  if cs.isEmpty then some [] else someGroups? mayBeDotted (splitAtEach (· == ':') cs)

/-- The eight groups that a text stands for. -/
def groups? (cs : List Char) : Option (List Nat) :=
  match cutAt [':', ':'] cs with
  | none => (groupsOf? true cs).bind fun gs => if gs.length = 8 then some gs else none
  | some (before, after) => do
    let front ← groupsOf? false before
    let back ← groupsOf? true after
    let given := front.length + back.length
    if given < 8 then some (front ++ List.replicate (8 - given) 0 ++ back) else none

/-- How many zero groups stand at the front. -/
def zeros (gs : List Nat) : Nat := (gs.takeWhile (· == 0)).length

/-- Where the longest run of zero groups starts that has more than `least`, the first of those, and
how many it has. -/
def longestRun (place : Nat) (best : Option (Nat × Nat)) (least : Nat) :
    List Nat → Option (Nat × Nat)
  | [] => best
  | g :: r =>
    let n := zeros (g :: r)
    if n > least then longestRun (place + 1) (some (place, n)) n r
    else longestRun (place + 1) best least r

/-- Groups in hexadecimal. -/
def hexGroups (gs : List Nat) : String :=
  ":".intercalate (gs.map fun g => String.ofList (Nat.toDigits 16 g))

/-- Eight groups in text, with the first of the longest runs of zeros left out. -/
def groupsText (gs : List Nat) : String :=
  match longestRun 0 none 1 gs with
  | none => hexGroups gs
  | some (start, n) => hexGroups (gs.take start) ++ "::" ++ hexGroups (gs.drop (start + n))

end BuildLoop.Url
