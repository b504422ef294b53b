import BuildLoop.Text.Composition
import BuildLoop.Url.Domain.Direction
import BuildLoop.Url.Domain.Joining
import BuildLoop.Url.Percent
import BuildLoop.Url.Punycode

/-!
# Domains

A domain is a row of labels between dots. It is shown in ASCII: what goes beyond it in a label is written
after `xn--`, and what a label that is written so already stands for must be folded and composed.

    label? cs = some l     →   l.ascii is in ASCII, and l.chars is what it stands for
    inAscii? cs = some d   →   d is in ASCII, without capitals and without forbidden characters
-/

namespace BuildLoop.Url.Domain

open Text

/-! ## Labels -/

/-- A label. -/
structure Label where
  /-- What the label stands for. -/
  chars : List Char
  /-- How it is written. -/
  ascii : List Char

/-- What a label in ASCII starts with that stands for another. -/
def codeHead : List Char := ['x', 'n', '-', '-']

/-- How many characters a label beyond ASCII may have. -/
def labelLimit : Nat := 1000

/-- How many characters may follow the head of a label that stands for another. -/
def codeLimit : Nat := 2000

/-- Whether characters are in ASCII. -/
def isAscii (cs : List Char) : Bool := cs.all (·.toNat < 128)

/-- Whether a label starts as a text does, and whether its joiners may stand where they do. -/
def isSound (cs : List Char) : Bool := !cs.head?.any isMark && joinersFit [] cs

/-- What a code stands for, if writing that in ASCII is no choice. -/
def decoded? (code : List Char) : Option (List Char) :=
  if code.getLast? == some '-' || code.isEmpty || code.length > codeLimit || !isAscii code then none
  else (Punycode.decode? code).filter fun cs =>
    !isAscii cs && cs.all isFolded && composed cs == cs && !codeHead.isPrefixOf cs

/-- The label that folded and composed characters are. -/
def label? (cs : List Char) : Option Label :=
  match after? codeHead cs with
  | some code => ((decoded? code).filter isSound).map (⟨·, cs⟩)
  | none =>
    if !isSound cs then none
    else if isAscii cs then some ⟨cs, cs⟩
    else if cs.length > labelLimit then none
    else some ⟨cs, codeHead ++ Punycode.encode cs⟩

/-! ## Domains -/

/-- Characters in ASCII that a domain may not hold. -/
def isForbidden (c : Char) : Bool := isControl c || " %#/:<>?@[\\]^|".toList.contains c

/-- The labels of a domain. Where one of them is shown from the right, all must keep their place. -/
def labels? (cs : List Char) : Option (List Label) := do
  let shown := composed (← folded? cs)
  if shown.any isForbidden then none
  else
    let ls ← (splitAtEach (· == '.') shown).mapM label?
    let isMixed := ls.any fun l => l.chars.any fun c => (direction c).isRight
    if isMixed && !ls.all (isSteady ·.chars) then none else some ls

/-- A domain in ASCII. -/
def inAscii? (cs : List Char) : Option (List Char) :=
  (labels? cs).map fun ls => ['.'].intercalate (ls.map (·.ascii))

end BuildLoop.Url.Domain
