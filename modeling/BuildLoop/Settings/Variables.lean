import BuildLoop.Files.Change
import BuildLoop.Text.Blank
import BuildLoop.Text.WordChar

/-!
# Files of variables

A file gives values to variables of the environment, one on a line:

    export KEY = value     # a comment

Quotes hold blanks and ends of lines. `$NAME` and `${NAME}` stand for the value of a variable, except
inside single quotes. A variable that is set already keeps its value, and nothing counts from the
first malformed line on.

    assign set? lines sets no variable that `set?` sets, and none twice
-/

namespace BuildLoop.Variables

open Text

/-! ## Lines -/

/-- What the character after some others stands in. -/
inductive Place where
  | plain
  /-- After a blank, where a comment may start. -/
  | blank
  | escaped
  | strong
  | strongEscaped
  | weak
  | weakEscaped
  deriving DecidableEq, Repr

namespace Place

/-- The place after a character outside of quotes that is no blank. -/
def afterPlain (c : Char) : Place :=
  if c = '\\' then .escaped
  else if c = '"' then .weak
  else if c = '\'' then .strong
  else .plain

/-- The place after a character. -/
def next (c : Char) : Place → Place
  | plain => if isBlank c && c != '\n' && c != '\r' then .blank else afterPlain c
  | blank => afterPlain c
  | escaped => .plain
  | strong => if c = '\\' then .strongEscaped else if c = '\'' then .plain else .strong
  | strongEscaped => .strong
  | weak => if c = '\\' then .weakEscaped else if c = '"' then .plain else .weak
  | weakEscaped => .weak

end Place

/-- What stands in a line before its comment, and the place at the end unless there is a comment. -/
def beforeComment : Place → List Char → List Char × Option Place
  | p, [] => ([], some p)
  | p, c :: r =>
    if p = .blank ∧ c = '#' then ([], none)
    else match beforeComment (p.next c) r with
      | (kept, q) => (c :: kept, q)

/-- Joins the lines of a file that a quote runs through, and drops the comments. A line that is no
text, or that the file ends in the middle of, is missing. -/
def joined (p : Place) (held : List Char) : List (Option (List Char)) → List (Option (List Char))
  | [] => if p = .plain then [] else [none]
  | none :: _ => [none]
  | some line :: r =>
    if (trimStart (held ++ line)).head? = some '#' then joined .plain [] r
    else match beforeComment p line with
      | (kept, none) => some (held ++ kept) :: joined .plain [] r
      | (_, some .plain) => some (held ++ line) :: joined .plain [] r
      | (_, some q) => joined q (held ++ line) r

/-- The lines of bytes, with their ends. -/
def byteLines (line : List UInt8) : List UInt8 → List (List UInt8)
  | [] => if line.isEmpty then [] else [line.reverse]
  | b :: r => if b = 10 then (b :: line).reverse :: byteLines [] r else byteLines (b :: line) r

/-- The bytes without the mark that says how they stand for a text. -/
def withoutMark : List UInt8 → List UInt8
  | 0xEF :: 0xBB :: 0xBF :: r => r
  | bytes => bytes

/-- The lines of a file that may assign something. -/
def linesOf (content : ByteArray) : List (Option (List Char)) :=
  joined .plain [] ((byteLines [] (withoutMark content.toList)).map fun line =>
    (String.fromUTF8? ⟨line.toArray⟩).map String.toList)

/-! ## Values -/

/-- How a value is being read. What is not in single quotes may be in double quotes. -/
inductive Reading where
  | plain (quoted : Bool)
  | strong
  | escaped (quoted : Bool)
  /-- After a dollar sign. -/
  | name (quoted : Bool) (name : List Char)
  /-- After a dollar sign and a brace. -/
  | braced (quoted : Bool) (name : List Char)
  /-- After the value. -/
  | ended

/-- The value of a variable, nothing if it is not set. -/
def valueOf (value? : String → Option String) (name : List Char) : List Char :=
  ((value? (String.ofList name)).getD "").toList

/-- The value that a text stands for; `out` is what is known of it. -/
def read? (value? : String → Option String) : Reading → List Char → List Char → Option (List Char)
  | .plain false, out, [] => some out
  | .escaped false, out, [] => some out
  | .name false name, out, [] => some (out ++ valueOf value? name)
  | .ended, out, [] => some out
  | _, _, [] => none
  | .plain quoted, out, c :: r =>
    if c = '$' then read? value? (.name quoted []) out r
    else if c = '\\' then read? value? (.escaped quoted) out r
    else if c = '"' then read? value? (.plain !quoted) out r
    else if quoted then read? value? (.plain true) (out ++ [c]) r
    else if c = '\'' then read? value? .strong out r
    else if c = ' ' ∨ c = '\t' then read? value? .ended out r
    else read? value? (.plain false) (out ++ [c]) r
  | .strong, out, c :: r =>
    if c = '\'' then read? value? (.plain false) out r else read? value? .strong (out ++ [c]) r
  | .escaped quoted, out, c :: r =>
    if c = 'n' then read? value? (.plain quoted) (out ++ ['\n']) r
    else if ['\\', '\'', '"', '$', ' '].contains c then read? value? (.plain quoted) (out ++ [c]) r
    else none
  | .name quoted name, out, c :: r =>
    if isLetterOrNumber c then read? value? (.name quoted (name ++ [c])) out r
    else if c = '\x7b' ∧ name = [] then read? value? (.braced quoted []) out r
    else if c = '$' then read? value? (.name quoted []) (out ++ valueOf value? name) r
    else read? value? (.plain quoted) (out ++ valueOf value? name ++ [c]) r
  | .braced quoted name, out, c :: r =>
    if c = '\x7d' then read? value? (.plain quoted) (out ++ valueOf value? name) r
    else read? value? (.braced quoted (name ++ [c])) out r
  | .ended, out, c :: r =>
    if c = '#' then some out
    else if c = ' ' ∨ c = '\t' then read? value? .ended out r
    else none

/-! ## Assignments -/

/-- What a line says. -/
inductive Entry where
  | nothing
  | sets (name value : String)
  | malformed
  deriving DecidableEq, Repr

/-- The name at the start of a text, and what follows it. -/
def takeName (s : List Char) : Option (String × List Char) :=
  match s with
  | [] => none
  | c :: _ =>
    if c.isAlpha || c == '_' then
      let isPart (c : Char) : Bool := c.isAlphanum || c == '_' || c == '.'
      some (String.ofList (s.takeWhile isPart), s.dropWhile isPart)
    else none

/-- What follows an equals sign. -/
def afterEquals (s : List Char) : Option (List Char) :=
  match trimStart s with
  | '=' :: r => some (trimStart r)
  | _ => none

/-- The variable that a line sets, and the text of its value. The word `export` may come first. -/
def target (line : List Char) : Option (String × List Char) := do
  let (name, rest) ← takeName line
  match afterEquals rest with
  | some text => some (name, text)
  | none =>
    if name = "export" then
      let (name, rest) ← takeName (trimStart rest)
      (afterEquals rest).map fun text => (name, text)
    else none

/-- What a line says, given the values of variables. -/
def Entry.ofLine (value? : String → Option String) (line : List Char) : Entry :=
  match trim line with
  | [] => .nothing
  | '#' :: _ => .nothing
  | line =>
    match target line with
    | none => .malformed
    | some (name, []) => .sets name ""
    | some (name, '#' :: _) => .sets name ""
    | some (name, text) =>
      match read? value? (.plain false) [] text with
      | some value => .sets name (String.ofList value)
      | none => .malformed

/-- The variables that lines set after `added`, when `set?` gives the values that are set already. -/
def assignAfter (set? : String → Option String) (added : List (String × String)) :
    List (Option (List Char)) → List (String × String)
  | [] => added
  | none :: _ => added
  | some line :: r =>
    let value? (name : String) : Option String := (set? name).or (added.lookup name)
    match Entry.ofLine value? line with
    | .nothing => assignAfter set? added r
    | .malformed => added
    | .sets name value =>
      assignAfter set? (if (value? name).isSome then added else added ++ [(name, value)]) r

/-- The variables that lines set. -/
def assign (set? : String → Option String) (lines : List (Option (List Char))) :
    List (String × String) := assignAfter set? [] lines

/-! ## Files -/

/-- The name of a file of variables. -/
def fileName : String := ".env"

/-- The content of the nearest file of variables, in a directory given by its names from last to
first, or above it. -/
def nearest? (fs : Files) : List String → Option ByteArray
  | [] => (fs.readBytes [fileName]).toOption
  | name :: up =>
    match fs.readBytes ((name :: up).reverse ++ [fileName]) with
    | .ok content => some content
    | .error .notFound => nearest? fs up
    | .error .isDirectory => nearest? fs up
    | .error _ => none

/-- The variables that are set in a directory: those of the environment, then those of a file. -/
def inDirectory (set? : String → Option String) (fs : Files) (directory : Path) :
    String → Option String :=
  let added := match nearest? fs directory.reverse with
    | some content => assign set? (linesOf content)
    | none => []
  fun name => (set? name).or (added.lookup name)

end BuildLoop.Variables
