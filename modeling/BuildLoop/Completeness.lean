import BuildLoop.Completeness.Brackets
import BuildLoop.Json.Source
import BuildLoop.Text.LetterCase

/-!
# Completeness of files

Signs that a file was cut short: a marker that stands for left-out text, a document that is not
closed, brackets or strings left open, JSON that cannot be read. The extension decides which signs
are looked for; a file of another kind is complete unless it holds a marker.

    checkComplete path content = ok      for a file of an unknown kind without markers
-/

namespace BuildLoop

open Text

/-- Why a file is not complete, and on which line if that is known. -/
structure Incomplete where
  file : String
  line : Option Nat
  message : String
  deriving DecidableEq, Repr

/-- The file, the line and the reason. -/
def Incomplete.text (i : Incomplete) : String :=
  i.file ++ ":" ++ (match i.line with | some n => toString n ++ ":" | none => "") ++ " " ++ i.message

namespace Completeness

/-- Markers that stand for text that was left out. -/
def markers : List String :=
  ["... rest of the code", "... rest of code", "// ... existing code", "# ... existing code",
    "<!-- ... -->", "[truncated]"]

/-- The number of the first line that holds a text. -/
def lineOf? (needle s : String) : Option Nat :=
  ((linesOf s).findIdx? (contains · needle)).map (· + 1)

/-- What is missing in an HTML document. -/
def htmlFault? (content : String) : Option String :=
  let text := lower content.toList
  let has (s : String) := occurs s.toList text
  let scripts := count "<script".toList text
  let closed := count "</script>".toList text
  if !has "<html" then some "missing <html> element"
  else if !has "</html>" then some "document is not closed with </html>"
  else if has "<body" && !has "</body>" then some "<body> is never closed"
  else if scripts ≠ closed then
    some (toString scripts ++ " <script> tag(s) but " ++ toString closed ++ " </script>")
  else none

/-- The family of languages that an extension belongs to. -/
def familyOf? (ext : String) : Option Family :=
  if ext ∈ ["js", "jsx", "ts", "tsx", "mjs", "cjs"] then some .script
  else if ext ∈ ["css", "scss"] then some .style
  else if ext = "py" then some .python
  else none

/-- What is wrong with a file that holds no marker: the line, if known, and the reason. -/
def fault? (ext content : String) : Option (Option Nat × String) :=
  if ext = "html" ∨ ext = "htm" then (htmlFault? content).map fun m => (none, m)
  else if ext = "json" then
    match Json.parse content with
    | .ok _ => none
    | .error e => some (some e.line, "invalid JSON: " ++ e.text)
  else match familyOf? ext with
    | none => none
    | some f =>
      match checkBrackets f content with
      | .ok _ => none
      | .error e => some (some e.line, e.message)

end Completeness

open Completeness in
/-- Checks that the content of the file at `path` is complete. -/
def checkComplete (path content : String) : Except Incomplete Unit :=
  match markers.find? (contains content ·) with
  | some marker =>
    .error ⟨path, lineOf? marker content, "contains truncation marker '" ++ marker ++ "'"⟩
  | none =>
    match fault? (extension (lowercase path)) content with
    | some (line, message) => .error ⟨path, line, message⟩
    | none => .ok ()

end BuildLoop
