import BuildLoop.Task.Basic
import BuildLoop.Text.Pattern
import BuildLoop.Text.LetterCase
import BuildLoop.Text.Search

/-!
# Files named in a text

A file is named by a path with a known extension, or an environment file, that ends at the edge of a
word. Names of libraries that look like files are passed over, and so is a name right after a full
stop, the environment files apart.

    (mentioned text).Nodup                   each file once, at its first place
-/

namespace BuildLoop

open Text Pattern

/-- Names of libraries that look like files. -/
def libraryNames : List String :=
  ["node.js", "express.js", "vue.js", "react.js", "next.js", "nuxt.js", "chart.js", "three.js",
    "d3.js", "socket.io", "alpine.js", "ember.js", "backbone.js", "p5.js"]

/-- A character of a path component. -/
def isNameChar (c : Char) : Bool := c.isAlphanum || c == '_' || c == '-'

/-- The extensions of a file that a text can name. -/
def fileExtensions : List Pattern :=
  ["py", "js", "jsx", "ts", "tsx", "html", "htm", "css", "scss", "json", "md", "txt", "vue",
    "svelte", "toml", "cfg", "ini"].map lit ++ [all [lit "y", optional (lit "a"), lit "ml"]]

/-- The path of a file. -/
def filePattern : Pattern :=
  all [
    again (seq (atLeastOne isNameChar) (lit "/")),
    any [
      seq (lit ".env") (optional (seq (lit ".") (atLeastOne Char.isAlpha))),
      all [one isNameChar, many (fun c => isNameChar c || c == '.'), lit ".", any fileExtensions]],
    wordEdge]

/-- Whether a path found in a text names a file. -/
def namesFile (prev : Option Char) (path : List Char) : Bool :=
  !(prev == some '.' && !".env".toList.isPrefixOf path) &&
    !libraryNames.contains (String.ofList (lower path))

/-- The files named in a text, each once, in order of appearance. -/
def mentioned (text : String) : List String :=
  ((findAll filePattern text.toList).filter fun m => namesFile m.prev m.text).foldl
    (fun found m =>
      let path := String.ofList m.text
      if found.contains path then found else found ++ [path]) []

namespace Task

/-- The files that the description names. -/
def files (t : Task) : List String := mentioned t.description

/-- The first file that the description names. -/
def primaryFile? (t : Task) : Option String := t.files.head?

end Task

end BuildLoop
