import BuildLoop.Text.Pattern
import BuildLoop.Verification.Report

/-!
# Classes of output

Some lines in the output of a check show a fatal error; all others are banners and warnings. The
classes are looked for in a fixed order, and within a class the first line counts.

    classifyOutput s = none   ↔   no line of `s` shows an error of any class
-/

namespace BuildLoop.Verification

open Text Pattern

/-- What shows an error of a class; a time limit shows in no output. -/
def signOf : FatalKind → Pattern
  | .missingDependency =>
    any [lit "ModuleNotFoundError", lit "No module named",
      seq (lit "Cannot find module '") (one fun c => c != '.' && c != '/'),
      lit "npm ERR! missing", lit "command not found", lit "could not be started"]
  | .syntaxError =>
    any [lit "SyntaxError", lit "IndentationError", lit "TabError", lit "syntax error in "]
  | .undefinedReference =>
    any [lit "NameError", lit "ReferenceError", lit "AttributeError", lit "ImportError",
      lit "is not defined", lit "is not a function"]
  | .missingFile =>
    any [lit "FileNotFoundError", lit "No such file or directory", lit "ENOENT",
      seq (lit "Cannot find module '") (one fun c => c == '.' || c == '/'), lit "missing file: "]
  | .portConflict => any [word "address already in use", word "EADDRINUSE"]
  | .timeout => any []

/-- The first class that some line shows, and the first such line. -/
def classifyOutput (logs : String) : Option (FatalKind × String) :=
  let ls := linesOf logs
  FatalKind.all.findSome? fun kind =>
    (ls.find? fun l => test (signOf kind) l.toList).map fun l => (kind, trimmed l)

end BuildLoop.Verification
