import BuildLoop.Failure
import BuildLoop.Text.Search

/-!
# Which commands may run

A command may run if nothing in it is blocked and its program is one of a few interpreters and
package managers, the latter with one of a few subcommands. Nothing is run by a shell.

    check program args = ok   →   program ∈ programs, and nothing blocked occurs in the command
-/

namespace BuildLoop.Command

open Text

/-- The programs that a command may start with. -/
def programs : List String := ["python", "python3", "pip", "pip3", "node", "npm"]

/-- The subcommands of the Python package manager. -/
def pipCommands : List String := ["install", "list", "show", "check", "freeze"]

/-- What a command of the Node package manager may start with. -/
def npmCommands : List String := ["install", "ci", "run build", "run test", "run lint", "test"]

/-- Programs that may occur nowhere in a command. -/
def blockedPrograms : List String :=
  ["rm", "rmdir", "del", "erase", "mkfs", "dd", "curl", "wget", "nc", "netcat", "ssh", "scp",
    "sudo", "su", "doas", "runas", "kill", "pkill", "killall", "shutdown", "reboot"]

/-- Texts that may occur nowhere in a command. -/
def blockedTexts : List String :=
  ["bash -c", "sh -c", "cmd /c", "os.system", "subprocess", "child_process", "eval(", "&&", "||",
    ";", "\x60", "$(", "| sh", "| bash", "> /", ">> /", "export ", "unset "]

/-- The items of a list in quotes. -/
def listText (items : List String) : String :=
  "[" ++ ", ".intercalate (items.map fun s => "\"" ++ s ++ "\"") ++ "]"

/-- Why a program may not run with some arguments, blocked texts and programs apart. -/
def programReason? (program : String) (args : List String) : Option String :=
  if program = "pip" ∨ program = "pip3" then
    let sub := args.head?.getD ""
    if pipCommands.contains sub then none
    else some ("pip subcommand '" ++ sub ++ "' is not allowed. Allowed: " ++ listText pipCommands)
  else if program = "npm" then
    let line := " ".intercalate args
    if npmCommands.any (startsWith line) then none
    else some ("npm command '" ++ line ++ "' is not allowed. Allowed: " ++ listText npmCommands)
  else if programs.contains program then none
  else some ("'" ++ program ++ "' is not in the allowed list " ++ listText programs)

/-- Why a command may not run. -/
def reason? (program : String) (args : List String) : Option String :=
  let line := program ++ " " ++ " ".intercalate args
  if let some text := blockedTexts.find? (contains line) then
    some ("contains blocked pattern '" ++ trimmed text ++ "'")
  else if let some name := (program :: args).find? blockedPrograms.contains then
    some ("'" ++ name ++ "' is not permitted")
  else programReason? program args

/-- Checks that a command may run. -/
def check (program : String) (args : List String) : Except Failure Unit :=
  match reason? program args with
  | some reason => .error (.commandRejected (program ++ " " ++ " ".intercalate args) reason)
  | none => .ok ()

end BuildLoop.Command
