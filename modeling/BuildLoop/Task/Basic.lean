/-!
# Tasks

A task is one self-contained piece of work for one role. Its description names the files it is
about; its dependencies are the ids of tasks that have to be completed before it starts.

    (t.begin).status = .inProgress,  (t.complete).status = .completed,  (t.fail r).failure = some r
-/

namespace BuildLoop

/-- Who does a task. -/
inductive Role where
  | backend
  | frontend
  deriving DecidableEq, Repr

/-- The role's name. -/
def Role.name : Role → String
  | backend => "backend"
  | frontend => "frontend"

/-- Where a task stands. -/
inductive Status where
  | pending
  | inProgress
  | completed
  | failed
  deriving DecidableEq, Repr

/-- The status's name. -/
def Status.name : Status → String
  | pending => "pending"
  | inProgress => "in_progress"
  | completed => "completed"
  | failed => "failed"

/-- Whether the task is over. -/
def Status.isTerminal : Status → Bool
  | completed | failed => true
  | _ => false

/-- What a corrective task corrects. -/
inductive Fault where
  | missingDependency
  | syntaxError
  | importError
  | missingFile
  | runtimeError
  | configurationError
  deriving DecidableEq, Repr

/-- The fault's name. -/
def Fault.name : Fault → String
  | missingDependency => "missing_dependency"
  | syntaxError => "syntax_error"
  | importError => "import_error"
  | missingFile => "missing_file"
  | runtimeError => "runtime_error"
  | configurationError => "configuration_error"

/-- Whether the fault lies in the environment and not in a source file. -/
def Fault.isEnvironment : Fault → Bool
  | missingDependency | configurationError => true
  | _ => false

/-- A piece of work. -/
structure Task where
  id : String
  description : String
  role : Role
  status : Status
  dependencies : List String
  /-- What the task corrects, if it is corrective. -/
  fault : Option Fault
  /-- Why the task failed, if it did. -/
  failure : Option String
  deriving DecidableEq, Repr

namespace Task

/-- A pending task that depends on nothing. -/
def new (id description : String) (role : Role) : Task :=
  ⟨id, description, role, .pending, [], none, none⟩

/-- Whether the task corrects a fault. -/
def isCorrective (t : Task) : Bool := t.fault.isSome

/-- The task once it is under way. -/
def begin (t : Task) : Task := { t with status := .inProgress, failure := none }

/-- The task once it is done. -/
def complete (t : Task) : Task := { t with status := .completed, failure := none }

/-- The task once it has failed. -/
def fail (t : Task) (reason : String) : Task := { t with status := .failed, failure := some reason }

end Task

end BuildLoop
