import BuildLoop.Diagnosis.Finding

/-!
# Faults that are found

A fault is found in the logs as a whole. A module that the logs name in quotes comes before all other
faults: a Python module is a file if the manifest has one of its name, a Node module if it starts like a
path, and each is a package otherwise. Where no module is named, the words of the logs decide:

    (analyze logs a).kind = faultOf logs a                                             (kind_analyze)
-/

namespace BuildLoop.Diagnosis

open Text Pattern

variable {logs : String} {a : Architecture}

/-- The first module that logs name as missing, the way Python does. -/
def pythonNamed? (logs : String) : Option String := (find pythonModule logs.toList).map (groupText · 1)

/-- The first module that logs name as missing, the way Node does. -/
def nodeNamed? (logs : String) : Option String := (find nodeModule logs.toList).map (groupText · 1)

/-- Whether a Node module is a file. -/
def isRelative (specifier : String) : Bool := startsWith specifier "." || startsWith specifier "/"

/-- Whether a Python module is a file of the manifest. -/
def isOwnModule (a : Architecture) (module : String) : Bool :=
  a.files.paths.any (baseName · == moduleRoot module ++ ".py")

/-- The fault of logs that name no module. -/
def faultOfWords (logs : String) : Fault :=
  if contains logs "could not be started" then .configurationError
  else if test brokenFile logs.toList || holdsAny syntaxWords logs then .syntaxError
  else if holdsAny referenceWords logs then .importError
  else if test missingFile logs.toList || test missingPath logs.toList then .missingFile
  else if test portInUse logs.toList then .configurationError
  else .runtimeError

/-- The fault of logs: of the module that they name, else of their words. -/
def faultOf (logs : String) (a : Architecture) : Fault :=
  match pythonNamed? logs, nodeNamed? logs with
  | some module, _ => if isOwnModule a module then .missingFile else .missingDependency
  | none, some specifier => if isRelative specifier then .missingFile else .missingDependency
  | none, none => faultOfWords logs

theorem kind_pythonFinding (frame : Option (String × Nat)) (module : String) :
    (pythonFinding a frame module).kind = if isOwnModule a module then .missingFile else .missingDependency := by
  have hown : isOwnModule a module = (a.files.paths.find? (baseName · == moduleRoot module ++ ".py")).isSome := by
    rw [isOwnModule, List.isSome_find?]
  unfold pythonFinding
  rw [hown]
  cases a.files.paths.find? (baseName · == moduleRoot module ++ ".py") with
  | none => rfl
  | some path => rfl

theorem kind_nodeFinding (specifier : String) :
    (nodeFinding a specifier).kind = if isRelative specifier then .missingFile else .missingDependency := by
  unfold nodeFinding isRelative
  split
  · rfl
  · rfl

theorem kind_atFrame (fault : Fault) (frame : Option (String × Nat)) (message : String) :
    (atFrame a fault frame message).kind = fault := by
  cases frame with
  | none => rfl
  | some place => rfl

theorem analyze_of_pythonModule {m : Match} (h : find pythonModule logs.toList = some m) :
    analyze logs a = pythonFinding a (projectFrame? a logs) (groupText m 1) := by
  unfold analyze
  simp only [h]

theorem analyze_of_nodeModule {m : Match} (hpython : find pythonModule logs.toList = none)
    (hnode : find nodeModule logs.toList = some m) : analyze logs a = nodeFinding a (groupText m 1) := by
  unfold analyze
  simp only [hpython, hnode]

/-- The fault of logs that name no module is read off their words. -/
theorem kind_analyze_of_words (hpython : find pythonModule logs.toList = none)
    (hnode : find nodeModule logs.toList = none) : (analyze logs a).kind = faultOfWords logs := by
  unfold analyze faultOfWords test
  simp only [hpython, hnode, syntaxFinding]
  by_cases hstart : contains logs "could not be started" = true
  · rw [if_pos hstart, if_pos hstart, kind_atFrame]
  rw [if_neg hstart, if_neg hstart]
  cases find brokenFile logs.toList with
  | some m => rfl
  | none =>
    rw [Option.isSome_none, Bool.false_or]
    simp only [apply_ite Finding.kind, kind_atFrame]
    refine ite_congr rfl (fun _ => rfl) fun _ => ite_congr rfl (fun _ => rfl) fun _ => ?_
    cases find missingFile logs.toList with
    | some m => rfl
    | none =>
      cases find missingPath logs.toList with
      | some m => rfl
      | none => simp only [apply_ite Finding.kind, kind_atFrame, ite_self, Option.isSome_none, Bool.or_self,
          Bool.false_eq_true, if_false]

theorem kind_analyze (logs : String) (a : Architecture) : (analyze logs a).kind = faultOf logs a := by
  unfold faultOf pythonNamed? nodeNamed?
  cases hpython : find pythonModule logs.toList with
  | some m =>
    rw [analyze_of_pythonModule hpython, kind_pythonFinding]
    rfl
  | none =>
    cases hnode : find nodeModule logs.toList with
    | some m =>
      rw [analyze_of_nodeModule hpython hnode, kind_nodeFinding]
      rfl
    | none => exact kind_analyze_of_words hpython hnode

end BuildLoop.Diagnosis
