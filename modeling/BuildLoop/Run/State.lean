import BuildLoop.Run.Event
import BuildLoop.Workflow.State

/-!
# Runs under way

A run under way is what it knows, how far it has come, what it has told, and the world around it. The
world is a parameter: the roles that do the work read and change it, the run itself does not.

A log keeps everything that was put into it, in order. Whoever listens receives each entry as it is
put in; the log itself does not depend on it.

    (l.put e).entries = l.entries ++ [e]
    l.received = some l.entries            if somebody listens from the start
    (s.emit e).log.entries = s.log.entries ++ [e]
-/

namespace BuildLoop

/-! ## Logs -/

/-- A log, and what has been received of it if somebody listens. -/
structure Log (ε : Type) where
  entries : List ε
  received : Option (List ε)
  deriving DecidableEq, Repr

namespace Log

variable {ε : Type}

/-- An empty log. -/
def new (heard : Bool) : Log ε := ⟨[], if heard then some [] else none⟩

/-- Puts an entry at the end. -/
def put (l : Log ε) (e : ε) : Log ε := ⟨l.entries ++ [e], l.received.map (· ++ [e])⟩

/-- Puts entries at the end, in order. -/
def putAll (l : Log ε) (es : List ε) : Log ε := es.foldl put l

@[simp] theorem entries_put (l : Log ε) (e : ε) : (l.put e).entries = l.entries ++ [e] := rfl

theorem entries_putAll (l : Log ε) (es : List ε) :
    (l.putAll es).entries = l.entries ++ es := by
  induction es generalizing l with
  | nil => simp [putAll]
  | cons e r ih =>
    have h : l.putAll (e :: r) = (l.put e).putAll r := rfl
    rw [h, ih]
    simp

theorem received_put (l : Log ε) (e : ε) (h : l.received = some l.entries) :
    (l.put e).received = some (l.put e).entries := by
  simp [put, h]

end Log

/-! ## Runs -/

/-- A run under way, in a world `σ`. -/
structure RunState (σ : Type) where
  workflow : WorkflowState
  progress : Progress
  log : Log Event
  outside : σ

namespace RunState

variable {σ : Type}

/-- The start of a run. -/
def start (requirements root : String) (maxCycles : Nat) (heard : Bool) (outside : σ) :
    RunState σ :=
  ⟨.new requirements root, .new maxCycles, .new heard, outside⟩

/-- Tells an event. -/
def emit (s : RunState σ) (e : Event) : RunState σ := { s with log := s.log.put e }

/-- Changes what the run knows. -/
def know (s : RunState σ) (f : WorkflowState → WorkflowState) : RunState σ :=
  { s with workflow := f s.workflow }

end RunState

end BuildLoop
