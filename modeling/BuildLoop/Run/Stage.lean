import BuildLoop.Failure

/-!
# Stages of a run

A run goes from stage to stage by signals, each saying what was observed at the end of a stage:

    planning → validating → dispatching → verifying → done
       ↑           │             ↑             │
       └ rejected ─┘             └ diagnosing ─┘ while cycles are left

A plan that is rejected is made again once. A signal that a stage does not accept changes nothing.

    p.fire s = ok q   →   q.cycles ≤ q.maxCycles        if p.cycles ≤ p.maxCycles
    p.stage is final  →   p.fire s is refused
-/

namespace BuildLoop

/-- A stage of a run. -/
inductive Stage where
  | planning
  | validating
  | dispatching
  | verifying
  | diagnosing
  /-- The verification passed. -/
  | done
  /-- The verification failed with no cycle left. -/
  | doneWithFailure
  /-- A failure ended the run. -/
  | aborted
  deriving DecidableEq, Repr

namespace Stage

/-- The stage's name. -/
def name : Stage → String
  | planning => "planning"
  | validating => "validating"
  | dispatching => "dispatching"
  | verifying => "verifying"
  | diagnosing => "diagnosing"
  | done => "done"
  | doneWithFailure => "done_with_failure"
  | aborted => "aborted"

/-- Whether the run is over. -/
def isFinal : Stage → Bool
  | done | doneWithFailure | aborted => true
  | _ => false

end Stage

/-- What was observed at the end of a stage. -/
inductive Signal where
  /-- The planner returned a queue. -/
  | queueReady
  | planApproved
  | planRejected
  /-- Every task of the batch is over. -/
  | batchSettled
  | verificationPassed
  | verificationFailed
  /-- There is a corrective task. -/
  | correctiveReady
  | abort
  deriving DecidableEq, Repr

/-- The signal's name. -/
def Signal.name : Signal → String
  | queueReady => "queue_ready"
  | planApproved => "plan_approved"
  | planRejected => "plan_rejected"
  | batchSettled => "batch_settled"
  | verificationPassed => "verification_passed"
  | verificationFailed => "verification_failed"
  | correctiveReady => "corrective_ready"
  | abort => "abort"

/-- Every signal. -/
def Signal.all : List Signal :=
  [queueReady, planApproved, planRejected, batchSettled, verificationPassed, verificationFailed,
    correctiveReady, abort]

/-- How far a run has come. -/
structure Progress where
  stage : Stage
  /-- Corrective cycles entered so far. -/
  cycles : Nat
  maxCycles : Nat
  /-- How often the plan was made again. -/
  replans : Nat
  maxReplans : Nat
  deriving DecidableEq, Repr

namespace Progress

/-- The start of a run with some corrective cycles. -/
def new (maxCycles : Nat) : Progress := ⟨.planning, 0, maxCycles, 0, 1⟩

/-- The progress at another stage. -/
def at_ (p : Progress) (stage : Stage) : Progress := { p with stage }

/-- The progress after a signal, if the stage accepts it. -/
def next? (p : Progress) (s : Signal) : Option Progress :=
  match s with
  | .abort => if p.stage.isFinal then none else some (p.at_ .aborted)
  | .queueReady => if p.stage = .planning then some (p.at_ .validating) else none
  | .planApproved => if p.stage = .validating then some (p.at_ .dispatching) else none
  | .planRejected =>
    if p.stage = .validating then
      if p.replans < p.maxReplans then
        some { p with stage := .planning, replans := p.replans + 1 }
      else some (p.at_ .aborted)
    else none
  | .batchSettled => if p.stage = .dispatching then some (p.at_ .verifying) else none
  | .verificationPassed => if p.stage = .verifying then some (p.at_ .done) else none
  | .verificationFailed =>
    if p.stage = .verifying then
      some (p.at_ (if p.cycles < p.maxCycles then .diagnosing else .doneWithFailure))
    else none
  | .correctiveReady =>
    if p.stage = .diagnosing then some { p with stage := .dispatching, cycles := p.cycles + 1 }
    else none

/-- The progress after a signal. -/
def fire (p : Progress) (s : Signal) : Except Failure Progress :=
  match p.next? s with
  | some q => .ok q
  | none => .error (.transition p.stage.name s.name)

def isComplete (p : Progress) : Bool := p.stage.isFinal

def isSuccess (p : Progress) : Bool := p.stage == .done

end Progress

end BuildLoop
