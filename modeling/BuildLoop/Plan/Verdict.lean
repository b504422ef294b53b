import BuildLoop.Json.Form

/-!
# Verdicts on plans

A plan is approved, with a summary of what is in it, or rejected for reasons.

    v.isApproved ↔ v.reasons = []            for every verdict that validation gives
-/

namespace BuildLoop

open Json

/-- How many tasks a plan has, by role and by phase, the phases sorted by name. -/
structure PlanSummary where
  total : Nat
  backend : Nat
  frontend : Nat
  phases : List (String × Nat)
  deriving DecidableEq, Repr

/-- What validation says of a plan. -/
inductive PlanVerdict where
  | approved (summary : PlanSummary)
  | rejected (reasons : List String)
  deriving DecidableEq, Repr

namespace PlanVerdict

def isApproved : PlanVerdict → Bool
  | approved _ => true
  | rejected _ => false

/-- Why the plan was rejected. -/
def reasons : PlanVerdict → List String
  | approved _ => []
  | rejected rs => rs

end PlanVerdict

instance : Form PlanSummary where
  shape := .record "PlanSummary" (.ofList [
    ("total", countShape, .required),
    ("backend", countShape, .required),
    ("frontend", countShape, .required),
    ("phases", .table countShape, .required)])
  toJson s := .object [
    ("total", toJson s.total),
    ("backend", toJson s.backend),
    ("frontend", toJson s.frontend),
    ("phases", .object (s.phases.map fun p => (p.1, ofNat p.2)))]
  ofJson? j := do
    let counts : List (String × Json) ← match j.field? "phases" with
      | some (.object ms) => some ms
      | _ => none
    some {
      total := ← get? j "total"
      backend := ← get? j "backend"
      frontend := ← get? j "frontend"
      phases := ← counts.mapM fun m => m.2.asNat?.map fun n => (m.1, n) }

instance : Form PlanVerdict where
  shape := .adjacent "PlanVerdict" "verdict" "detail"
    (.cons "approved" (Form.shape PlanSummary) (.cons "rejected" (.list .text) .nil))
  toJson
    | .approved s => .object [("verdict", .text "approved"), ("detail", toJson s)]
    | .rejected rs => .object [("verdict", .text "rejected"), ("detail", toJson rs)]
  ofJson? j := do
    if (← j.field? "verdict").asText? = some "approved" then some (.approved (← get? j "detail"))
    else some (.rejected (← get? j "detail"))

end BuildLoop
