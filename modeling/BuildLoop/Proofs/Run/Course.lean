import BuildLoop.Proofs.Run.Batch
import BuildLoop.Proofs.Run.Simulation

/-!
# Recorded runs and their course

The calls that a run makes of the planner, the verifier and the diagnoser are recorded beside the
world. The record changes nothing else, so that it is a fact about the run without it:

    run roles id s = the report and, but for the record, the state of
                     run (recorded roles) id (unrecorded s)                              (run_recorded)

From the start of a cycle a run goes on in one of a few ways, which differ in the calls that are made:
it stops, it passes, it fails with no cycle left, or it is diagnosed and goes on with the next cycle.
`Course m n calls o` lists them, for `n` of `m` cycles behind it. The outcome can be read off the calls:

    o = passed            ↔   the last verification passed                           (passed_iff)
    o = budgetExhausted   ↔   a verification failed after m diagnoses             (exhausted_iff)
-/

namespace BuildLoop.Run

section

variable {σ α : Type}

/-- A call of a role, with what came of it. -/
inductive Call where
  | planned
  | verified (result : Except Failure VerificationReport)
  /-- The cycle is the one that is to begin. -/
  | diagnosed (cycle : Nat) (result : Except Failure Diagnosis)

/-- Adds to the record what a call notes of its result. -/
def noting (note : Except Failure α → List Call) (act : Act σ α) : Act (σ × List Call) α :=
  ExceptT.mk fun o => ((act.run o.1).1, (act.run o.1).2, o.2 ++ note (act.run o.1).1)

/-- A crew that leaves the record as it is. -/
def unnoted (c : Crew σ) : Crew (σ × List Call) where
  worker? role := (c.worker? role).map fun f t o => ((f t o.1).1, (f t o.1).2, o.2)
  finish := c.finish
  taskMilliseconds := c.taskMilliseconds

/-- Roles whose calls are recorded. -/
def recorded (roles : Roles σ) : Roles (σ × List Call) where
  architect request := noting (fun _ => []) (roles.architect request)
  planner a := noting (fun _ => [.planned]) (roles.planner a)
  verifier a := noting (fun r => [.verified r]) (roles.verifier a)
  diagnoser logs a cycle ids :=
    noting (fun r => [.diagnosed cycle r]) (roles.diagnoser logs a cycle ids)
  crew := unnoted roles.crew

/-! ## The record changes nothing -/

theorem tracks_noting (note : Except Failure α → List Call) (act : Act σ α) :
    Tracks Prod.fst (noting note act) act := fun _ => rfl

theorem work_unnoted (c : Crew σ) (t : Task) (o : σ × List Call) :
    (unnoted c).work t o = ((c.work t o.1).1, (c.work t o.1).2, o.2) := by
  simp only [Crew.work, unnoted]
  cases c.worker? t.role <;> rfl

theorem mirrors_recorded (roles : Roles σ) : Mirrors Prod.fst (recorded roles) roles where
  architect _ := tracks_noting _ _
  planner _ := tracks_noting _ _
  verifier _ := tracks_noting _ _
  diagnoser _ _ _ _ := tracks_noting _ _
  crew := {
    work t o := by rw [show (recorded roles).crew = unnoted roles.crew from rfl, work_unnoted]
    finish := rfl
    taskMilliseconds := rfl }

/-- A run whose record is empty. -/
def unrecorded (s : RunState σ) : RunState (σ × List Call) :=
  ⟨s.workflow, s.progress, s.log, s.outside, []⟩

theorem run_recorded (roles : Roles σ) (runId : String) (s : RunState σ) :
    run roles runId s = ((run (recorded roles) runId (unrecorded s)).1,
      (run (recorded roles) runId (unrecorded s)).2.seen Prod.fst) :=
  run_seen (mirrors_recorded roles) runId (unrecorded s)

/-- The calls that a run makes of the planner, the verifier and the diagnoser. -/
def callsOf (roles : Roles σ) (runId : String) (s : RunState σ) : List Call :=
  (run (recorded roles) runId (unrecorded s)).2.outside.2

/-! ## What is recorded -/

/-- The report of a call, if it is a verification that gave one. -/
def Call.report? : Call → Option VerificationReport
  | verified (.ok v) => some v
  | _ => none

/-- What the last report among some calls says. -/
def statusAfter (calls : List Call) : TestStatus :=
  (((calls.filterMap Call.report?).getLast?).map (·.status)).getD .pending

theorem statusAfter_append {calls : List Call} {call : Call} (h : call.report? = none) :
    statusAfter (calls ++ [call]) = statusAfter calls := by
  simp [statusAfter, h]

theorem statusAfter_append_report (calls : List Call) (v : VerificationReport) :
    statusAfter (calls ++ [.verified (.ok v)]) = v.status := by
  simp [statusAfter, Call.report?]

/-- A run that has come some way with some calls: it counts the cycles that it has entered, and its
status is what the last report says. -/
structure Standing (p : Progress) (calls : List Call) (s : RunState (σ × List Call)) : Prop where
  progress : s.progress = p
  cycles : s.workflow.iterations = p.cycles
  status : s.workflow.testStatus = statusAfter calls
  calls : s.outside.2 = calls

section
variable (roles : Roles σ)

theorem after_noting (note : Except Failure α → List Call) (act : Act σ α) (o : σ × List Call) :
    After (noting note act) o (fun a o' => o'.2 = o.2 ++ note (.ok a))
      fun f o' => o'.2 = o.2 ++ note (.error f) := by
  have hrun : (noting note act).run o =
      ((act.run o.1).1, (act.run o.1).2, o.2 ++ note (act.run o.1).1) := rfl
  unfold After
  rw [hrun]
  cases (act.run o.1).1 <;> rfl

theorem after_resolve (request : String) (o : σ × List Call) :
    After (resolve (recorded roles) request) o (fun _ o' => o'.2 = o.2) fun _ o' => o'.2 = o.2 := by
  have harch : After (noting (fun _ => []) (roles.architect request)) o (fun _ o' => o'.2 = o.2)
      fun _ o' => o'.2 = o.2 := by
    simpa using after_noting (fun _ => []) (roles.architect request) o
  unfold resolve
  by_cases hb : Text.isBlankText request = true
  · simp only [hb, if_true]
    exact rfl
  · simp only [hb]
    refine after_bind.2 (harch.mono (fun a o' h => ?_) fun _ _ h => h)
    exact after_bind.2 (after_result.2 ⟨fun _ _ => after_pure.2 h, fun _ _ => h⟩)

theorem after_plan (a : Architecture) (o : σ × List Call) :
    After (plan (recorded roles) a) o (fun _ o' => o'.2 = o.2 ++ [.planned])
      fun _ o' => o'.2 = o.2 ++ [.planned] := by
  have hplan := after_noting (fun _ => [.planned]) (roles.planner a) o
  refine after_bind.2 (hplan.mono (fun tasks o' h => ?_) fun _ _ h => h)
  exact after_bind.2 (after_result.2 ⟨fun _ _ => after_pure.2 h, fun _ _ => h⟩)

/-- A batch makes no call that is recorded and changes nothing but its tasks. -/
theorem keeps_standing (p : Progress) (calls : List Call) :
    Dispatch.Keeps (recorded roles).crew (Standing p calls) where
  begin s id t s' hb h := by
    obtain ⟨q, hq, he⟩ := Option.map_eq_some_iff.1 hb
    obtain ⟨u, -, rfl⟩ := Option.map_eq_some_iff.1 hq
    cases he
    exact ⟨h.progress, h.cycles, h.status, h.calls⟩
  work s t h := by
    refine ⟨h.progress, h.cycles, h.status, ?_⟩
    rw [show (recorded roles).crew = unnoted roles.crew from rfl, work_unnoted]
    exact h.calls
  complete s t report h := by
    refine ⟨h.progress, ?_, ?_, h.calls⟩
    · simpa [Dispatch.completeTask, RunState.know, RunState.emit, WorkflowState.mergeCompleted]
        using h.cycles
    · simpa [Dispatch.completeTask, RunState.know, RunState.emit, WorkflowState.mergeCompleted]
        using h.status
  fail s id reason h := by
    refine ⟨h.progress, ?_, ?_, h.calls⟩
    · simpa [Dispatch.failTask, RunState.know, RunState.emit, WorkflowState.markFailed]
        using h.cycles
    · simpa [Dispatch.failTask, RunState.know, RunState.emit, WorkflowState.markFailed]
        using h.status

end

end

/-! ## The course of the cycles -/

namespace Call

def isPlanning : Call → Bool
  | planned => true
  | _ => false

def isDiagnosis : Call → Bool
  | diagnosed .. => true
  | _ => false

def verification? : Call → Option (Except Failure VerificationReport)
  | verified r => some r
  | _ => none

end Call

/-- The verifications among some calls. -/
def verifications (calls : List Call) : List (Except Failure VerificationReport) :=
  calls.filterMap Call.verification?

/-- How many of some calls are diagnoses. -/
def diagnoses (calls : List Call) : Nat := calls.countP Call.isDiagnosis

/-- How many of some calls are of the planner. -/
def plannings (calls : List Call) : Nat := calls.countP Call.isPlanning

section
variable (calls : List Call) (r : Except Failure VerificationReport) (n : Nat)
  (d : Except Failure Diagnosis)

@[simp] theorem verifications_verified :
    verifications (.verified r :: calls) = r :: verifications calls := rfl

@[simp] theorem verifications_diagnosed :
    verifications (.diagnosed n d :: calls) = verifications calls := rfl

@[simp] theorem diagnoses_verified : diagnoses (.verified r :: calls) = diagnoses calls :=
  List.countP_cons_of_neg Bool.false_ne_true

@[simp] theorem diagnoses_diagnosed :
    diagnoses (.diagnosed n d :: calls) = diagnoses calls + 1 :=
  List.countP_cons_of_pos rfl

end

/-- The calls from some point of a cycle to the end of a run, and how it ends, with `n` of `m` cycles
entered before. -/
inductive Course (m : Nat) : Nat → List Call → Outcome → Prop
  /-- A failure ends the run before it comes to a verification. -/
  | stopped {n : Nat} : Course m n [] .aborted
  | unverified {n : Nat} (f : Failure) : Course m n [.verified (.error f)] .aborted
  | passed {n : Nat} {v : VerificationReport} (h : v.isPassed = true) :
      Course m n [.verified (.ok v)] .passed
  | exhausted {v : VerificationReport} (h : v.isPassed = false) :
      Course m m [.verified (.ok v)] .budgetExhausted
  | again {n : Nat} {v : VerificationReport} {calls : List Call} {o : Outcome}
      (h : v.isPassed = false) (hn : n < m) (d : Except Failure Diagnosis)
      (rest : Course m (n + 1) calls o) :
      Course m n (.verified (.ok v) :: .diagnosed (n + 1) d :: calls) o

namespace Course

variable {m n : Nat} {calls : List Call} {o : Outcome}

theorem plannings_eq (h : Course m n calls o) : plannings calls = 0 := by
  induction h with
  | again _ _ _ _ ih => exact ih
  | _ => rfl

theorem add_diagnoses_le (h : Course m n calls o) (hn : n ≤ m) : n + diagnoses calls ≤ m := by
  induction h with
  | stopped | unverified | passed | exhausted => exact hn
  | again _ hlt _ _ ih =>
    have hle := ih hlt
    simp only [diagnoses_verified, diagnoses_diagnosed]
    omega

theorem add_verifications_le (h : Course m n calls o) (hn : n ≤ m) :
    n + (verifications calls).length ≤ m + 1 := by
  induction h with
  | stopped => exact Nat.le_succ_of_le hn
  | unverified | passed | exhausted => exact Nat.succ_le_succ hn
  | again _ hlt _ _ ih =>
    have hle := ih hlt
    simp only [verifications_verified, verifications_diagnosed, List.length_cons]
    omega

/-- Each diagnosis is told which cycle it is for: one more than there were. -/
theorem eq_of_diagnosed (h : Course m n calls o) {before after : List Call} {cycle : Nat}
    {d : Except Failure Diagnosis} (hs : calls = before ++ .diagnosed cycle d :: after) :
    cycle = n + diagnoses before + 1 := by
  induction h generalizing before with
  | stopped => simp at hs
  | unverified | passed | exhausted =>
    cases before with
    | nil => cases hs
    | cons => simp at hs
  | again _ _ _ _ ih =>
    match before with
    | [] => cases hs
    | [_] => cases hs; rfl
    | _ :: _ :: before =>
      simp only [List.cons_append, List.cons.injEq] at hs
      obtain ⟨rfl, rfl, hs⟩ := hs
      have hcycle := ih hs
      simp only [diagnoses_verified, diagnoses_diagnosed]
      omega

/-- A run has passed if its last verification has. -/
theorem passed_iff (h : Course m n calls o) :
    o = .passed ↔ ∃ v, (verifications calls).getLast? = some (.ok v) ∧ v.isPassed = true := by
  induction h with
  | stopped => simp [verifications]
  | unverified => simp [verifications, Call.verification?]
  | passed hp => simp [verifications, Call.verification?, hp]
  | exhausted hp => simp [verifications, Call.verification?, hp]
  | @again n v calls o hp _ _ _ ih =>
    rw [verifications_verified, verifications_diagnosed, List.getLast?_cons, ih]
    cases (verifications calls).getLast? <;> simp [hp]

/-- Where the cycles are used up, a failed verification comes last. -/
theorem eq_append_of_exhausted (h : Course m n calls .budgetExhausted) :
    ∃ before v, calls = before ++ [.verified (.ok v)] ∧ v.isPassed = false ∧
      n + diagnoses before = m := by
  generalize ho : Outcome.budgetExhausted = o at h
  induction h with
  | stopped | unverified | passed => cases ho
  | @exhausted v hp => exact ⟨[], v, rfl, hp, rfl⟩
  | @again n v calls o hp hlt d _ ih =>
    obtain ⟨before, w, rfl, hw, hd⟩ := ih ho
    refine ⟨.verified (.ok v) :: .diagnosed (n + 1) d :: before, w, rfl, hw, ?_⟩
    simp only [diagnoses_verified, diagnoses_diagnosed]
    omega

/-- The cycles are used up if a verification fails once all of them have been entered. -/
theorem exhausted_iff (h : Course m n calls o) :
    o = .budgetExhausted ↔ ∃ before v after, calls = before ++ .verified (.ok v) :: after ∧
      v.isPassed = false ∧ n + diagnoses before = m := by
  constructor
  · rintro rfl
    obtain ⟨before, v, hs⟩ := h.eq_append_of_exhausted
    exact ⟨before, v, [], hs⟩
  · rintro ⟨before, w, after, hs, hw, hd⟩
    induction h generalizing before with
    | stopped => simp at hs
    | unverified =>
      cases before with
      | nil => cases hs
      | cons => simp at hs
    | passed hp =>
      cases before with
      | nil =>
        cases hs
        rw [hp] at hw
        cases hw
      | cons => simp at hs
    | exhausted => rfl
    | again _ hlt _ _ ih =>
      match before with
      | [] => exact absurd hd (Nat.ne_of_lt hlt)
      | [_] => cases hs
      | _ :: _ :: before =>
        simp only [List.cons_append, List.cons.injEq] at hs
        obtain ⟨rfl, rfl, hs⟩ := hs
        simp only [diagnoses_verified, diagnoses_diagnosed] at hd
        exact ih before hs (by omega)

end Course

/-! ## Plans before the first cycle -/

section
variable (k : Nat) (calls : List Call)

theorem plannings_plans : plannings (List.replicate k .planned ++ calls) = k + plannings calls := by
  simp [plannings, Call.isPlanning, List.countP_replicate]

theorem diagnoses_plans : diagnoses (List.replicate k .planned ++ calls) = diagnoses calls := by
  simp [diagnoses, Call.isDiagnosis, List.countP_replicate]

theorem verifications_plans :
    verifications (List.replicate k .planned ++ calls) = verifications calls := by
  simp [verifications, Call.verification?, List.filterMap_replicate]

end

/-- Any other call comes after the plans. -/
theorem exists_of_plans {k : Nat} {before after rest : List Call} {call : Call}
    (hne : call.isPlanning = false)
    (h : List.replicate k .planned ++ rest = before ++ call :: after) :
    ∃ before', before = List.replicate k .planned ++ before' ∧ rest = before' ++ call :: after := by
  induction k generalizing before with
  | zero => exact ⟨before, rfl, h⟩
  | succ k ih =>
    rw [List.replicate_succ, List.cons_append] at h
    cases before with
    | nil =>
      cases h
      cases hne
    | cons x r =>
      simp only [List.cons_append, List.cons.injEq] at h
      obtain ⟨rfl, h⟩ := h
      obtain ⟨before', rfl, hrest⟩ := ih h
      exact ⟨before', rfl, hrest⟩

end BuildLoop.Run
