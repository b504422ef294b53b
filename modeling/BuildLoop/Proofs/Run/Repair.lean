import BuildLoop.Proofs.Diagnosis.Correction
import BuildLoop.Proofs.Run.Abort
import BuildLoop.Proofs.Run.Preview
import BuildLoop.Proofs.Run.Relay

/-!
# Runs that repair their project

A project can be repaired with `n` corrections if its check passes, or if the task that corrects what
the check found leads to a project that can be repaired with one correction less. A run that has as many
corrections left passes:

    Repairable roles a n o, cycles + n ≤ maxCycles, the batch ends in o   →   the run is done
                                                                                   (run_cycles_of_repairable)
    the plan is a row that leads from o to o', Repairable roles a n o', n ≤ m   →   the run passes
                                                                                   (run_of_repairable)
    the plan is a row, and the work on its first task fails fatally   →   the run is aborted
                                                                                        (run_of_fatal)
-/

namespace BuildLoop.Run

open Dispatch

variable {σ : Type} {roles : Roles σ} {a : Architecture} {s : RunState σ}

/-! ## Projects that can be repaired -/

/-- Whether the check of a project passes. -/
def Passes (roles : Roles σ) (a : Architecture) (o : σ) : Prop :=
  ∃ report o', (roles.verifier a).run o = (.ok report, o') ∧ report.isPassed = true

/-- Whether the check of a project fails, and the task that corrects it is approved, whatever the queue
holds, and leads where `P` holds. -/
def Mends (roles : Roles σ) (a : Architecture) (P : σ → Prop) (o : σ) : Prop :=
  ∃ report o₁, (roles.verifier a).run o = (.ok report, o₁) ∧ report.isPassed = false ∧
    ∀ (cycle : Nat) (queue : List Task), ∃ d o₂ r o₃,
      (roles.diagnoser report.logs a cycle (queue.map (·.id))).run o₁ = (.ok d, o₂) ∧
      (∃ summary, Plan.validateCorrective d.task queue = .approved summary) ∧ d.task.dependencies = [] ∧
      roles.crew.work d.task.begin o₂ = (.ends r, o₃) ∧ (∀ e, r = .error e → e.isFatal = false) ∧ P o₃

/-- Whether a project passes after at most some corrections. -/
def Repairable (roles : Roles σ) (a : Architecture) : Nat → σ → Prop
  | 0, o => Passes roles a o
  | n + 1, o => Passes roles a o ∨ Mends roles a (Repairable roles a n) o

/-! ## One cycle -/

theorem run_emit (e : Event) (s : RunState σ) : (emit e).run s = (.ok (), s.emit e) := rfl

theorem run_know (f : WorkflowState → WorkflowState) (s : RunState σ) :
    (know fun w => .ok (f w)).run s = (.ok (), s.know f) := rfl

theorem run_verify_of_passed {report : VerificationReport} {o : σ} (hs : s.progress.stage = .verifying)
    (h : (roles.verifier a).run s.outside = (.ok report, o)) (hp : report.isPassed = true) :
    ∃ s', (verify roles a).run s = (.ok .done, s') ∧ s'.progress.stage = .done := by
  have hfire : s.progress.fire .verificationPassed = .ok (s.progress.at_ .done) := by
    simp [Progress.fire, Progress.next?, hs]
  have houtside : (outside (roles.verifier a)).run (s.emit .verificationStarted) =
      (.ok report, { s.emit .verificationStarted with outside := o }) := run_outside_of_ok h
  unfold verify
  rw [run_bind_ok (run_emit _ _), run_bind_ok houtside, run_bind_ok (run_know _ _), if_pos hp,
    run_bind_ok (run_emit _ _), run_advance_of_ok (by exact hfire)]
  exact ⟨_, rfl, rfl⟩

theorem run_verify_of_failed {report : VerificationReport} {o : σ} (hs : s.progress.stage = .verifying)
    (hcycles : s.progress.cycles < s.progress.maxCycles)
    (h : (roles.verifier a).run s.outside = (.ok report, o)) (hp : report.isPassed = false) :
    ∃ s', (verify roles a).run s = (.ok .diagnosing, s') ∧
      s'.progress = s.progress.at_ .diagnosing ∧ s'.workflow.testLogs = report.logs ∧ s'.outside = o := by
  have hfire : s.progress.fire .verificationFailed = .ok (s.progress.at_ .diagnosing) := by
    simp [Progress.fire, Progress.next?, hs, hcycles]
  have houtside : (outside (roles.verifier a)).run (s.emit .verificationStarted) =
      (.ok report, { s.emit .verificationStarted with outside := o }) := run_outside_of_ok h
  unfold verify
  rw [run_bind_ok (run_emit _ _), run_bind_ok houtside, run_bind_ok (run_know _ _),
    if_neg (by rw [hp]; exact Bool.false_ne_true), run_bind_ok (run_emit _ _),
    run_advance_of_ok (by exact hfire)]
  exact ⟨_, rfl, rfl, rfl, rfl⟩

/-- The corrective task is in the queue once it is approved. -/
theorem run_correct_of_approved {d : Diagnosis} {summary : PlanSummary} {o : σ}
    (hs : s.progress.stage = .diagnosing)
    (h : (roles.diagnoser s.workflow.testLogs a (s.workflow.iterations + 1)
      (s.workflow.queue.map (·.id))).run s.outside = (.ok d, o))
    (hd : Plan.validateCorrective d.task s.workflow.queue = .approved summary) :
    ∃ s', (correct roles a).run s = (.ok d.task.id, s') ∧
      s'.progress = { s.progress with stage := .dispatching, cycles := s.progress.cycles + 1 } ∧
      s'.workflow.task? d.task.id = some d.task ∧ s'.outside = o := by
  have hfire : s.progress.fire .correctiveReady =
      .ok { s.progress with stage := .dispatching, cycles := s.progress.cycles + 1 } := by
    simp [Progress.fire, Progress.next?, hs]
  have hnew := (Diagnosis.approved_iff.1 ⟨summary, hd⟩).1.new
  have htask : (s.workflow.queue ++ [d.task]).find? (·.id == d.task.id) = some d.task := by
    have hnone : s.workflow.queue.find? (·.id == d.task.id) = none := by
      rw [List.find?_eq_none]
      intro t ht hid
      exact hnew (List.mem_map.2 ⟨t, ht, eq_of_beq hid⟩)
    simp [List.find?_append, hnone]
  unfold correct
  rw [run_bind_ok (run_get s), run_bind_ok (run_outside_of_ok h)]
  simp only [hd]
  rw [run_bind_ok (run_know _ _), run_bind_ok (run_emit _ _), run_bind_ok (run_know _ _),
    run_bind_ok (run_advance_of_ok (by exact hfire))]
  exact ⟨_, rfl, rfl, htask, rfl⟩

/-! ## All cycles -/

/-- Whether a batch is gone through and ends in a world. -/
def EndsIn (c : Crew σ) (batch : List String) (s : RunState σ) (o : σ) : Prop :=
  ∃ summary s', runBatch c batch s = (.ok summary, s') ∧ s'.outside = o

theorem endsIn_corrective {c : Crew σ} {t : Task} {r : Except Failure WorkerReport} {o : σ}
    (ht : s.workflow.task? t.id = some t) (hs : t.status = .pending) (hdeps : t.dependencies = [])
    (hw : c.work t.begin s.outside = (.ends r, o)) (hr : ∀ e, r = .error e → e.isFatal = false) :
    EndsIn c [t.id] s o := by
  have hwaiting : Waiting s.workflow [] [t] :=
    { queued := fun u hu => List.mem_singleton.1 hu ▸ ht
      pending := fun u hu => List.mem_singleton.1 hu ▸ hs
      distinct := List.nodup_singleton _
      row := ⟨hdeps, trivial⟩
      new := fun u hu => by cases hu
      done := fun d hd => by cases hd
      unfailed := fun d hd => by cases hd }
  exact runBatch_of_relay hwaiting (.last hw hr)

section
variable {batch : List String} {o : σ} (again : List String → Step σ Unit)

/-- After its batch a run verifies the world in which the batch ended. -/
theorem run_cycleOnce_of_endsIn (hs : s.progress.stage = .dispatching) (hbatch : EndsIn roles.crew batch s o) :
    ∃ s', s'.progress = s.progress.at_ .verifying ∧ s'.outside = o ∧
      (cycleOnce roles a batch again).run s = (verify roles a >>= fun stage =>
        if stage = .diagnosing then correct roles a >>= fun id => again [id] else pure ()).run s' := by
  obtain ⟨summary, s₁, hrun, rfl⟩ := hbatch
  have hprogress : s₁.progress = s.progress := by
    have h := ((keeps_workedSince roles.crew s).runBatch (WorkedSince.refl s) batch).progress
    rwa [hrun] at h
  have hdispatch : (dispatch roles.crew batch).run s = (.ok summary, s₁) := by
    rw [run_dispatch, hrun]
    rfl
  have hfire : s₁.progress.fire .batchSettled = .ok (s.progress.at_ .verifying) := by
    simp [Progress.fire, Progress.next?, hprogress, hs]
  unfold cycleOnce
  rw [run_bind_ok hdispatch, run_bind_ok (run_advance_of_ok hfire)]
  refine ⟨_, ?_, ?_, rfl⟩ <;> rfl

theorem run_cycleOnce_of_passes (hs : s.progress.stage = .dispatching) (hbatch : EndsIn roles.crew batch s o)
    (h : Passes roles a o) :
    ∃ s', (cycleOnce roles a batch again).run s = (.ok (), s') ∧ s'.progress.stage = .done := by
  obtain ⟨s₁, hp, rfl, hrun⟩ := run_cycleOnce_of_endsIn (a := a) again hs hbatch
  obtain ⟨report, o', hverify, hpassed⟩ := h
  obtain ⟨s₂, hs₂, hdone⟩ := run_verify_of_passed (s := s₁) (by rw [hp]; rfl) hverify hpassed
  refine ⟨s₂, ?_, hdone⟩
  rw [hrun, run_bind_ok hs₂, if_neg (by decide)]
  rfl

/-- A cycle whose check fails goes on with a batch of the corrective task, which ends where the
correction leads. -/
theorem run_cycleOnce_of_mends {P : σ → Prop} (hs : s.progress.stage = .dispatching)
    (hcycles : s.progress.cycles < s.progress.maxCycles) (hbatch : EndsIn roles.crew batch s o)
    (h : Mends roles a P o) :
    ∃ id s' o', (cycleOnce roles a batch again).run s = (again [id]).run s' ∧
      s'.progress = { s.progress with stage := .dispatching, cycles := s.progress.cycles + 1 } ∧
      EndsIn roles.crew [id] s' o' ∧ P o' := by
  obtain ⟨s₁, hp, rfl, hrun⟩ := run_cycleOnce_of_endsIn (a := a) again hs hbatch
  obtain ⟨report, o₁, hverify, hfailed, hmends⟩ := h
  obtain ⟨s₂, hs₂, hp₂, hlogs, rfl⟩ := run_verify_of_failed (s := s₁) (by rw [hp]; rfl)
    (by rw [hp]; exact hcycles) hverify hfailed
  obtain ⟨d, o₂, r, o₃, hd, ⟨summary, happroved⟩, hdeps, hwork, hr, hP⟩ :=
    hmends (s₂.workflow.iterations + 1) s₂.workflow.queue
  obtain ⟨s₃, hs₃, hp₃, htask, rfl⟩ := run_correct_of_approved (by rw [hp₂]; rfl) (hlogs ▸ hd) happroved
  have hpending := (Diagnosis.approved_iff.1 ⟨summary, happroved⟩).1.sound.pending
  refine ⟨d.task.id, s₃, o₃, ?_, ?_, endsIn_corrective htask hpending hdeps hwork hr, hP⟩
  · rw [hrun, run_bind_ok hs₂, if_pos rfl, run_bind_ok hs₃]
  · rw [hp₃, hp₂, hp]
    rfl

end

/-- A run that may make as many corrections as its project needs is done in the end. -/
theorem run_cycles_of_repairable {n k : Nat} {batch : List String} {o : σ}
    (h : Repairable roles a n o) (hs : s.progress.stage = .dispatching)
    (hbudget : s.progress.cycles + n ≤ s.progress.maxCycles) (hk : n ≤ k)
    (hbatch : EndsIn roles.crew batch s o) :
    ∃ s', (cycles roles a k batch).run s = (.ok (), s') ∧ s'.progress.stage = .done := by
  induction n generalizing k s batch o with
  | zero => cases k <;> exact run_cycleOnce_of_passes _ hs hbatch h
  | succ n ih =>
    obtain ⟨k, rfl⟩ : ∃ m, k = m + 1 := ⟨k - 1, by omega⟩
    rcases h with hpass | hmends
    · exact run_cycleOnce_of_passes _ hs hbatch hpass
    · obtain ⟨id, s', o', hrun, hp, hbatch', hnext⟩ := run_cycleOnce_of_mends
        (cycles roles a k) hs (by omega) hbatch hmends
      obtain ⟨s'', hs'', hdone⟩ := ih (k := k) hnext (by rw [hp]) (by rw [hp]; simp only; omega) (by omega)
        hbatch'
      exact ⟨s'', hrun.trans hs'', hdone⟩

/-! ## Whole runs -/

section
variable {request root runId : String} {m : Nat} {heard : Bool} {o : σ} {tasks : List Task}
  {summary : PlanSummary} (hresolve : (resolve roles request).run o = (.ok a, o))
  (hplan : (plan roles a).run o = (.ok tasks, o)) (hv : Plan.validate tasks = .approved summary)
  (hrow : Row [] tasks)
include hresolve hplan hv hrow

/-- A run with an approved plan that is a row goes into its cycles with the whole row waiting. -/
theorem run_drive_of_row (runId root : String) (m : Nat) (heard : Bool) : ∃ s,
    (drive roles).run ((RunState.start request root m heard o).emit (.runStarted runId root m)) =
      (cycles roles a m (tasks.map (·.id))).run s ∧
    Waiting s.workflow [] tasks ∧ s.progress = (Progress.new m).at_ .dispatching ∧ s.outside = o := by
  obtain ⟨hts, -⟩ := Plan.validate_eq_approved.1 hv
  obtain ⟨s, hs, hqueue, hcompleted, hprogress, ho⟩ : ∃ s, (planUntilApproved roles a 1).run
      (resolved runId request root m heard a o) = (.ok (), s) ∧ s.workflow.queue = tasks ∧
      s.workflow.completed = .empty ∧ s.progress = (Progress.new m).at_ .dispatching ∧ s.outside = o :=
    ⟨_, run_planOnce_of_approved hplan rfl hv rfl, rfl, rfl, rfl, rfl⟩
  have hwaiting : Waiting s.workflow [] tasks :=
    { queued := fun t ht => s.workflow.task?_of_mem (hqueue.symm ▸ hts.distinct) (hqueue.symm ▸ ht)
      pending := fun t ht => (hts.sound t ht).pending
      distinct := hts.distinct
      row := hrow
      new := fun t _ => by rw [hcompleted]; rfl
      done := fun d hd => by cases hd
      unfailed := fun d hd => by cases hd }
  refine ⟨s, ?_, hwaiting, hprogress, ho⟩
  rw [run_drive_of_ok runId root m heard hresolve, run_bind_ok hs, run_bind_ok (run_get s),
    pendingIds_eq hts hqueue]

/-- A run whose plan is a row of tasks that leads to a project it can repair passes. -/
theorem run_of_repairable {n : Nat} {o' : σ} (hrelay : Relay roles.crew tasks o o')
    (h : Repairable roles a n o') (hn : n ≤ m) :
    (run roles runId (.start request root m heard o)).1.outcome = .passed := by
  obtain ⟨s, hs, hwaiting, hprogress, rfl⟩ := run_drive_of_row hresolve hplan hv hrow runId root m heard
  obtain ⟨s', hs', hdone⟩ := run_cycles_of_repairable (k := m) h (by rw [hprogress]; rfl)
    (by rw [hprogress]; show 0 + n ≤ m; omega) hn (runBatch_of_relay hwaiting hrelay)
  rw [run_of_ok (hs.trans hs')]
  show Outcome.ofStage s'.progress.stage = .passed
  rw [hdone]
  rfl

/-- A run is aborted if its plan is a row whose first task fails fatally. -/
theorem run_of_fatal {t : Task} {ts : List Task} {e : Failure} {o' : σ} (htasks : tasks = t :: ts)
    (hwork : roles.crew.work t.begin o = (.ends (.error e), o')) (he : e.isFatal = true) :
    (run roles runId (.start request root m heard o)).1.outcome = .aborted := by
  subst htasks
  obtain ⟨s, hs, hwaiting, hprogress, rfl⟩ := run_drive_of_row hresolve hplan hv hrow runId root m heard
  have hfatal := runBatch_of_fatal hwaiting hwork he
  have hstill := ((keeps_workedSince roles.crew s).runBatch (.refl s) ((t :: ts).map (·.id))).progress
  rw [run_of_halt (hs.trans (run_cycles_of_error hfatal))]
  show Outcome.ofStage (stopped (runBatch roles.crew ((t :: ts).map (·.id)) s).2.progress).stage = .aborted
  rw [hstill, hprogress]
  rfl

end

end BuildLoop.Run
