import BuildLoop.Proofs.Run.Bound
import BuildLoop.Proofs.Run.Memory
import BuildLoop.Run.Standard

/-!
# What a preview says of the run

A preview resolves and plans once; a run resolves once and plans until a plan is approved. Where the
architect and the planner give the same results on every call (`Steady`), the preview foretells how far
the run comes:

    preview = error e            ↔   the run stops with e before any task starts
    preview = ok p, p rejected   ↔   the run plans twice and gives up for the reasons of p
    preview = ok p, p approved   →   the first batch of the run is p
                                                                                         (run_previewed)
-/

namespace BuildLoop.Run

variable {σ τ α β : Type}

/-! ## Results that do not depend on the world -/

/-- Whether an act gives one result, whatever the world. -/
def Gives (act : Act σ α) (r : Except Failure α) : Prop := ∀ o, (act.run o).1 = r

section
variable {x : Act σ α} {f : α → Act σ β}

theorem gives_result (r : Except Failure α) : Gives (ExceptT.mk (pure r) : Act σ α) r := fun _ => rfl

theorem gives_pure (a : α) : Gives (pure a : Act σ α) (.ok a) := fun _ => rfl

theorem Gives.bind_error {e : Failure} (h : Gives x (.error e)) : Gives (x >>= f) (.error e) := by
  intro o
  rw [run_bind_error (Prod.ext (h o) rfl)]

theorem Gives.bind_ok {a : α} {r : Except Failure β} (h : Gives x (.ok a)) (hf : Gives (f a) r) :
    Gives (x >>= f) r := by
  intro o
  rw [run_bind_ok (Prod.ext (h o) rfl)]
  exact hf _

theorem exists_gives_bind (h : ∃ r, Gives x r) (hf : ∀ a, ∃ r, Gives (f a) r) :
    ∃ r, Gives (x >>= f) r := by
  obtain ⟨_ | a, hx⟩ := h
  · exact ⟨_, hx.bind_error⟩
  · obtain ⟨r, hr⟩ := hf a
    exact ⟨r, hx.bind_ok hr⟩

end

/-- Whether the architect and the planner give the same results on every call. -/
structure Steady (roles : Roles σ) : Prop where
  architect : ∀ request, ∃ r, Gives (roles.architect request) r
  planner : ∀ a, ∃ r, Gives (roles.planner a) r

section
variable {roles : Roles σ}

theorem Steady.resolve (h : Steady roles) (request : String) :
    ∃ r, Gives (Run.resolve roles request) r := by
  unfold Run.resolve
  by_cases hb : Text.isBlankText request = true
  · simp only [hb, if_true]
    exact ⟨_, gives_result _⟩
  · simp only [hb]
    exact exists_gives_bind (h.architect request) fun a =>
      exists_gives_bind ⟨_, gives_result _⟩ fun _ => ⟨_, gives_pure _⟩

theorem Steady.plan (h : Steady roles) (a : Architecture) : ∃ r, Gives (Run.plan roles a) r :=
  exists_gives_bind (h.planner a) fun _ => exists_gives_bind ⟨_, gives_result _⟩ fun _ =>
    ⟨_, gives_pure _⟩

/-- How resolving and planning come out, and what a preview shows of it. -/
inductive Foreseen (roles : Roles σ) (request : String) : Except Failure Preview → Prop
  | unresolved {e : Failure} (h : Gives (resolve roles request) (.error e)) :
      Foreseen roles request (.error e)
  | unplanned {a : Architecture} {e : Failure} (h : Gives (resolve roles request) (.ok a))
      (hp : Gives (plan roles a) (.error e)) : Foreseen roles request (.error e)
  | planned {a : Architecture} {tasks : List Task} (h : Gives (resolve roles request) (.ok a))
      (hp : Gives (plan roles a) (.ok tasks)) :
      Foreseen roles request (.ok ⟨a, tasks, Plan.validate tasks⟩)

theorem Steady.foreseen (h : Steady roles) (request : String) (o : σ) :
    Foreseen roles request ((preview roles request).run o).1 := by
  obtain ⟨_ | a, hr⟩ := h.resolve request
  · rw [show ((preview roles request).run o).1 = _ from hr.bind_error o]
    exact .unresolved hr
  obtain ⟨_ | tasks, hp⟩ := h.plan a
  · rw [show ((preview roles request).run o).1 = _ from hr.bind_ok hp.bind_error o]
    exact .unplanned hr hp
  · have hshown : Gives (preview roles request) (.ok ⟨a, tasks, Plan.validate tasks⟩) :=
      hr.bind_ok (hp.bind_ok (gives_pure _))
    rw [hshown o]
    exact .planned hr hp

end

/-! ## Planning -/

/-- What is told of a plan that is rejected, with the stage that follows. -/
def rejection (tasks : List Task) (reasons : List String) (next : Stage) : List Event :=
  [.planReady tasks, .stageChanged .planning .validating .queueReady, .planRejected reasons,
    .stageChanged .validating next .planRejected]

/-- What is told of a plan that is approved. -/
def approval (tasks : List Task) (summary : PlanSummary) : List Event :=
  [.planReady tasks, .stageChanged .planning .validating .queueReady, .planApproved summary,
    .stageChanged .validating .dispatching .planApproved]

section
variable {roles : Roles σ} {a : Architecture} {again : List String → Step σ Unit} {s : RunState σ}
  {tasks : List Task} {o : σ}

theorem fire_queueReady {p : Progress} (hs : p.stage = .planning) :
    p.fire .queueReady = .ok (p.at_ .validating) := by
  simp [Progress.fire, Progress.next?, hs]

theorem run_planOnce_of_error {e : Failure} (h : (plan roles a).run s.outside = (.error e, o)) :
    (planOnce roles a again).run s = (.error (.failed e), { s with outside := o }) :=
  run_bind_error (run_outside_of_error h)

section
variable (h : (plan roles a).run s.outside = (.ok tasks, o)) (hs : s.progress.stage = .planning)
include h hs

theorem run_planOnce_of_approved {summary : PlanSummary} {w : WorkflowState}
    (hv : Plan.validate tasks = .approved summary) (hw : s.workflow.setQueue tasks = .ok w) :
    (planOnce roles a again).run s =
      (.ok (), ⟨w, s.progress.at_ .dispatching, s.log.putAll (approval tasks summary), o⟩) := by
  unfold planOnce
  rw [run_bind_ok (run_outside_of_ok h), run_emit_advance (by exact fire_queueReady hs), hv]
  rw [run_bind_ok (run_know_of_ok (by exact hw)), run_emit_advance (p := s.progress.at_ .dispatching) rfl, hs]
  rfl

theorem run_planOnce_of_rejected {reasons : List String} (hv : Plan.validate tasks = .rejected reasons)
    (hr : s.progress.replans < s.progress.maxReplans) :
    (planOnce roles a again).run s = (again reasons).run
      ⟨s.workflow, { s.progress with stage := .planning, replans := s.progress.replans + 1 },
        s.log.putAll (rejection tasks reasons .planning), o⟩ := by
  have hagain : (s.progress.at_ .validating).fire .planRejected =
      .ok { s.progress with stage := .planning, replans := s.progress.replans + 1 } := by
    simp [Progress.fire, Progress.next?, Progress.at_, hr]
  unfold planOnce
  rw [run_bind_ok (run_outside_of_ok h), run_emit_advance (by exact fire_queueReady hs), hv]
  rw [run_emit_advance (by exact hagain), hs]
  rfl

theorem run_planOnce_of_rejected_last {reasons : List String}
    (hv : Plan.validate tasks = .rejected reasons) (hr : s.progress.maxReplans ≤ s.progress.replans) :
    (planOnce roles a again).run s = (.error (.failed (planRejected reasons)),
      ⟨s.workflow, s.progress.at_ .aborted, s.log.putAll (rejection tasks reasons .aborted), o⟩) := by
  have hlast : (s.progress.at_ .validating).fire .planRejected = .ok (s.progress.at_ .aborted) := by
    simp [Progress.fire, Progress.next?, Progress.at_, Nat.not_lt.2 hr]
  unfold planOnce
  rw [run_bind_ok (run_outside_of_ok h), run_emit_advance (by exact fire_queueReady hs), hv]
  rw [run_emit_advance (by exact hlast), hs]
  rfl

end

end

/-! ## Before the first batch -/

section
variable {roles : Roles σ} {a : Architecture} {s : RunState σ} {o : σ}

theorem run_drive_of_error {e : Failure}
    (h : (resolve roles s.workflow.requirements).run s.outside = (.error e, o)) :
    (drive roles).run s = (.error (.failed e), { s with outside := o }) := by
  unfold drive
  rw [run_bind_ok (run_get s), run_bind_error (run_outside_of_error h)]

/-- A run whose architecture is resolved. -/
def resolved (runId request root : String) (m : Nat) (heard : Bool) (a : Architecture) (o : σ) :
    RunState σ :=
  ⟨{ WorkflowState.new request root with architecture := some a }.bump, .new m,
    (Log.new heard).putAll [.runStarted runId root m, .architectureResolved a], o⟩

/-- Once its architecture is resolved, a run plans and goes through its cycles. -/
theorem run_drive_of_ok {request : String} {o o' : σ} (runId root : String) (m : Nat) (heard : Bool)
    (h : (resolve roles request).run o = (.ok a, o')) :
    (drive roles).run ((RunState.start request root m heard o).emit (.runStarted runId root m)) =
      (planUntilApproved roles a 1 >>= fun _ => get >>= fun s' => cycles roles a m
        s'.workflow.pendingIds).run (resolved runId request root m heard a o') := by
  unfold drive
  rw [run_bind_ok (run_get _), run_bind_ok (run_outside_of_ok (by exact h)),
    run_bind_ok (run_know_of_ok (f := (·.setArchitecture a)) rfl)]
  rfl

end

/-! ## Runs that give up -/

section
variable {roles : Roles σ}

theorem run_resolve_recorded {request : String} {r : Except Failure Architecture}
    (h : Gives (resolve roles request) r) (x : σ × List Call) :
    ∃ o, (resolve (recorded roles) request).run x = (r, o, x.2) := by
  have htracks := (mirrors_recorded roles).resolve request x
  have hresult : ((resolve (recorded roles) request).run x).1 = r := by rw [← h x.1, htracks]
  have hcalls : ((resolve (recorded roles) request).run x).2.2 = x.2 := (after_resolve roles request x).snd
  exact ⟨_, Prod.ext hresult (Prod.ext rfl hcalls)⟩

theorem run_plan_recorded {a : Architecture} {r : Except Failure (List Task)}
    (h : Gives (plan roles a) r) (x : σ × List Call) :
    ∃ o, (plan (recorded roles) a).run x = (r, o, x.2 ++ [.planned]) := by
  have htracks := (mirrors_recorded roles).plan a x
  have hresult : ((plan (recorded roles) a).run x).1 = r := by rw [← h x.1, htracks]
  have hcalls : ((plan (recorded roles) a).run x).2.2 = x.2 ++ [.planned] := (after_plan roles a x).snd
  exact ⟨_, Prod.ext hresult (Prod.ext rfl hcalls)⟩

/-- A run that stops for a failure before any task starts, after `k` plannings and rejections for some
reasons. -/
structure GaveUp (f : Failure) (k : Nat) (rejections : List (List String)) (calls : List Call)
    (report : RunReport) : Prop where
  outcome : report.outcome = .aborted
  unstarted : ∀ t, .taskStarted t ∉ report.events
  failure : report.failure = some f
  plannings : plannings calls = k
  rejected : ∀ reasons, .planRejected reasons ∈ report.events ↔ reasons ∈ rejections

theorem gaveUp_of_drive {runId : String} {s : RunState σ} {f : Failure} {k : Nat}
    {rejections : List (List String)} {s' : RunState (σ × List Call)}
    (hrun : (drive (recorded roles)).run ((unrecorded s).emit
      (.runStarted runId s.workflow.projectRoot s.progress.maxCycles)) = (.error (.failed f), s'))
    (hstage : Outcome.ofStage s'.progress.stage = .aborted)
    (hcalls : s'.outside.2 = List.replicate k .planned)
    (hunstarted : ∀ t, .taskStarted t ∉ s'.log.entries)
    (hrejected : ∀ reasons, .planRejected reasons ∈ s'.log.entries ↔ reasons ∈ rejections) :
    GaveUp f k rejections (callsOf roles runId s) (run roles runId s).1 := by
  have hfinish : run (recorded roles) runId (unrecorded s) =
      finish runId (some f) { s' with progress := stopped s'.progress } := run_of_halt hrun
  have hreport : (run roles runId s).1 =
      (finish runId (some f) { s' with progress := stopped s'.progress }).1 := by
    rw [run_recorded, hfinish]
  have hlast : (stopped s'.progress).stage = lastStage .aborted := (stage_stopped hstage).1
  obtain ⟨hout, hfail⟩ := failure_finish (s := { s' with progress := stopped s'.progress }) hlast rfl
    runId (some f)
  constructor
  case outcome => rw [hreport, hout]
  case failure => rw [hreport, hfail, if_neg (by simp)]
  case unstarted =>
    intro t ht
    rw [hreport] at ht
    rcases List.mem_append.1 ht with ht | ht
    · exact hunstarted t ht
    · cases List.mem_singleton.1 ht
  case plannings =>
    rw [callsOf, hfinish]
    show plannings s'.outside.2 = k
    rw [hcalls, ← List.append_nil (List.replicate k Call.planned), plannings_plans]
    rfl
  case rejected =>
    intro reasons
    rw [hreport, ← hrejected reasons]
    show Event.planRejected reasons ∈ s'.log.entries ++ [_] ↔ _
    simp

variable {request : String} (runId root : String) (m : Nat) (heard : Bool) (o : σ)

theorem gaveUp_of_unresolved {e : Failure} (h : Gives (resolve roles request) (.error e)) :
    let s := RunState.start request root m heard o
    GaveUp e 0 [] (callsOf roles runId s) (run roles runId s).1 := by
  obtain ⟨o', hr⟩ := run_resolve_recorded h (o, [])
  refine gaveUp_of_drive (run_drive_of_error hr) rfl rfl (fun t => ?_) fun reasons => ?_
  · simp [RunState.emit, unrecorded, RunState.start, Log.new]
  · simp [RunState.emit, unrecorded, RunState.start, Log.new]

variable {a : Architecture} (ha : Gives (resolve roles request) (.ok a))
include ha

theorem gaveUp_of_unplanned {e : Failure} (h : Gives (plan roles a) (.error e)) :
    let s := RunState.start request root m heard o
    GaveUp e 1 [] (callsOf roles runId s) (run roles runId s).1 := by
  obtain ⟨o₁, hr⟩ := run_resolve_recorded ha (o, [])
  obtain ⟨o₂, hp⟩ := run_plan_recorded h (o₁, [])
  have hplans : (planUntilApproved (recorded roles) a 1).run
      (resolved runId request root m heard a (o₁, [])) = _ := run_planOnce_of_error hp
  refine gaveUp_of_drive ((run_drive_of_ok runId root m heard hr).trans (run_bind_error hplans)) rfl rfl
    (fun t => ?_) fun reasons => ?_
  · simp [resolved, Log.putAll, Log.new]
  · simp [resolved, Log.putAll, Log.new]

/-- A plan that is rejected is made again once. -/
theorem gaveUp_of_rejected {tasks : List Task} {reasons : List String} (h : Gives (plan roles a) (.ok tasks))
    (hv : Plan.validate tasks = .rejected reasons) :
    let s := RunState.start request root m heard o
    GaveUp (planRejected reasons) 2 [reasons] (callsOf roles runId s) (run roles runId s).1 := by
  obtain ⟨o₁, hr⟩ := run_resolve_recorded ha (o, [])
  obtain ⟨o₂, hp⟩ := run_plan_recorded h (o₁, [])
  obtain ⟨o₃, hp'⟩ := run_plan_recorded h (o₂, [.planned])
  have hfirst : (planUntilApproved (recorded roles) a 1).run
      (resolved runId request root m heard a (o₁, [])) = (planUntilApproved (recorded roles) a 0).run _ :=
    run_planOnce_of_rejected hp rfl hv Nat.zero_lt_one
  have hplans := hfirst.trans (run_planOnce_of_rejected_last hp' rfl hv (Nat.le_refl 1))
  refine gaveUp_of_drive ((run_drive_of_ok runId root m heard hr).trans (run_bind_error hplans)) rfl rfl
    (fun t => ?_) fun reasons => ?_
  · simp [resolved, rejection, Log.putAll, Log.new]
  · simp [resolved, rejection, Log.putAll, Log.new]

/-- What is approved becomes the queue, and all of it is the first batch. -/
theorem run_drive_of_approved {tasks : List Task} {summary : PlanSummary}
    (h : Gives (plan roles a) (.ok tasks)) (hv : Plan.validate tasks = .approved summary) :
    ∃ s', s'.workflow.queue = tasks ∧ s'.workflow.completed = .empty ∧
      (drive roles).run ((RunState.start request root m heard o).emit (.runStarted runId root m)) =
        (cycles roles a m (tasks.map (·.id))).run s' := by
  obtain ⟨hts, -⟩ := Plan.validate_eq_approved.1 hv
  obtain ⟨o₁, hr⟩ : ∃ o₁, (resolve roles request).run o = (.ok a, o₁) := ⟨_, Prod.ext (ha o) rfl⟩
  obtain ⟨o₂, hp⟩ : ∃ o₂, (plan roles a).run o₁ = (.ok tasks, o₂) := ⟨_, Prod.ext (h o₁) rfl⟩
  obtain ⟨s', hplans, hqueue, hnone⟩ : ∃ s', (planUntilApproved roles a 1).run
      (resolved runId request root m heard a o₁) = (.ok (), s') ∧ s'.workflow.queue = tasks ∧
      s'.workflow.completed = .empty := ⟨_, run_planOnce_of_approved hp rfl hv rfl, rfl, rfl⟩
  refine ⟨s', hqueue, hnone, ?_⟩
  rw [run_drive_of_ok runId root m heard hr, run_bind_ok hplans, run_bind_ok (run_get s'),
    Dispatch.pendingIds_eq hts hqueue]

end

/-! ## Plans that are approved -/

/-- After a plan is approved some task starts, whatever becomes of it. -/
theorem exists_started {roles : Roles σ} {request : String} {a : Architecture} {tasks : List Task}
    {summary : PlanSummary} (runId root : String) (m : Nat) (heard : Bool) (o : σ)
    (ha : Gives (resolve roles request) (.ok a)) (h : Gives (plan roles a) (.ok tasks))
    (hv : Plan.validate tasks = .approved summary) :
    ∃ t ∈ tasks, .taskStarted t.begin ∈
      (run roles runId (RunState.start request root m heard o)).1.events := by
  obtain ⟨s', hqueue, hnone, hdrive⟩ := run_drive_of_approved runId root m heard o ha h hv
  obtain ⟨t, ht, htold⟩ := exists_told_runBatch roles.crew (Plan.validate_eq_approved.1 hv).1 hqueue hnone
  have hend := hdrive ▸ Remembers.of_cycles roles a (k := m) htold
  refine ⟨t, ht, ?_⟩
  cases hrun : (drive roles).run
    ((RunState.start request root m heard o).emit (.runStarted runId root m)) with
  | mk r s'' =>
    rw [hrun] at hend
    cases r with
    | ok _ =>
      rw [run_of_ok hrun]
      exact List.mem_append_left _ hend
    | error e =>
      rw [run_of_halt hrun]
      exact List.mem_append_left _ hend

/-! ## What a preview leaves as it is -/

/-- Whether an act leaves what is seen of the world as it is. -/
def Leaves (view : σ → τ) (act : Act σ α) : Prop := ∀ o, view (act.run o).2 = view o

namespace Leaves

variable {view : σ → τ}

theorem result (r : Except Failure α) : Leaves view (ExceptT.mk (Pure.pure r) : Act σ α) := fun _ => rfl

theorem pure (a : α) : Leaves view (Pure.pure a : Act σ α) := fun _ => rfl

theorem bind {x : Act σ α} {f : α → Act σ β} (h : Leaves view x) (hf : ∀ a, Leaves view (f a)) :
    Leaves view (x >>= f) := by
  intro o
  cases hrun : x.run o with
  | mk r o' =>
    have ho : view o' = view o := by rw [← h o, hrun]
    cases r with
    | error e => rw [run_bind_error hrun, ho]
    | ok a => rw [run_bind_ok hrun, hf a, ho]

/-- A preview changes nothing that its architect and its planner leave as it is. -/
theorem preview {roles : Roles σ} (ha : ∀ request, Leaves view (roles.architect request))
    (hp : ∀ a, Leaves view (roles.planner a)) (request : String) :
    Leaves view (Run.preview roles request) := by
  refine .bind ?_ fun a => .bind (.bind (hp a) fun _ => .bind (.result _) fun _ => .pure _) fun _ =>
    .pure _
  unfold resolve
  by_cases hb : Text.isBlankText request = true
  · simp only [hb, if_true]
    exact .result _
  · simp only [hb]
    exact .bind (ha request) fun _ => .bind (.result _) fun _ => .pure _

/-- To ask a model changes no file. -/
theorem ask (γ : Type) [Json.Form γ] (h : Host) (c : Model.Client) (prompt user : String) :
    Leaves World.files (Model.ask γ h c prompt user) := by
  refine .bind (.bind (.result _) fun r world => ?_) fun _ => .result _
  show (world.send h r).2.files = world.files
  unfold World.send
  split <;> rfl

theorem architect (c : RunConfig) (w : Workspace) (h : Host) (request : String) :
    Leaves World.files ((standardRoles c w h).architect request) := by
  unfold standardRoles
  cases c.service with
  | rules => exact .result _
  | models => exact .bind (.ask _ _ _ _ _) fun _ => .bind (.result _) fun _ => .pure _

theorem planner (c : RunConfig) (w : Workspace) (h : Host) (a : Architecture) :
    Leaves World.files ((standardRoles c w h).planner a) := by
  unfold standardRoles
  cases c.service with
  | rules => exact .result _
  | models => exact .bind (.ask _ _ _ _ _) fun _ => .bind (.result _) fun _ => .pure _

end Leaves

/-! ## The preview and the run -/

/-- Whether a run is aborted before any task starts. -/
def Unstarted (report : RunReport) : Prop :=
  report.outcome = .aborted ∧ ∀ t, .taskStarted t ∉ report.events

/-- What a preview says of a run from its start. -/
structure Foretells (roles : Roles σ) (runId : String) (s : RunState σ)
    (shown : Except Failure Preview) : Prop where
  /-- It fails exactly if the run is aborted for the same failure, with no task started and no plan
  rejected. -/
  failed : ∀ e, shown = .error e ↔ Unstarted (run roles runId s).1 ∧
    (∀ reasons, .planRejected reasons ∉ (run roles runId s).1.events) ∧
    (run roles runId s).1.failure = some e
  /-- It shows a plan that is rejected exactly if the run plans twice and gives up for these reasons. -/
  rejected : ∀ reasons, (∃ p, shown = .ok p ∧ p.verdict = .rejected reasons) ↔
    Unstarted (run roles runId s).1 ∧ .planRejected reasons ∈ (run roles runId s).1.events ∧
    plannings (callsOf roles runId s) = 2 ∧
    (run roles runId s).1.failure = some (planRejected reasons)
  /-- A plan that it shows as approved is the queue with which the cycles of the run begin, and all of it
  is their first batch. -/
  approved : ∀ p summary, shown = .ok p → p.verdict = .approved summary →
    ∃ s', s'.workflow.queue = p.tasks ∧
      (drive roles).run (s.emit (.runStarted runId s.workflow.projectRoot s.progress.maxCycles)) =
        (cycles roles p.architecture s.progress.maxCycles (p.tasks.map (·.id))).run s'
  /-- Of a plan that it shows as approved some task starts. -/
  started : ∀ p summary, shown = .ok p → p.verdict = .approved summary →
    ∃ t ∈ p.tasks, .taskStarted t.begin ∈ (run roles runId s).1.events

section
variable {roles : Roles σ} {runId : String} {s : RunState σ}

theorem foretells_error {e : Failure} {k : Nat}
    (h : GaveUp e k [] (callsOf roles runId s) (run roles runId s).1) :
    Foretells roles runId s (.error e) where
  failed e' := by
    rw [h.failure]
    constructor
    · intro he
      cases he
      exact ⟨⟨h.outcome, h.unstarted⟩, fun reasons hr => List.not_mem_nil ((h.rejected reasons).1 hr), rfl⟩
    · rintro ⟨-, -, he⟩
      cases he
      rfl
  rejected reasons := by
    constructor
    · rintro ⟨p, hp, -⟩
      cases hp
    · rintro ⟨-, hr, -⟩
      exact absurd ((h.rejected reasons).1 hr) List.not_mem_nil
  approved p summary hp := by cases hp
  started p summary hp := by cases hp

theorem foretells_rejected {p : Preview} {reasons : List String} (hp : p.verdict = .rejected reasons)
    (h : GaveUp (planRejected reasons) 2 [reasons] (callsOf roles runId s) (run roles runId s).1) :
    Foretells roles runId s (.ok p) where
  failed e := by
    constructor
    · intro he
      cases he
    · rintro ⟨-, hnone, -⟩
      exact absurd ((h.rejected reasons).2 (List.mem_singleton_self _)) (hnone reasons)
  rejected reasons' := by
    constructor
    · rintro ⟨p', hp', hv⟩
      cases hp'
      rw [hp] at hv
      cases hv
      exact ⟨⟨h.outcome, h.unstarted⟩, (h.rejected reasons).2 (List.mem_singleton_self _), h.plannings,
        h.failure⟩
    · rintro ⟨-, hr, -⟩
      obtain rfl := List.mem_singleton.1 ((h.rejected reasons').1 hr)
      exact ⟨p, rfl, hp⟩
  approved p' summary hp' hv := by
    cases hp'
    rw [hp] at hv
    cases hv
  started p' summary hp' hv := by
    cases hp'
    rw [hp] at hv
    cases hv

end

theorem foretells_approved {roles : Roles σ} {request : String} {a : Architecture} {tasks : List Task}
    {summary : PlanSummary} (runId root : String) (m : Nat) (heard : Bool) (o : σ)
    (ha : Gives (resolve roles request) (.ok a)) (h : Gives (plan roles a) (.ok tasks))
    (hv : Plan.validate tasks = .approved summary) :
    Foretells roles runId (RunState.start request root m heard o)
      (.ok ⟨a, tasks, Plan.validate tasks⟩) := by
  have hstarted := exists_started runId root m heard o ha h hv
  have hdrive := run_drive_of_approved runId root m heard o ha h hv
  have hnot : ¬ Unstarted (run roles runId (RunState.start request root m heard o)).1 := by
    obtain ⟨t, -, ht⟩ := hstarted
    exact fun hu => hu.2 _ ht
  constructor
  case failed => exact fun e => ⟨fun he => (by cases he), fun hu => absurd hu.1 hnot⟩
  case rejected =>
    refine fun reasons => ⟨?_, fun hu => absurd hu.1 hnot⟩
    rintro ⟨p, hp, hr⟩
    cases hp
    rw [hv] at hr
    cases hr
  case approved =>
    intro p _ hp _
    cases hp
    obtain ⟨s', hq, -, hs⟩ := hdrive
    exact ⟨s', hq, hs⟩
  case started =>
    intro p _ hp _
    cases hp
    exact hstarted

/-- With an architect and a planner that give the same results on every call, a preview, whenever it is
made, foretells how far a run of the same request comes. It changes nothing that its architect and its
planner leave as it is; those of the standard roles change no file. -/
theorem run_previewed (roles : Roles σ) (hsteady : Steady roles) (runId request root : String) (m : Nat)
    (heard : Bool) (o o' : σ) :
    Foretells roles runId (RunState.start request root m heard o) ((preview roles request).run o').1 ∧
    (∀ (τ : Type) (view : σ → τ), (∀ request, Leaves view (roles.architect request)) →
      (∀ a, Leaves view (roles.planner a)) → Leaves view (preview roles request)) ∧
    ∀ c w h, Leaves World.files (preview (standardRoles c w h) request) := by
  refine ⟨?_, fun τ view ha hp => .preview ha hp request, fun c w h =>
    .preview (Leaves.architect c w h) (Leaves.planner c w h) request⟩
  have hforeseen := hsteady.foreseen request o'
  generalize ((preview roles request).run o').1 = shown at hforeseen
  cases hforeseen with
  | unresolved h => exact foretells_error (gaveUp_of_unresolved runId root m heard o h)
  | unplanned ha h => exact foretells_error (gaveUp_of_unplanned runId root m heard o ha h)
  | @planned a tasks ha h =>
    cases hv : Plan.validate tasks with
    | rejected reasons =>
      exact foretells_rejected rfl (gaveUp_of_rejected runId root m heard o ha h hv)
    | approved summary => exact hv ▸ foretells_approved runId root m heard o ha h hv

/-- The design of one page. -/
def singlePage : Architecture where
  stack := ⟨"none", "html", "none", []⟩
  overview := "A page"
  files := ⟨[], [⟨"index.html", "page"⟩], []⟩
  dependencies := ⟨[], []⟩
  endpoints := []
  dataFlow := "none"
  instructions := ""

/-- A task that does not say what to do. -/
def silentTask : Task := .new "TASK-001" "" .frontend

/-- Roles that design one page and plan a task for it that does not say what to do. -/
def silentRoles : Roles Unit where
  architect _ := ExceptT.mk (pure (.ok singlePage))
  planner _ := ExceptT.mk (pure (.ok [silentTask]))
  verifier _ := ExceptT.mk (pure (.error (.planning "nothing to verify")))
  diagnoser _ _ _ _ := ExceptT.mk (pure (.error (.planning "nothing to diagnose")))
  crew := Dispatch.steadyCrew

theorem steady_silentRoles : Steady silentRoles :=
  ⟨fun _ => ⟨_, gives_result _⟩, fun _ => ⟨_, gives_result _⟩⟩

/-- The plan is rejected, and the run says so after planning twice. -/
theorem run_previewed_silent :
    Steady silentRoles ∧
    Unstarted (run silentRoles "r" (RunState.start "a page" "app" 3 false ())).1 ∧
    (run silentRoles "r" (RunState.start "a page" "app" 3 false ())).1.failure =
      some (.planning "plan rejected: task TASK-001 has an empty description") := by
  have hshown : ((preview silentRoles "a page").run ()).1 =
      .ok ⟨singlePage, [silentTask], .rejected ["task TASK-001 has an empty description"]⟩ := by decide +kernel
  obtain ⟨hstopped, -, -, hfailure⟩ :=
    ((run_previewed silentRoles steady_silentRoles "r" "a page" "app" 3 false () ()).1.rejected _).1
      ⟨_, hshown, rfl⟩
  exact ⟨steady_silentRoles, hstopped, hfailure⟩

end BuildLoop.Run
