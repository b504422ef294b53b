import BuildLoop.Proofs.Run.Batch
import BuildLoop.Proofs.Run.Step

/-!
# Runs in two worlds

Roles in one world may do what other roles do in the part of it that a map `φ` shows (`Mirrors`). The
runs then agree in everything but the world, since a run only looks at the world through its roles:

    run r id (s.seen φ) = ((run R id s).1, (run R id s).2.seen φ)        if Mirrors φ R r   (run_seen)
-/

namespace BuildLoop

variable {σ τ : Type}

/-- A run as it is seen where `φ` shows the world. -/
def RunState.seen (φ : τ → σ) (s : RunState τ) : RunState σ :=
  ⟨s.workflow, s.progress, s.log, φ s.outside⟩

/-! ## Computations -/

/-- Whether a computation does in one state what another does in the state that `φ` shows. -/
def Tracks {ε α : Type} (φ : τ → σ) (x : ExceptT ε (StateM τ) α) (y : ExceptT ε (StateM σ) α) :
    Prop :=
  ∀ s, y.run (φ s) = ((x.run s).1, φ (x.run s).2)

namespace Tracks

variable {ε α β : Type} {φ : τ → σ}

theorem pure (a : α) :
    Tracks (ε := ε) φ (Pure.pure a : ExceptT ε (StateM τ) α) (Pure.pure a) := fun _ => rfl

theorem throw (e : ε) :
    Tracks φ (MonadExcept.throw e : ExceptT ε (StateM τ) α) (MonadExcept.throw e) := fun _ => rfl

/-- A result that does not come from the state. -/
theorem result (r : Except ε α) :
    Tracks φ (ExceptT.mk (Pure.pure r) : ExceptT ε (StateM τ) α) (ExceptT.mk (Pure.pure r)) :=
  fun _ => rfl

theorem bind {x : ExceptT ε (StateM τ) α} {y : ExceptT ε (StateM σ) α}
    {f : α → ExceptT ε (StateM τ) β} {g : α → ExceptT ε (StateM σ) β} (h : Tracks φ x y)
    (hf : ∀ a, Tracks φ (f a) (g a)) : Tracks φ (x >>= f) (y >>= g) := by
  intro s
  show ExceptT.bindCont g (y.run (φ s)).1 (y.run (φ s)).2 =
    ((ExceptT.bindCont f (x.run s).1 (x.run s).2).1,
      φ (ExceptT.bindCont f (x.run s).1 (x.run s).2).2)
  rw [h s]
  rcases x.run s with ⟨_ | a, s'⟩
  · rfl
  · exact hf a s'

/-- What is read from the state first may be used as long as `φ` shows it. -/
theorem get_bind {f : τ → ExceptT ε (StateM τ) β} {g : σ → ExceptT ε (StateM σ) β}
    (h : ∀ s, Tracks φ (f s) (g (φ s))) : Tracks φ (get >>= f) (get >>= g) := fun s => h s s

end Tracks

/-! ## Batches -/

namespace Dispatch

/-- A batch as it is seen where `φ` shows the world. -/
def Batch.seen (φ : τ → σ) (b : Batch τ) : Batch σ := ⟨b.run.seen φ, b.summary⟩

theorem Batch.workflow_seen (φ : τ → σ) (b : Batch τ) :
    (b.seen φ).run.workflow = b.run.workflow := rfl

/-- Whether one crew does what another does in the world that `φ` shows. -/
structure Mirrors (φ : τ → σ) (C : Crew τ) (c : Crew σ) : Prop where
  work : ∀ t o, c.work t (φ o) = ((C.work t o).1, φ (C.work t o).2)
  finish : c.finish = C.finish
  taskMilliseconds : c.taskMilliseconds = C.taskMilliseconds

theorem failAll_seen (φ : τ → σ) (b : Batch τ) (l : List (String × String)) :
    failAll (b.seen φ) l = (failAll b l).seen φ := by
  induction l generalizing b with
  | nil => rfl
  | cons p r ih => exact ih (fail b p.1 p.2)

theorem sweep_seen (φ : τ → σ) (b : Batch τ) (ids : List String) :
    sweep (b.seen φ) ids = (sweep b ids).seen φ := by
  induction ids generalizing b with
  | nil => rfl
  | cons id r ih =>
    rw [sweep, sweep, Batch.workflow_seen]
    split
    · exact ih (fail b id _)
    · exact ih b

theorem begin_seen (φ : τ → σ) (s : RunState τ) (id : String) :
    begin (s.seen φ) id = (begin s id).map fun p => (p.1, p.2.seen φ) := by
  unfold begin
  rw [Option.map_map]
  rfl

theorem beginAll_seen (φ : τ → σ) (s : RunState τ) (ids : List String) :
    beginAll (s.seen φ) ids = ((beginAll s ids).1, (beginAll s ids).2.seen φ) := by
  induction ids generalizing s with
  | nil => rfl
  | cons id r ih =>
    unfold beginAll
    rw [begin_seen]
    cases begin s id with
    | none => exact ih s
    | some p => simp only [Option.map_some, ih]

section
variable {φ : τ → σ} {C : Crew τ} {c : Crew σ} (h : Mirrors φ C c)
include h

theorem Mirrors.workAll (ts : List Task) (o : τ) :
    c.workAll ts (φ o) = ((C.workAll ts o).1, φ (C.workAll ts o).2) := by
  induction ts generalizing o with
  | nil => rfl
  | cons t r ih => simp only [Crew.workAll, h.work, ih]

theorem Mirrors.attempt (s : RunState τ) (ready : List String) :
    attempt c (s.seen φ) ready = ((attempt C s ready).1, (attempt C s ready).2.seen φ) := by
  unfold Dispatch.attempt
  rw [beginAll_seen, h.finish]
  simp only [RunState.seen, h.workAll]

theorem Mirrors.result? (f : Finished) : c.result? f = C.result? f := by
  unfold Crew.result? Crew.overdue
  rw [h.taskMilliseconds]

theorem Mirrors.settleAll (fatal : Option Failure) (b : Batch τ) (fs : List Finished) :
    settleAll c fatal (b.seen φ) fs =
      ((settleAll C fatal b fs).1, (settleAll C fatal b fs).2.seen φ) := by
  induction fs generalizing fatal b with
  | nil => rfl
  | cons f r ih =>
    unfold Dispatch.settleAll
    rw [h.result?]
    cases C.result? f with
    | none => exact ih fatal b
    | some result =>
      cases result with
      | ok report => exact ih fatal (complete b f.task report)
      | error e => exact ih _ (fail b f.task.id e.message)

theorem Mirrors.wave (b : Batch τ) (ready : List String) :
    wave c (b.seen φ) ready = ((wave C b ready).1, (wave C b ready).2.seen φ) := by
  have hw : worked c (b.seen φ) ready = (worked C b ready).seen φ := by
    unfold worked
    rw [show (b.seen φ).run = b.run.seen φ from rfl, h.attempt]
    rfl
  have hf : (Dispatch.attempt c (b.seen φ).run ready).1 = (Dispatch.attempt C b.run ready).1 := by
    rw [show (b.seen φ).run = b.run.seen φ from rfl, h.attempt]
  simp only [wave_eq, hw, hf, h.settleAll, sweep_seen]

/-- A round as it is seen where `φ` shows the world. -/
def Round.seen (φ : τ → σ) : Round τ → Round σ
  | .ended b => .ended (b.seen φ)
  | .stopped fatal b => .stopped fatal (b.seen φ)
  | .goesOn b rest => .goesOn (b.seen φ) rest

theorem Mirrors.round (b : Batch τ) (ids : List String) :
    round c (b.seen φ) ids = (round C b ids).seen φ := by
  simp only [Dispatch.round, Batch.workflow_seen, failAll_seen, h.wave]
  split
  · rfl
  · rcases Dispatch.wave C _ _ with ⟨_ | _, _⟩ <;> rfl

theorem Mirrors.rounds (n : Nat) (b : Batch τ) (ids : List String) :
    rounds c n (b.seen φ) ids = ((rounds C n b ids).1, (rounds C n b ids).2.seen φ) := by
  induction n generalizing b ids with
  | zero => rfl
  | succ n ih =>
    unfold Dispatch.rounds
    rw [h.round]
    split
    · rfl
    · cases Dispatch.round C b ids with
      | ended b' | stopped fatal b' => rfl
      | goesOn b' rest => exact ih b' rest

theorem Mirrors.runBatch (ids : List String) (s : RunState τ) :
    runBatch c ids (s.seen φ) = ((runBatch C ids s).1, (runBatch C ids s).2.seen φ) := by
  rw [runBatch_eq, runBatch_eq]
  have hr := h.rounds (pendingOf s.workflow ids).length ⟨s, .empty⟩ (pendingOf s.workflow ids)
  simp only [Batch.seen] at hr
  rw [show (s.seen φ).workflow = s.workflow from rfl, hr]

end

end Dispatch

/-! ## Runs -/

namespace Run

/-- Whether roles in one world do what others do in the world that `φ` shows. -/
structure Mirrors (φ : τ → σ) (R : Roles τ) (r : Roles σ) : Prop where
  architect : ∀ request, Tracks φ (R.architect request) (r.architect request)
  planner : ∀ a, Tracks φ (R.planner a) (r.planner a)
  verifier : ∀ a, Tracks φ (R.verifier a) (r.verifier a)
  diagnoser : ∀ logs a n ids, Tracks φ (R.diagnoser logs a n ids) (r.diagnoser logs a n ids)
  crew : Dispatch.Mirrors φ R.crew r.crew

section
variable (φ : τ → σ)

theorem tracks_emit (e : Event) : Tracks (RunState.seen φ) (emit e) (emit e) := fun _ => rfl

theorem tracks_know (f : WorkflowState → Except Failure WorkflowState) :
    Tracks (RunState.seen φ) (know f) (know f) := by
  intro s
  have hsame : (s.seen φ).workflow = s.workflow := rfl
  cases h : f s.workflow with
  | ok w =>
    rw [run_know_of_ok h, run_know_of_ok (hsame.symm ▸ h)]
    rfl
  | error e => rw [run_know_of_error h, run_know_of_error (hsame.symm ▸ h)]

theorem tracks_advance (g : Signal) : Tracks (RunState.seen φ) (advance g) (advance g) := by
  intro s
  have hsame : (s.seen φ).progress = s.progress := rfl
  cases h : s.progress.fire g with
  | ok p =>
    rw [run_advance_of_ok h, run_advance_of_ok (hsame.symm ▸ h)]
    rfl
  | error e => rw [run_advance_of_error h, run_advance_of_error (hsame.symm ▸ h)]

variable {φ}

theorem tracks_outside {α : Type} {A : Act τ α} {a : Act σ α} (h : Tracks φ A a) :
    Tracks (RunState.seen φ) (outside A) (outside a) := by
  intro s
  rw [run_outside, run_outside, show (s.seen φ).outside = φ s.outside from rfl, h s.outside]
  rfl

theorem tracks_dispatch {C : Crew τ} {c : Crew σ} (h : Dispatch.Mirrors φ C c)
    (ids : List String) : Tracks (RunState.seen φ) (dispatch C ids) (dispatch c ids) := by
  intro s
  rw [run_dispatch, run_dispatch, h.runBatch]

end

section
variable {φ : τ → σ} {R : Roles τ} {r : Roles σ} (h : Mirrors φ R r)
include h

theorem Mirrors.resolve (request : String) : Tracks φ (resolve R request) (resolve r request) := by
  unfold Run.resolve
  by_cases hb : Text.isBlankText request = true
  · simp only [hb, if_true]
    exact .bind (.throw _) fun _ => .bind (h.architect request) fun a =>
      .bind (.result _) fun _ => .pure _
  · simp only [hb]
    exact .bind (h.architect request) fun a => .bind (.result _) fun _ => .pure _

theorem Mirrors.plan (a : Architecture) : Tracks φ (plan R a) (plan r a) :=
  .bind (h.planner a) fun _ => .bind (.result _) fun _ => .pure _

theorem Mirrors.planOnce (a : Architecture) {again : List String → Step τ Unit}
    {again' : List String → Step σ Unit}
    (hagain : ∀ reasons, Tracks (RunState.seen φ) (again reasons) (again' reasons)) :
    Tracks (RunState.seen φ) (planOnce R a again) (planOnce r a again') := by
  refine .bind (tracks_outside (h.plan a)) fun tasks => .bind (tracks_emit φ _) fun _ =>
    .bind (tracks_advance φ _) fun _ => ?_
  cases Plan.validate tasks with
  | approved summary =>
    exact .bind (tracks_know φ _) fun _ => .bind (tracks_emit φ _) fun _ =>
      .bind (tracks_advance φ _) fun _ => .pure _
  | rejected reasons =>
    refine .bind (tracks_emit φ _) fun _ => .bind (tracks_advance φ _) fun stage => ?_
    by_cases hs : stage = .aborted
    · simp only [hs, if_true]
      exact .throw _
    · simp only [hs, if_false]
      exact hagain reasons

theorem Mirrors.planUntilApproved (a : Architecture) (n : Nat) :
    Tracks (RunState.seen φ) (planUntilApproved R a n) (planUntilApproved r a n) := by
  induction n with
  | zero => exact h.planOnce a fun _ => .throw _
  | succ n ih => exact h.planOnce a fun _ => ih

theorem Mirrors.verify (a : Architecture) :
    Tracks (RunState.seen φ) (verify R a) (verify r a) := by
  refine .bind (tracks_emit φ _) fun _ => .bind (tracks_outside (h.verifier a)) fun report =>
    .bind (tracks_know φ _) fun _ => ?_
  by_cases hp : report.isPassed = true
  · simp only [hp, if_true]
    exact .bind (tracks_emit φ _) fun _ => tracks_advance φ _
  · simp only [hp]
    exact .bind (tracks_emit φ _) fun _ => tracks_advance φ _

theorem Mirrors.correct (a : Architecture) :
    Tracks (RunState.seen φ) (correct R a) (correct r a) := by
  refine .get_bind fun s => .bind (tracks_outside (h.diagnoser _ a _ _)) fun d => ?_
  rw [show (s.seen φ).workflow = s.workflow from rfl]
  cases Plan.validateCorrective d.task s.workflow.queue with
  | rejected reasons => exact .throw _
  | approved _ =>
    exact .bind (tracks_know φ _) fun _ => .bind (tracks_emit φ _) fun _ =>
      .bind (tracks_know φ _) fun _ => .bind (tracks_advance φ _) fun _ => .pure _

theorem Mirrors.cycleOnce (a : Architecture) (batch : List String)
    {again : List String → Step τ Unit} {again' : List String → Step σ Unit}
    (hagain : ∀ ids, Tracks (RunState.seen φ) (again ids) (again' ids)) :
    Tracks (RunState.seen φ) (cycleOnce R a batch again) (cycleOnce r a batch again') := by
  refine .bind (tracks_dispatch h.crew batch) fun _ => .bind (tracks_advance φ _) fun _ =>
    .bind (h.verify a) fun stage => ?_
  by_cases hs : stage = .diagnosing
  · simp only [hs, if_true]
    exact .bind (h.correct a) fun id => hagain [id]
  · simp only [hs, if_false]
    exact .pure _

theorem Mirrors.cycles (a : Architecture) (n : Nat) (batch : List String) :
    Tracks (RunState.seen φ) (cycles R a n batch) (cycles r a n batch) := by
  induction n generalizing batch with
  | zero => exact h.cycleOnce a batch fun _ => .pure _
  | succ n ih => exact h.cycleOnce a batch ih

theorem Mirrors.drive : Tracks (RunState.seen φ) (drive R) (drive r) :=
  .get_bind fun _ => .bind (tracks_outside (h.resolve _)) fun a =>
    .bind (tracks_know φ _) fun _ => .bind (tracks_emit φ _) fun _ =>
      .bind (h.planUntilApproved a _) fun _ => .get_bind fun _ => h.cycles a _ _

/-- Runs that differ in what their world shows agree in everything else. -/
theorem run_seen (runId : String) (s : RunState τ) :
    run r runId (s.seen φ) = ((run R runId s).1, (run R runId s).2.seen φ) := by
  have hd := h.drive (s.emit (.runStarted runId s.workflow.projectRoot s.progress.maxCycles))
  unfold run
  rw [show (s.seen φ).emit (.runStarted runId (s.seen φ).workflow.projectRoot
      (s.seen φ).progress.maxCycles) = (s.emit (.runStarted runId s.workflow.projectRoot
      s.progress.maxCycles)).seen φ from rfl]
  simp only [hd]
  rcases (Run.drive R).run _ with ⟨_ | _, s'⟩ <;> rfl

end

end Run

end BuildLoop
