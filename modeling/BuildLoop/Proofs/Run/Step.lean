import BuildLoop.Run.Loop

/-!
# What holds after a step

A step answers or halts, and leaves a state either way. `After x s ok halt` says what holds then. It is
taken apart along the steps of a run, one equation for each kind of step:

    After (x >>= f) s ok halt    ↔   After x s (fun a s' => After (f a) s' ok halt) halt   (after_bind)
    After (advance g) s ok halt  ↔   ok p.stage (s at p)    if s.progress.next? g = some p (after_advance)
-/

namespace BuildLoop.Run

variable {ε ρ σ α β : Type}

/-- What holds after a computation, by whether it answers or fails. -/
def After (x : ExceptT ε (StateM ρ) α) (s : ρ) (ok : α → ρ → Prop) (halt : ε → ρ → Prop) : Prop :=
  match x.run s with
  | (.ok a, s') => ok a s'
  | (.error e, s') => halt e s'

section
variable {s : ρ} {ok ok' : α → ρ → Prop} {halt halt' : ε → ρ → Prop}

theorem After.mono {x : ExceptT ε (StateM ρ) α} (h : After x s ok halt)
    (hok : ∀ a s', ok a s' → ok' a s') (hhalt : ∀ e s', halt e s' → halt' e s') :
    After x s ok' halt' := by
  unfold After at *
  split at h
  · exact hok _ _ h
  · exact hhalt _ _ h

/-- What holds of every answer and every failure. -/
theorem after_of_forall {x : ExceptT ε (StateM ρ) α} (hok : ∀ a s', ok a s')
    (hhalt : ∀ e s', halt e s') : After x s ok halt := by
  unfold After
  split
  · exact hok _ _
  · exact hhalt _ _

theorem after_bind {x : ExceptT ε (StateM ρ) α} {f : α → ExceptT ε (StateM ρ) β}
    {ok : β → ρ → Prop} :
    After (x >>= f) s ok halt ↔ After x s (fun a s' => After (f a) s' ok halt) halt := by
  have hrun : (x >>= f).run s = ExceptT.bindCont f (x.run s).1 (x.run s).2 := rfl
  unfold After
  rw [hrun]
  rcases x.run s with ⟨_ | _, s'⟩ <;> rfl

theorem After.snd {x : ExceptT ε (StateM ρ) α} {P : ρ → Prop}
    (h : After x s (fun _ => P) fun _ => P) : P (x.run s).2 := by
  unfold After at h
  split at h <;> simp_all

theorem after_of_snd {x : ExceptT ε (StateM ρ) α} {P : ρ → Prop} (h : P (x.run s).2) :
    After x s (fun _ => P) fun _ => P := by
  unfold After
  split <;> simp_all

theorem After.and {x : ExceptT ε (StateM ρ) α} (h : After x s ok halt) (h' : After x s ok' halt') :
    After x s (fun a s' => ok a s' ∧ ok' a s') fun e s' => halt e s' ∧ halt' e s' := by
  unfold After at *
  split at h <;> simp_all

theorem run_bind_ok {x : ExceptT ε (StateM ρ) α} {f : α → ExceptT ε (StateM ρ) β} {a : α} {s' : ρ}
    (h : x.run s = (.ok a, s')) : (x >>= f).run s = (f a).run s' := by
  show ExceptT.bindCont f (x.run s).1 (x.run s).2 = _
  rw [h]
  rfl

theorem run_bind_error {x : ExceptT ε (StateM ρ) α} {f : α → ExceptT ε (StateM ρ) β} {e : ε} {s' : ρ}
    (h : x.run s = (.error e, s')) : (x >>= f).run s = (.error e, s') := by
  show ExceptT.bindCont f (x.run s).1 (x.run s).2 = _
  rw [h]
  rfl

theorem run_tryCatch_ok {x : ExceptT ε (StateM ρ) α} {handler : ε → ExceptT ε (StateM ρ) α} {a : α} {s' : ρ}
    (h : x.run s = (.ok a, s')) : (tryCatch x handler).run s = (.ok a, s') := by
  have h : x s = (.ok a, s') := h
  simp only [tryCatch, tryCatchThe, MonadExceptOf.tryCatch, ExceptT.tryCatch, ExceptT.run, ExceptT.mk, bind,
    StateT.bind, h]
  rfl

theorem run_tryCatch_error {x : ExceptT ε (StateM ρ) α} {handler : ε → ExceptT ε (StateM ρ) α} {e : ε} {s' : ρ}
    (h : x.run s = (.error e, s')) : (tryCatch x handler).run s = (handler e).run s' := by
  have h : x s = (.error e, s') := h
  simp only [tryCatch, tryCatchThe, MonadExceptOf.tryCatch, ExceptT.tryCatch, ExceptT.run, ExceptT.mk, bind,
    StateT.bind, h]

theorem after_pure {a : α} :
    After (pure a : ExceptT ε (StateM ρ) α) s ok halt ↔ ok a s := Iff.rfl

theorem after_result {r : Except ε α} :
    After (ExceptT.mk (pure r) : ExceptT ε (StateM ρ) α) s ok halt ↔
      (∀ a, r = .ok a → ok a s) ∧ ∀ e, r = .error e → halt e s := by
  have hrun : (ExceptT.mk (pure r) : ExceptT ε (StateM ρ) α).run s = (r, s) := rfl
  unfold After
  rw [hrun]
  cases r <;> simp

theorem after_get {ok : ρ → ρ → Prop} :
    After (get : ExceptT ε (StateM ρ) ρ) s ok halt ↔ ok s s := Iff.rfl

end

/-! ## Steps of a run -/

section
variable {s : RunState σ}

theorem run_outside (act : Act σ α) (s : RunState σ) :
    (outside act).run s =
      ((act.run s.outside).1.mapError .failed, { s with outside := (act.run s.outside).2 }) := rfl

theorem run_outside_of_ok {act : Act σ α} {x : α} {o : σ} (h : act.run s.outside = (.ok x, o)) :
    (outside act).run s = (.ok x, { s with outside := o }) := by
  rw [run_outside, h]
  rfl

theorem run_outside_of_error {act : Act σ α} {e : Failure} {o : σ} (h : act.run s.outside = (.error e, o)) :
    (outside act).run s = (.error (.failed e), { s with outside := o }) := by
  rw [run_outside, h]
  rfl

theorem run_know_of_ok {f : WorkflowState → Except Failure WorkflowState} {w : WorkflowState}
    (h : f s.workflow = .ok w) : (know f).run s = (.ok (), { s with workflow := w }) := by
  unfold know
  simp only [ExceptT.run_mk, h]

theorem run_know_of_error {f : WorkflowState → Except Failure WorkflowState} {e : Failure}
    (h : f s.workflow = .error e) : (know f).run s = (.error (.failed e), s) := by
  unfold know
  simp only [ExceptT.run_mk, h]

theorem run_advance_of_ok {g : Signal} {p : Progress} (h : s.progress.fire g = .ok p) :
    (advance g).run s = (.ok p.stage,
      { s with progress := p }.emit (.stageChanged s.progress.stage p.stage g)) := by
  unfold advance
  simp only [ExceptT.run_mk, h]

theorem run_advance_of_error {g : Signal} {e : Failure} (h : s.progress.fire g = .error e) :
    (advance g).run s = (.error (.refused e), s) := by
  unfold advance
  simp only [ExceptT.run_mk, h]

/-- An event and the signal after it. -/
theorem run_emit_advance {e : Event} {g : Signal} {p : Progress} {f : Stage → Step σ α}
    (h : s.progress.fire g = .ok p) :
    (emit e >>= fun _ => advance g >>= f).run s = (f p.stage).run ⟨s.workflow, p,
      s.log.putAll [e, .stageChanged s.progress.stage p.stage g], s.outside⟩ := by
  have hemit : (emit e).run s = (.ok (), s.emit e) := rfl
  rw [run_bind_ok hemit, run_bind_ok (run_advance_of_ok (by exact h))]
  rfl

theorem run_get (s : RunState σ) : (get : Step σ (RunState σ)).run s = (.ok s, s) := rfl

theorem run_dispatch (c : Crew σ) (ids : List String) (s : RunState σ) :
    (dispatch c ids).run s =
      ((Dispatch.runBatch c ids s).1.mapError .failed, (Dispatch.runBatch c ids s).2) := rfl

end

section
variable {s : RunState σ} {ok : α → RunState σ → Prop} {halt : Halt → RunState σ → Prop}

theorem after_emit {e : Event} {ok : Unit → RunState σ → Prop} :
    After (emit e) s ok halt ↔ ok () (s.emit e) := Iff.rfl

theorem after_outside {act : Act σ α} :
    After (outside act) s ok halt ↔
      After act s.outside (fun a o => ok a { s with outside := o })
        fun f o => halt (.failed f) { s with outside := o } := by
  unfold After
  rw [run_outside]
  rcases act.run s.outside with ⟨_ | _, o⟩ <;> rfl

theorem after_know {f : WorkflowState → Except Failure WorkflowState}
    {ok : Unit → RunState σ → Prop} :
    After (know f) s ok halt ↔
      (∀ w, f s.workflow = .ok w → ok () { s with workflow := w }) ∧
      ∀ e, f s.workflow = .error e → halt (.failed e) s := by
  unfold After
  cases h : f s.workflow with
  | ok w =>
    rw [run_know_of_ok h]
    simp
  | error e =>
    rw [run_know_of_error h]
    simp

/-- A signal that the stage accepts is never refused. -/
theorem after_advance {g : Signal} {p : Progress} (h : s.progress.next? g = some p)
    {ok : Stage → RunState σ → Prop} :
    After (advance g) s ok halt ↔
      ok p.stage ({ s with progress := p }.emit (.stageChanged s.progress.stage p.stage g)) := by
  have hfire : s.progress.fire g = .ok p := by rw [Progress.fire, h]
  unfold After
  rw [run_advance_of_ok hfire]

theorem after_dispatch {c : Crew σ} {ids : List String} {ok : BatchSummary → RunState σ → Prop} :
    After (dispatch c ids) s ok halt ↔
      (∀ b, (Dispatch.runBatch c ids s).1 = .ok b → ok b (Dispatch.runBatch c ids s).2) ∧
      ∀ e, (Dispatch.runBatch c ids s).1 = .error e →
        halt (.failed e) (Dispatch.runBatch c ids s).2 := by
  unfold After
  rw [run_dispatch]
  rcases Dispatch.runBatch c ids s with ⟨e | b, s'⟩
  · show halt (.failed e) s' ↔ _
    simp
  · show ok b s' ↔ _
    simp

end

/-! ## Whole runs -/

section
variable {roles : Roles σ} {runId : String} {s s' : RunState σ}

theorem run_of_ok (h : (drive roles).run
      (s.emit (.runStarted runId s.workflow.projectRoot s.progress.maxCycles)) = (.ok (), s')) :
    run roles runId s = finish runId none s' := by
  unfold run
  simp only [h]

theorem run_of_halt {e : Halt} (h : (drive roles).run
      (s.emit (.runStarted runId s.workflow.projectRoot s.progress.maxCycles)) = (.error e, s')) :
    run roles runId s =
      finish runId (some e.failure) { s' with progress := stopped s'.progress } := by
  unfold run
  simp only [h]

/-- What holds of a run, by how what it does between its first event and its last ends. -/
theorem run_of_after {P : RunReport × RunState σ → Prop}
    (h : After (drive roles)
      (s.emit (.runStarted runId s.workflow.projectRoot s.progress.maxCycles))
      (fun _ s' => P (finish runId none s'))
      fun e s' => P (finish runId (some e.failure) { s' with progress := stopped s'.progress })) :
    P (run roles runId s) := by
  unfold After at h
  split at h
  · next hrun =>
    rw [run_of_ok hrun]
    exact h
  · next hrun =>
    rw [run_of_halt hrun]
    exact h

end

end BuildLoop.Run
