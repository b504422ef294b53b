import BuildLoop.Proofs.Workflow.Alike

/-!
# The state of a run under any operations

A state is changed by eight operations. Three of them can be refused: an architecture where there is one, a
queue in place of one of which a task has started, and the start of a task that the queue does not hold. Any
other takes a step, and what a step can do is said once (`Step`). Whatever is done, in whatever order and
with whatever arguments:

    s.after? op = none   ↔   s.Refuses op                                             (after?_eq_none_iff)
    (s.applyAll ops).version = s.version + s.accepted ops                                (version_applyAll)
    Grown s (s.applyAll ops): the architecture stays, completed tasks are appended         (grown_applyAll)
    s.Attended   →   (s.applyAll ops).Attended                                          (Attended.applyAll)

In an attended state the current task is under way, and it is what the queue holds for its id. The ids of
the queue need not be distinct: what is looked up, started and settled is the first task with an id.
-/

namespace BuildLoop

/-! ## Completed tasks -/

/-- Inserting tasks appends some of them. -/
theorem CompletedTasks.prefix_insertAll (s : CompletedTasks) (ts : List Task) :
    s.tasks <+: (s.insertAll ts).1.tasks ∧ s.ids <+: (s.insertAll ts).1.ids := by
  induction ts generalizing s with
  | nil => exact ⟨List.prefix_refl _, List.prefix_refl _⟩
  | cons t ts ih =>
    obtain ⟨htasks, hids⟩ := ih (s.insert t).1
    have hone : s.tasks <+: (s.insert t).1.tasks ∧ s.ids <+: (s.insert t).1.ids := by
      unfold insert
      split
      · exact ⟨List.prefix_refl _, List.prefix_refl _⟩
      · exact ⟨List.prefix_append _ _, List.prefix_append _ _⟩
    exact ⟨hone.1.trans htasks, hone.2.trans hids⟩

namespace WorkflowState

/-! ## Operations -/

/-- What can be done to a state. -/
inductive Operation where
  | setArchitecture (a : Architecture)
  | setQueue (ts : List Task)
  | append (t : Task)
  | begin (id : String)
  | mergeCompleted (delta : CompletedTasks)
  | markFailed (id reason : String)
  | recordVerification (status : TestStatus) (logs : String)
  | incrementIteration

/-- The state after an operation, unless that is refused. -/
def after? (s : WorkflowState) : Operation → Option WorkflowState
  | .setArchitecture a => (s.setArchitecture a).toOption
  | .setQueue ts => (s.setQueue ts).toOption
  | .append t => some (s.append t)
  | .begin id => (s.begin id).map (·.2)
  | .mergeCompleted delta => some (s.mergeCompleted delta)
  | .markFailed id reason => some (s.markFailed id reason)
  | .recordVerification status logs => some (s.recordVerification status logs)
  | .incrementIteration => some s.incrementIteration

/-- The state after an operation, whether that is refused or not. -/
def apply (s : WorkflowState) (op : Operation) : WorkflowState := (s.after? op).getD s

/-- The state after one operation after another. -/
def applyAll (s : WorkflowState) (ops : List Operation) : WorkflowState := ops.foldl apply s

/-- How many operations of a sequence are not refused. -/
def accepted (s : WorkflowState) : List Operation → Nat
  | [] => 0
  | op :: ops => (if (s.after? op).isSome then 1 else 0) + accepted (s.apply op) ops

/-- What a state refuses. -/
inductive Refuses (s : WorkflowState) : Operation → Prop
  | architecture (a : Architecture) : s.architecture ≠ none → Refuses s (.setArchitecture a)
  | queue (ts : List Task) {t : Task} : t ∈ s.queue → t.status ≠ .pending → Refuses s (.setQueue ts)
  | unknown {id : String} : (∀ t ∈ s.queue, t.id ≠ id) → Refuses s (.begin id)

variable {s s' : WorkflowState} {op : Operation} {ops : List Operation}

/-! ## What one operation does -/

/-- What an operation that is not refused makes of a state. -/
inductive Step (s : WorkflowState) : Operation → WorkflowState → Prop
  | setArchitecture (a : Architecture) (h : s.architecture = none) :
      Step s (.setArchitecture a) { s with architecture := some a }.bump
  | setQueue (ts : List Task) (h : ∀ t ∈ s.queue, t.status = .pending) :
      Step s (.setQueue ts) { s with queue := ts }.bump
  | append (t : Task) : Step s (.append t) (s.append t)
  | begin {t : Task} {id : String} (h : s.task? id = some t) : Step s (.begin id)
      { s with queue := modifyTask id Task.begin s.queue, current := some t.begin }.bump
  | mergeCompleted (delta : CompletedTasks) : Step s (.mergeCompleted delta) (s.mergeCompleted delta)
  | markFailed (id reason : String) : Step s (.markFailed id reason) (s.markFailed id reason)
  | recordVerification (status : TestStatus) (logs : String) :
      Step s (.recordVerification status logs) (s.recordVerification status logs)
  | incrementIteration : Step s .incrementIteration s.incrementIteration

/-- An operation is refused, or takes a step. -/
theorem after?_cases (s : WorkflowState) (op : Operation) :
    s.after? op = none ∧ s.Refuses op ∨ ∃ s', s.after? op = some s' ∧ s.Step op s' := by
  cases op with
  | setArchitecture a =>
    cases ha : s.architecture with
    | none => exact .inr ⟨_, by simp [after?, setArchitecture, ha, Except.toOption], .setArchitecture a ha⟩
    | some b =>
      exact .inl ⟨by simp [after?, setArchitecture, ha, Except.toOption], .architecture a (by simp [ha])⟩
  | setQueue ts =>
    cases hany : s.queue.any fun t => t.status != .pending with
    | true =>
      obtain ⟨t, ht, hstatus⟩ := List.any_eq_true.1 hany
      exact .inl ⟨by simp [after?, setQueue, hany, Except.toOption], .queue ts ht (bne_iff_ne.1 hstatus)⟩
    | false =>
      refine .inr ⟨_, by simp [after?, setQueue, hany, Except.toOption], .setQueue ts fun t ht => ?_⟩
      simpa using List.any_eq_false.1 hany t ht
  | begin id =>
    cases ht : s.task? id with
    | none =>
      refine .inl ⟨by simp [after?, WorkflowState.begin, ht], .unknown fun t hmem => ?_⟩
      simpa using List.find?_eq_none.1 ht t hmem
    | some t => exact .inr ⟨_, by simp [after?, WorkflowState.begin, ht], .begin ht⟩
  | append t => exact .inr ⟨_, rfl, .append t⟩
  | mergeCompleted delta => exact .inr ⟨_, rfl, .mergeCompleted delta⟩
  | markFailed id reason => exact .inr ⟨_, rfl, .markFailed id reason⟩
  | recordVerification status logs => exact .inr ⟨_, rfl, .recordVerification status logs⟩
  | incrementIteration => exact .inr ⟨_, rfl, .incrementIteration⟩

theorem Refuses.not_step (h : s.Refuses op) : ¬ s.Step op s' := by
  intro hstep
  cases h with
  | architecture a hset =>
    cases hstep with
    | setArchitecture _ hnone => exact hset hnone
  | queue ts ht hstatus =>
    cases hstep with
    | setQueue _ hpending => exact hstatus (hpending _ ht)
  | unknown hnone =>
    cases hstep with
    | begin ht => exact hnone _ (List.mem_of_find?_eq_some ht) (id_of_task? ht)

/-- Which operations are refused. -/
theorem after?_eq_none_iff : s.after? op = none ↔ s.Refuses op := by
  rcases after?_cases s op with ⟨hnone, hrefuses⟩ | ⟨s', hsome, hstep⟩
  · exact iff_of_true hnone hrefuses
  · exact iff_of_false (by simp [hsome]) fun hrefuses => hrefuses.not_step hstep

theorem apply_of_refuses (h : s.Refuses op) : s.apply op = s := by
  rw [apply, after?_eq_none_iff.2 h, Option.getD_none]

/-- What holds of a state and of what a step makes of it holds after each operation. -/
theorem apply_cases (s : WorkflowState) (op : Operation) : s.apply op = s ∨ s.Step op (s.apply op) := by
  rcases after?_cases s op with ⟨-, hrefuses⟩ | ⟨s', hsome, hstep⟩
  · exact .inl (apply_of_refuses hrefuses)
  · rw [apply, hsome]
    exact .inr hstep

/-! ## The version -/

theorem Step.version (h : s.Step op s') : s'.version = s.version + 1 := by
  cases h with
  | mergeCompleted | markFailed => simp [WorkflowState.mergeCompleted, WorkflowState.markFailed]
  | setArchitecture | setQueue | append | begin | recordVerification | incrementIteration => rfl

theorem version_apply (s : WorkflowState) (op : Operation) :
    (s.apply op).version = s.version + if (s.after? op).isSome then 1 else 0 := by
  rcases after?_cases s op with ⟨hnone, hrefuses⟩ | ⟨s', hsome, hstep⟩
  · rw [apply_of_refuses hrefuses, hnone]
    rfl
  · rw [apply, hsome]
    exact hstep.version

/-- The version counts the operations that were not refused. -/
theorem version_applyAll (s : WorkflowState) (ops : List Operation) :
    (s.applyAll ops).version = s.version + s.accepted ops := by
  induction ops generalizing s with
  | nil => rfl
  | cons op ops ih =>
    have hstep := ih (s.apply op)
    rw [version_apply, Nat.add_assoc] at hstep
    exact hstep

/-! ## What stays -/

/-- Whether a state has at least what another one has settled: its architecture, and its completed tasks
before any others. -/
structure Grown (s s' : WorkflowState) : Prop where
  architecture : ∀ a, s.architecture = some a → s'.architecture = some a
  tasks : s.completed.tasks <+: s'.completed.tasks
  ids : s.completed.ids <+: s'.completed.ids

namespace Grown

theorem of_eq (ha : s'.architecture = s.architecture) (hc : s'.completed = s.completed) : Grown s s' :=
  ⟨fun _ h => ha.trans h, hc ▸ List.prefix_refl _, hc ▸ List.prefix_refl _⟩

theorem trans {s'' : WorkflowState} (h : Grown s s') (h' : Grown s' s'') : Grown s s'' :=
  ⟨fun a ha => h'.architecture a (h.architecture a ha), h.tasks.trans h'.tasks, h.ids.trans h'.ids⟩

end Grown

theorem Step.grown (h : s.Step op s') : Grown s s' := by
  cases h with
  | setArchitecture a hnone =>
    refine ⟨fun b hb => ?_, List.prefix_refl _, List.prefix_refl _⟩
    rw [hnone] at hb
    cases hb
  | mergeCompleted delta =>
    obtain ⟨htasks, hids⟩ := s.completed.prefix_insertAll delta.tasks
    refine ⟨fun a ha => ?_, ?_, ?_⟩
    · simpa [WorkflowState.mergeCompleted] using ha
    · simpa [WorkflowState.mergeCompleted, CompletedTasks.merge] using htasks
    · simpa [WorkflowState.mergeCompleted, CompletedTasks.merge] using hids
  | markFailed id reason => exact .of_eq (architecture_clearCurrent _) (completed_markFailed s id reason)
  | setQueue | append | begin | recordVerification | incrementIteration => exact .of_eq rfl rfl

theorem grown_applyAll (s : WorkflowState) (ops : List Operation) : Grown s (s.applyAll ops) := by
  induction ops generalizing s with
  | nil => exact .of_eq rfl rfl
  | cons op ops ih =>
    have hone : Grown s (s.apply op) := by
      rcases apply_cases s op with hsame | hstep
      · rw [hsame]
        exact .of_eq rfl rfl
      · exact hstep.grown
    exact hone.trans (ih (s.apply op))

/-! ## The current task -/

/-- Whether the current task, if there is one, is under way and is what the queue holds for its id. -/
def Attended (s : WorkflowState) : Prop :=
  ∀ c, s.current = some c → c.status = .inProgress ∧ s.task? c.id = some c

theorem attended_new (requirements root : String) : (new requirements root).Attended := by
  intro c hc
  cases hc

/-- What the queue holds for an id after tasks were completed. -/
theorem find?_completeAll (ts : List Task) (q : List Task) (id : String) :
    (ts.foldl (fun q done => modifyTask done.id Task.complete q) q).find? (·.id == id) =
      (q.find? (·.id == id)).map fun t => if id ∈ ts.map (·.id) then t.complete else t := by
  induction ts generalizing q with
  | nil => simp
  | cons done ts ih =>
    rw [List.foldl_cons, ih, find?_modifyTask Task.id_complete, Option.map_map]
    congr 1
    funext t
    by_cases hid : id = done.id <;> by_cases hmem : id ∈ ts.map (·.id) <;>
      simp_all [Task.complete]

/-- The current task is forgotten when it is over. -/
theorem attended_clearCurrent (h : ∀ c, s.current = some c → c.status = .inProgress ∧
    ∃ t, s.task? c.id = some t ∧ (t.status.isTerminal = true ∨ t = c)) : s.clearCurrent.Attended := by
  intro c hc
  rw [current_clearCurrent, Option.filter_eq_some_iff] at hc
  obtain ⟨hcurrent, hopen⟩ := hc
  obtain ⟨hstatus, t, ht, hover | rfl⟩ := h c hcurrent
  · have ht : s.queue.find? (·.id == c.id) = some t := ht
    simp [isOver, ht, hover] at hopen
  · refine ⟨hstatus, ?_⟩
    unfold task?
    rw [queue_clearCurrent]
    exact ht

/-- Where a task has started, the queue is not replaced. -/
theorem Attended.refuses (h : s.Attended) {c : Task} (hc : s.current = some c) (ts : List Task) :
    s.Refuses (.setQueue ts) := by
  obtain ⟨hstatus, ht⟩ := h c hc
  refine .queue ts (List.mem_of_find?_eq_some ht) ?_
  rw [hstatus]
  decide

theorem Attended.step (h : s.Attended) (hstep : s.Step op s') : s'.Attended := by
  cases hstep with
  | setArchitecture | recordVerification | incrementIteration => exact h
  | setQueue ts hpending =>
    intro c hc
    exact absurd (Step.setQueue ts hpending) (h.refuses hc ts).not_step
  | append t =>
    intro c hc
    obtain ⟨hstatus, ht⟩ := h c hc
    refine ⟨hstatus, ?_⟩
    have ht : s.queue.find? (·.id == c.id) = some c := ht
    show (s.queue ++ [t]).find? (·.id == c.id) = some c
    rw [List.find?_append, ht]
    rfl
  | @begin t id ht =>
    intro c hc
    obtain rfl := Option.some.inj hc
    refine ⟨rfl, ?_⟩
    have hid : t.id = id := id_of_task? ht
    have ht : s.queue.find? (·.id == id) = some t := ht
    show (modifyTask id Task.begin s.queue).find? (·.id == t.id) = some t.begin
    rw [find?_modifyTask Task.id_begin, hid, ht]
    simp
  | mergeCompleted delta =>
    refine attended_clearCurrent fun c hc => ?_
    obtain ⟨hstatus, ht⟩ := h c hc
    refine ⟨hstatus, _, (find?_completeAll delta.tasks s.queue c.id).trans (congrArg _ ht), ?_⟩
    dsimp only
    split
    · exact .inl rfl
    · exact .inr rfl
  | markFailed id reason =>
    refine attended_clearCurrent fun c hc => ?_
    obtain ⟨hstatus, ht⟩ := h c hc
    refine ⟨hstatus, _, (find?_modifyTask (Task.id_fail · reason) s.queue c.id).trans (congrArg _ ht), ?_⟩
    dsimp only
    split
    · exact .inl rfl
    · exact .inr rfl

theorem Attended.applyAll (h : s.Attended) (ops : List Operation) : (s.applyAll ops).Attended := by
  induction ops generalizing s with
  | nil => exact h
  | cons op ops ih =>
    have hone : (s.apply op).Attended := by
      rcases apply_cases s op with hsame | hstep
      · rw [hsame]
        exact h
      · exact h.step hstep
    exact ih hone

/-! ## Any operations -/

/-- Whatever is done to a new state: the version counts what was not refused; what is refused changes
nothing; the architecture stays once it is set, and completed tasks are only added behind the others; the
current task is under way and the first of the queue with its id, so that no other queue can take its
place. -/
theorem applyAll_laws (requirements root : String) (ops : List Operation) :
    let s := (new requirements root).applyAll ops
    s.version = (new requirements root).accepted ops ∧
      (∀ op, (s.after? op = none ↔ s.Refuses op) ∧ (s.Refuses op → s.apply op = s)) ∧
      (∀ later, Grown s (s.applyAll later)) ∧
      ∀ c, s.current = some c →
        c.status = .inProgress ∧ s.task? c.id = some c ∧ ∀ ts, s.Refuses (.setQueue ts) := by
  intro s
  have hattended : s.Attended := (attended_new requirements root).applyAll ops
  refine ⟨?_, fun op => ⟨after?_eq_none_iff, apply_of_refuses⟩, grown_applyAll s, fun c hc => ?_⟩
  · rw [version_applyAll]
    exact Nat.zero_add _
  · obtain ⟨hstatus, ht⟩ := hattended c hc
    exact ⟨hstatus, ht, hattended.refuses hc⟩

/-- A queue in which an id comes twice: its first task is started, fails, and is started again. -/
theorem applyAll_laws_restarted :
    let t := Task.new "task_1" "Create index.html" .frontend
    let u := Task.new "task_1" "Create style.css" .frontend
    let ops : List Operation := [.setQueue [t, u], .begin "task_2", .begin "task_1", .setQueue [],
      .markFailed "task_1" "disk full", .begin "task_1"]
    let s := (new "calc" "/tmp/calc").applyAll ops
    s.version = 4 ∧ s.current = some t.begin ∧ s.queue = [t.begin, u] ∧ s.Refuses (.begin "task_2") ∧
      s.apply (.begin "task_2") = s ∧ s.Refuses (.setQueue [u]) := by
  intro t u ops s
  obtain ⟨hversion, hrefused, -, hcurrent⟩ := applyAll_laws "calc" "/tmp/calc" ops
  have hcount : (new "calc" "/tmp/calc").accepted ops = 4 := by decide
  have hc : s.current = some t.begin := rfl
  have hqueue : s.queue = [t.begin, u] := rfl
  have hunknown : s.Refuses (.begin "task_2") := .unknown (by rw [hqueue]; decide)
  exact ⟨hversion.trans hcount, hc, hqueue, hunknown, (hrefused _).2 hunknown, (hcurrent _ hc).2.2 [u]⟩

end WorkflowState

end BuildLoop
