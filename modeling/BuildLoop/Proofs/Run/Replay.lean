import BuildLoop.Proofs.Workflow.Growth
import BuildLoop.Run.Dispatch
import BuildLoop.Proofs.Plan.Approval

/-!
# What can be replayed from events

Every change of what a run knows is told by one event, right after the change; only a corrective task
is appended at the change of stage after its event. So a state can be heard from the events so far.
`Fits r e` says when an event may come, and what that is worth follows for every list of events that
fit, each where it comes:

    r.workflow.Sound → Fits r e   →   (r.hear e).workflow.Sound                            (sound_hear)
    Fits r e   →   QueueOnward r.workflow.queue (r.hear e).workflow.queue                (onward_hear)
    the queue = the approved plan ++ the corrective tasks told, as work                  (composed_hear)
-/

namespace BuildLoop.Run

/-- What is heard of a run from its events. -/
structure Replay where
  workflow : WorkflowState
  progress : Progress
  /-- The plan that was made last. -/
  proposed : List Task
  approved : Option (List Task)
  /-- The corrective task that is to be appended with the next change of stage. -/
  corrective : Option Task

namespace Replay

/-- What is known of a run before its events. -/
def start (requirements root : String) (maxCycles : Nat) : Replay :=
  ⟨.new requirements root, .new maxCycles, [], none, none⟩

/-- What is known after one more event. -/
def hear (r : Replay) : Event → Replay
  | .stageChanged _ _ signal =>
    { r with
      workflow := (r.corrective.map r.workflow.append).getD r.workflow
      progress := (r.progress.next? signal).getD r.progress
      corrective := none }
  | .architectureResolved a =>
    { r with workflow := (r.workflow.setArchitecture a).toOption.getD r.workflow }
  | .planReady tasks => { r with proposed := tasks }
  | .planApproved _ =>
    { r with
      workflow := (r.workflow.setQueue r.proposed).toOption.getD r.workflow
      approved := some r.proposed }
  | .taskStarted t =>
    { r with workflow := ((r.workflow.begin t.id).map (·.2)).getD r.workflow }
  | .taskCompleted t _ => { r with workflow := r.workflow.mergeCompleted (.single t.complete) }
  | .taskFailed _ id reason => { r with workflow := r.workflow.markFailed id reason }
  | .verificationPassed v | .verificationFailed v =>
    { r with workflow := r.workflow.recordVerification v.status v.logs }
  | .correctiveTask _ d =>
    { r with workflow := r.workflow.incrementIteration, corrective := some d.task }
  | .runStarted .. | .planRejected _ | .verificationStarted | .runEnded .. => r

/-- What is known after more events. -/
def hearAll (r : Replay) (es : List Event) : Replay := es.foldl hear r

/-- When an event may come, between the first event of a run and the last. -/
def Fits (r : Replay) : Event → Prop
  | .runStarted .. | .runEnded .. => False
  | .stageChanged source target signal =>
    source = r.progress.stage ∧
      (∃ p, r.progress.next? signal = some p ∧ target = p.stage) ∧
      ∀ t, r.corrective = some t → Plan.correctiveReasons t r.workflow.queue = []
  | .architectureResolved _ => r.workflow.architecture = none
  | .planReady _ => r.approved = none
  | .planApproved summary =>
    r.workflow.queue = [] ∧ r.corrective = none ∧ Plan.validate r.proposed = .approved summary
  | .planRejected reasons => Plan.validate r.proposed = .rejected reasons
  | .taskStarted t =>
    ∃ u, r.workflow.task? t.id = some u ∧ u.status = .pending ∧
      Dispatch.isUnblocked r.workflow u = true ∧ t = u.begin
  | .taskCompleted t _ => r.workflow.task? t.id = some t ∧ t.status = .inProgress
  | .taskFailed role id _ =>
    ∃ t, r.workflow.task? id = some t ∧ t.status.isTerminal = false ∧ role = some t.role
  | .verificationStarted => r.progress.stage = .verifying
  | .verificationPassed v => v.isPassed = true
  | .verificationFailed v => v.isPassed = false
  | .correctiveTask cycle d =>
    r.corrective = none ∧ cycle = r.workflow.iterations + 1 ∧
      Plan.correctiveReasons d.task r.workflow.queue = []

/-- Whether events may come one after another. -/
def Admitted : Replay → List Event → Prop
  | _, [] => True
  | r, e :: es => r.Fits e ∧ Admitted (r.hear e) es

/-! ## Lists of events -/

section
variable (r : Replay) (es fs : List Event)

theorem hearAll_append : r.hearAll (es ++ fs) = (r.hearAll es).hearAll fs := List.foldl_append

theorem admitted_append : Admitted r (es ++ fs) ↔ Admitted r es ∧ Admitted (r.hearAll es) fs := by
  induction es generalizing r with
  | nil => simp [Admitted, hearAll]
  | cons e es ih =>
    simp only [List.cons_append, Admitted, ih, and_assoc]
    rfl

end

variable {r : Replay}

/-- What holds at first and is kept by every event that fits holds after all of them. -/
theorem Admitted.keeps {P : List Event → Replay → Prop} {es : List Event} (h : Admitted r es)
    (hnil : P [] r)
    (hstep : ∀ before e q, P before q → q.Fits e → P (before ++ [e]) (q.hear e)) :
    P es (r.hearAll es) := by
  induction es using List.reverseRecOn with
  | nil => exact hnil
  | append_singleton es e ih =>
    obtain ⟨hes, he, -⟩ := (admitted_append r es [e]).1 h
    rw [hearAll_append]
    exact hstep es e _ (ih hes) he

/-! ## Single events -/

theorem hear_setQueue {ts : List Task} (h : r.workflow.queue = []) :
    (r.workflow.setQueue ts).toOption.getD r.workflow = { r.workflow with queue := ts }.bump := by
  simp [WorkflowState.setQueue, h, Except.toOption]

theorem kept_setArchitecture (w : WorkflowState) (a : Architecture) :
    ((w.setArchitecture a).toOption.getD w).queue = w.queue ∧
      ((w.setArchitecture a).toOption.getD w).completed = w.completed := by
  unfold WorkflowState.setArchitecture
  split <;> exact ⟨rfl, rfl⟩

theorem queue_hear_taskStarted {t u : Task} (h : r.workflow.task? t.id = some u) :
    (((r.workflow.begin t.id).map (·.2)).getD r.workflow).queue =
        modifyTask t.id Task.begin r.workflow.queue ∧
      (((r.workflow.begin t.id).map (·.2)).getD r.workflow).completed = r.workflow.completed := by
  simp [WorkflowState.begin, h]

/-- What a corrective task without reasons against it is. -/
theorem of_correctiveReasons {t : Task} {queue : List Task} (h : Plan.correctiveReasons t queue = []) :
    t.status = .pending ∧ t.isCorrective = true ∧ t.id ∉ queue.map (·.id) := by
  simp only [Plan.correctiveReasons, List.append_eq_nil_iff, ite_eq_right_iff, List.cons_ne_nil,
    imp_false, ne_eq, not_not, Bool.not_eq_true, Bool.not_eq_eq_eq_not, Bool.not_true] at h
  obtain ⟨⟨⟨⟨⟨-, hpending⟩, hcorrective⟩, -⟩, hnew⟩, -⟩ := h
  refine ⟨hpending, by simpa using hcorrective, fun hmem => ?_⟩
  obtain ⟨u, hu, hid⟩ := List.mem_map.1 hmem
  rw [List.any_eq_false] at hnew
  exact hnew u hu (by simpa using hid)

/-- An event that fits lets the queue go on. -/
theorem onward_hear {e : Event} (h : r.Fits e) : QueueOnward r.workflow.queue (r.hear e).workflow.queue := by
  have hmodify : ∀ {id : String} {f : Task → Task}, (∀ t, r.workflow.task? id = some t → t.Onward (f t)) →
      QueueOnward r.workflow.queue (modifyTask id f r.workflow.queue) := fun hf =>
    ⟨_, [], (List.append_nil _).symm, onward_modifyTask hf⟩
  cases e with
  | runStarted | planReady | planRejected | verificationStarted | verificationPassed | verificationFailed
  | correctiveTask | runEnded => exact .refl _
  | stageChanged _ _ signal =>
    unfold hear
    cases r.corrective with
    | none => exact .refl _
    | some t => exact .append _ [t]
  | architectureResolved a =>
    show QueueOnward _ ((r.workflow.setArchitecture a).toOption.getD r.workflow).queue
    rw [(kept_setArchitecture r.workflow a).1]
    exact .refl _
  | planApproved summary =>
    obtain ⟨hq, -, -⟩ := h
    rw [hq]
    exact .append [] _
  | taskStarted t =>
    obtain ⟨u, hu, hs, -⟩ := h
    show QueueOnward _ (((r.workflow.begin t.id).map (·.2)).getD r.workflow).queue
    rw [(queue_hear_taskStarted hu).1]
    refine hmodify fun v hv => .moved none ?_
    rw [hu] at hv
    cases hv
    exact hs ▸ .start
  | taskCompleted t report =>
    show QueueOnward _ (r.workflow.mergeCompleted (.single t.complete)).queue
    rw [WorkflowState.queue_mergeCompleted_single]
    refine hmodify fun v hv => .moved none ?_
    rw [Task.id_complete, h.1] at hv
    cases hv
    exact h.2 ▸ .complete
  | taskFailed role id reason =>
    obtain ⟨t, ht, hs, -⟩ := h
    show QueueOnward _ (r.workflow.markFailed id reason).queue
    rw [WorkflowState.queue_markFailed]
    refine hmodify fun v hv => .moved (some reason) ?_
    rw [ht] at hv
    cases hv
    exact .fail_of_open hs

/-- An event that fits keeps a state sound. -/
theorem sound_hear {e : Event} (hw : r.workflow.Sound) (h : r.Fits e) : (r.hear e).workflow.Sound := by
  cases e with
  | runStarted | planReady | planRejected | verificationStarted | verificationPassed | verificationFailed
  | correctiveTask | runEnded => exact hw.congr rfl rfl
  | stageChanged _ _ signal =>
    unfold hear
    cases hc : r.corrective with
    | none => exact hw
    | some t =>
      obtain ⟨hs, -, hid⟩ := of_correctiveReasons (h.2.2 t hc)
      exact hw.append hid hs
  | architectureResolved a =>
    obtain ⟨hq, hc⟩ := kept_setArchitecture r.workflow a
    exact hw.congr hq hc
  | planApproved summary =>
    obtain ⟨hq, -, hv⟩ := h
    obtain ⟨hplan, -⟩ := Plan.validate_eq_approved.1 hv
    refine hw.install hq hplan.distinct (fun t ht => (hplan.sound t ht).pending) ?_ ?_
    · exact (congrArg WorkflowState.queue (hear_setQueue hq) :)
    · exact (congrArg WorkflowState.completed (hear_setQueue hq) :)
  | taskStarted t =>
    obtain ⟨u, hu, hs, -⟩ := h
    obtain ⟨hq, hc⟩ := queue_hear_taskStarted hu
    refine hw.modify Task.id_begin (fun v hv => ?_) hq hc
    rw [hu] at hv
    cases hv
    exact ⟨by rw [hs]; simp, by simp⟩
  | taskCompleted t report =>
    refine hw.complete (t := t.complete) h.1 ?_
    rw [h.2]
    simp
  | taskFailed role id reason =>
    obtain ⟨t, ht, hs, -⟩ := h
    refine hw.modify (Task.id_fail · reason) (fun v hv => ?_) (r.workflow.queue_markFailed id reason)
      (r.workflow.completed_markFailed id reason)
    rw [ht] at hv
    cases hv
    refine ⟨fun hdone => ?_, by simp⟩
    rw [hdone] at hs
    cases hs

/-! ## What the queue is made of -/

/-- The corrective task that an event tells. -/
def correction? : Event → Option Task
  | .correctiveTask _ d => some d.task
  | _ => none

/-- The corrective tasks that some events tell, in order. -/
def corrections (es : List Event) : List Task := es.filterMap correction?

/-- What the queue is made of, after some events. -/
structure Composed (told : List Event) (r : Replay) : Prop where
  /-- The queue and what is to be appended are the approved plan and the corrective tasks told. -/
  work : (r.workflow.queue ++ r.corrective.toList).map Task.work =
    (r.approved.getD [] ++ corrections told).map Task.work
  cycles : r.workflow.iterations = (corrections told).length
  corrective : ∀ t ∈ corrections told, t.isCorrective = true
  valid : ∀ plan, r.approved = some plan → ∃ summary, Plan.validate plan = .approved summary

theorem composed_start (requirements root : String) (maxCycles : Nat) :
    Composed [] (start requirements root maxCycles) where
  work := rfl
  cycles := rfl
  corrective := by simp [corrections]
  valid plan h := by cases h

section
variable {told : List Event} {q : Replay} {e : Event}

/-- What remains composed as it was: no corrective task is told, and the queue and what is to be
appended are together the same work. -/
theorem Composed.same (h : Composed told r) (he : correction? e = none)
    (hw : (q.workflow.queue ++ q.corrective.toList).map Task.work =
      (r.workflow.queue ++ r.corrective.toList).map Task.work)
    (hi : q.workflow.iterations = r.workflow.iterations) (ha : q.approved = r.approved) :
    Composed (told ++ [e]) q := by
  have htold : corrections (told ++ [e]) = corrections told := by simp [corrections, he]
  exact ⟨by rw [htold, hw, ha, h.work], by rw [htold, hi, h.cycles], htold ▸ h.corrective,
    ha ▸ h.valid⟩

/-- An event about a task moves it on in its place. -/
theorem Composed.moved (h : Composed told r) (he : correction? e = none)
    (hq : QueueOnward r.workflow.queue q.workflow.queue)
    (hid : q.workflow.queue.map (·.id) = r.workflow.queue.map (·.id))
    (hi : q.workflow.iterations = r.workflow.iterations) (ha : q.approved = r.approved)
    (hc : q.corrective = r.corrective) : Composed (told ++ [e]) q := by
  have hlen : q.workflow.queue.length = r.workflow.queue.length := by
    simpa using congrArg List.length hid
  refine h.same he ?_ hi ha
  rw [List.map_append, List.map_append, map_work_of_onward (hq.forall₂ hlen), hc]

/-- The plan is approved before any corrective task is told. -/
theorem Composed.planned (h : Composed told r) (hq : r.workflow.queue = []) (hc : r.corrective = none) :
    corrections told = [] := by
  have hlen := congrArg List.length h.work
  rw [hq, hc] at hlen
  simp only [List.map_append, List.length_append, List.length_map, List.length_nil,
    Option.toList_none] at hlen
  exact List.length_eq_zero_iff.1 (by omega)

/-- An event that fits adds to the queue what it tells, and nothing else. -/
theorem composed_hear (h : Composed told r) (he : r.Fits e) : Composed (told ++ [e]) (r.hear e) := by
  have honward := onward_hear he
  cases e with
  | runStarted | planReady | planRejected | verificationStarted | verificationPassed | verificationFailed
  | runEnded => exact h.same rfl rfl rfl rfl
  | stageChanged _ _ signal =>
    unfold hear
    refine h.same rfl ?_ ?_ rfl
    · cases r.corrective with
      | none => rfl
      | some t => simp [WorkflowState.append]
    · cases r.corrective <;> rfl
  | architectureResolved a =>
    obtain ⟨hq, -⟩ := kept_setArchitecture r.workflow a
    refine h.same rfl ?_ ?_ rfl
    · exact congrArg (fun q => (q ++ r.corrective.toList).map Task.work) hq
    · show ((r.workflow.setArchitecture a).toOption.getD r.workflow).iterations = _
      unfold WorkflowState.setArchitecture
      split <;> rfl
  | planApproved summary =>
    obtain ⟨hq, hc, hv⟩ := he
    have hnone := h.planned hq hc
    have htold : corrections (told ++ [.planApproved summary]) = [] := by
      simpa [corrections, correction?] using hnone
    have hcycles := h.cycles
    constructor
    · rw [htold]
      unfold hear
      simp [hear_setQueue hq, hc]
    · rw [htold, ← hnone, ← hcycles]
      exact (congrArg WorkflowState.iterations (hear_setQueue hq) :)
    · simp [htold]
    · intro plan hplan
      cases hplan
      exact ⟨summary, hv⟩
  | taskStarted t =>
    obtain ⟨u, hu, -⟩ := he
    refine h.moved rfl honward ?_ ?_ rfl rfl
    · exact (congrArg _ (queue_hear_taskStarted hu).1).trans (map_id_modifyTask Task.id_begin _)
    · simp [hear, WorkflowState.begin, hu]
  | taskCompleted t report =>
    refine h.moved rfl honward ?_ ?_ rfl rfl
    · exact (congrArg _ (r.workflow.queue_mergeCompleted_single t.complete)).trans
        (map_id_modifyTask Task.id_complete _)
    · simp [hear, WorkflowState.mergeCompleted]
  | taskFailed role id reason =>
    refine h.moved rfl honward ?_ ?_ rfl rfl
    · exact (congrArg _ (r.workflow.queue_markFailed id reason)).trans
        (map_id_modifyTask (Task.id_fail · reason) _)
    · simp [hear, WorkflowState.markFailed]
  | correctiveTask cycle d =>
    obtain ⟨hc, -, hd⟩ := he
    obtain ⟨-, hcorrective, -⟩ := of_correctiveReasons hd
    have htold : corrections (told ++ [.correctiveTask cycle d]) = corrections told ++ [d.task] := by
      simp [corrections, correction?]
    constructor
    · have hwork := h.work
      rw [hc] at hwork
      rw [htold]
      show (r.workflow.queue ++ [d.task]).map Task.work = _
      simp only [Option.toList_none, List.append_nil] at hwork
      simp only [List.map_append, hwork, List.append_assoc]
      rfl
    · rw [htold, List.length_append]
      exact congrArg Nat.succ h.cycles
    · intro t ht
      rw [htold] at ht
      rcases List.mem_append.1 ht with ht | ht
      · exact h.corrective t ht
      · rw [List.mem_singleton.1 ht]
        exact hcorrective
    · exact h.valid

end

/-! ## Admitted events -/

section
variable {es : List Event} (h : Admitted r es)
include h

theorem Admitted.sound (hw : r.workflow.Sound) : (r.hearAll es).workflow.Sound :=
  h.keeps (P := fun _ q => q.workflow.Sound) hw fun _ _ _ hq he => sound_hear hq he

theorem Admitted.composed (hr : Composed [] r) : Composed es (r.hearAll es) :=
  h.keeps (P := Composed) hr fun _ _ _ hq he => composed_hear hq he

/-- Events that fit leave each task in its place as the same work, and one that is over as it is. -/
theorem Admitted.kept {i : Nat} {t : Task} (ht : r.workflow.queue[i]? = some t) :
    ∃ u, (r.hearAll es).workflow.queue[i]? = some u ∧ u.work = t.work ∧
      (t.status.isTerminal = true → u = t) := by
  refine h.keeps (P := fun _ q => ∃ u, q.workflow.queue[i]? = some u ∧ u.work = t.work ∧
    (t.status.isTerminal = true → u = t)) ⟨t, ht, rfl, fun _ => rfl⟩ ?_
  rintro - e q ⟨u, hu, hwork, hover⟩ he
  obtain ⟨v, hv, honward⟩ := (onward_hear he).getElem? hu
  refine ⟨v, hv, honward.work.trans hwork, fun hterm => ?_⟩
  have hsame := hover hterm
  rw [honward.eq_of_terminal (hsame ▸ hterm), hsame]

end

end Replay

end BuildLoop.Run
