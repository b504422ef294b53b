import BuildLoop.Proofs.Run.Approved
import BuildLoop.Proofs.Run.Bound
import BuildLoop.Proofs.Run.Replay

/-!
# The history of a run

A run tells, between its first event and its last, events that fit, and what is heard from them is
what the run knows. So what holds of events that fit holds of every state that a run goes through,
whatever its roles do; and a run that comes to a verdict leaves no task of its queue open:

    (run roles id s).1.events = runStarted … :: (told ++ [runEnded …])     with told admitted
    outcome ≠ aborted   →   completed + failed = number of tasks                          (run_history)
-/

namespace BuildLoop.Run

variable {σ α : Type} {roles : Roles σ} {first : Event} {r₀ r : Replay} {s : RunState σ}

/-- Whether a run has told an event, and since then events that fit from which is heard what the run
knows and how far it has come. -/
structure Told (first : Event) (r₀ : Replay) (s : RunState σ) (r : Replay) : Prop where
  log : ∃ told, s.log.entries = first :: told ∧ r₀.Admitted told ∧ r₀.hearAll told = r
  workflow : s.workflow = r.workflow
  progress : s.progress = r.progress

namespace Told

theorem outside (h : Told first r₀ s r) (o : σ) : Told first r₀ { s with outside := o } r :=
  ⟨h.log, h.workflow, h.progress⟩

/-- One more event that fits, after the change that it tells. -/
theorem tell {v : RunState σ} {e : Event} (h : Told first r₀ s r) (he : r.Fits e)
    (hlog : v.log = s.log.put e) (hw : v.workflow = (r.hear e).workflow)
    (hp : v.progress = (r.hear e).progress) : Told first r₀ v (r.hear e) where
  log := by
    obtain ⟨told, hentries, hadmitted, hheard⟩ := h.log
    refine ⟨told ++ [e], ?_, (r₀.admitted_append told [e]).2 ⟨hadmitted, hheard ▸ he, trivial⟩, ?_⟩
    · rw [hlog, Log.entries_put, hentries, List.cons_append]
    · rw [r₀.hearAll_append, hheard]
      rfl
  workflow := hw
  progress := hp

/-- An event that tells no change. -/
theorem emit {e : Event} (h : Told first r₀ s r) (he : r.Fits e) (hw : (r.hear e).workflow = r.workflow)
    (hp : (r.hear e).progress = r.progress) : Told first r₀ (s.emit e) (r.hear e) :=
  h.tell he rfl (h.workflow.trans hw.symm) (h.progress.trans hp.symm)

/-- A signal that the stage accepts, with no corrective task waiting. -/
theorem advance {q : Progress} {g : Signal} {ok : Stage → RunState σ → Prop}
    {halt : Halt → RunState σ → Prop} (h : Told first r₀ s r) (hc : r.corrective = none)
    (hg : r.progress.next? g = some q)
    (hok : ∀ s', Told first r₀ s' { r with progress := q } → ok q.stage s') :
    After (Run.advance g) s ok halt := by
  have hnext : s.progress.next? g = some q := h.progress ▸ hg
  have hheard : r.hear (.stageChanged s.progress.stage q.stage g) = { r with progress := q } := by
    simp only [Replay.hear, hc, hg, Option.map_none, Option.getD_none, Option.getD_some]
  refine (after_advance hnext).2 (hok _ (hheard ▸ h.tell ?_ rfl ?_ ?_))
  · exact ⟨by rw [h.progress], ⟨q, hg, rfl⟩, fun t ht => by rw [hc] at ht; cases ht⟩
  · rw [hheard]
    exact h.workflow
  · rw [hheard]
    rfl

/-- The signal after a corrective task, which is appended first. -/
theorem advance_append {q : Progress} {g : Signal} {t : Task} {ok : Stage → RunState σ → Prop}
    {halt : Halt → RunState σ → Prop} (h : Told first r₀ s r) (hc : r.corrective = some t)
    (ht : Plan.correctiveReasons t r.workflow.queue = []) (hg : r.progress.next? g = some q)
    (hok : ∀ s', Told first r₀ s'
      { r with workflow := r.workflow.append t, progress := q, corrective := none } → ok q.stage s') :
    After (Run.advance g) { s with workflow := s.workflow.append t } ok halt := by
  have hnext : s.progress.next? g = some q := h.progress ▸ hg
  have hheard : r.hear (.stageChanged s.progress.stage q.stage g) =
      { r with workflow := r.workflow.append t, progress := q, corrective := none } := by
    simp only [Replay.hear, hc, hg, Option.map_some, Option.getD_some]
  refine (after_advance (by exact hnext)).2 (hok _ (hheard ▸ h.tell ?_ rfl ?_ ?_))
  · refine ⟨by rw [h.progress], ⟨q, hg, rfl⟩, fun u hu => ?_⟩
    rw [hc] at hu
    cases hu
    exact ht
  · rw [hheard]
    exact congrArg (·.append t) h.workflow
  · rw [hheard]
    rfl

/-! ## Batches -/

/-- A move that is allowed tells at most one event, and one that fits. -/
theorem play {c : Crew σ} {m : Dispatch.Move} (h : Told first r₀ s r) (hm : m.Allowed s) :
    ∃ w, Told first r₀ (m.play c s) { r with workflow := w } := by
  cases m with
  | start id =>
    obtain ⟨t, ht, hs, hd⟩ := hm
    obtain rfl : t.id = id := WorkflowState.id_of_task? ht
    obtain ⟨w, hw, hb⟩ := Dispatch.begin_some ht
    have hheard : r.hear (.taskStarted t.begin) = { r with workflow := w } := by
      simp only [Replay.hear, Task.id_begin, ← h.workflow, hw, Option.map_some, Option.getD_some]
    refine ⟨w, ?_⟩
    rw [← hheard]
    simp only [Dispatch.Move.play, hb, Option.map_some, Option.getD_some]
    refine h.tell ⟨t, ?_, hs, ?_, rfl⟩ rfl ?_ ?_
    · exact h.workflow ▸ ht
    · exact h.workflow ▸ hd
    · rw [hheard]
      rfl
    · rw [hheard]
      exact h.progress
  | work t => exact ⟨r.workflow, h.outside _⟩
  | complete t report =>
    refine ⟨r.workflow.mergeCompleted (.single t.complete), ?_⟩
    refine h.tell (e := .taskCompleted t report) ⟨h.workflow ▸ hm.1, hm.2⟩ rfl ?_ h.progress
    exact congrArg (·.mergeCompleted (.single t.complete)) h.workflow
  | fail id reason =>
    obtain ⟨t, ht, hs⟩ := WorkflowState.isOpen_iff.1 hm
    have hrole : ((s.workflow.markFailed id reason).task? id).map (·.role) = some t.role := by
      rw [WorkflowState.task?_markFailed, ht]
      simp [Task.fail]
    refine ⟨r.workflow.markFailed id reason, ?_⟩
    refine h.tell (e := .taskFailed (((s.workflow.markFailed id reason).task? id).map (·.role)) id reason)
      ⟨t, h.workflow ▸ ht, hs, hrole⟩ rfl ?_ h.progress
    exact congrArg (·.markFailed id reason) h.workflow

theorem playAll {c : Crew σ} {ms : List Dispatch.Move} (h : Told first r₀ s r)
    (hm : Dispatch.Legal c s ms) :
    ∃ w, Told first r₀ (Dispatch.playAll c s ms) { r with workflow := w } := by
  induction ms generalizing s r with
  | nil => exact ⟨r.workflow, h⟩
  | cons m rest ih =>
    obtain ⟨w, hw⟩ := h.play hm.1
    obtain ⟨w', hw'⟩ := ih hw hm.2
    exact ⟨w', hw'⟩

end Told

/-- A batch that holds all that is open leaves nothing open. -/
theorem after_dispatch_told (h : Told first r₀ s r) {batch : List String} (hn : batch.Nodup)
    (hopen : ∀ id, r.workflow.isOpen id = true → id ∈ Dispatch.pendingOf r.workflow batch) :
    After (dispatch roles.crew batch) s
      (fun _ s' => ∃ w, Told first r₀ s' { r with workflow := w } ∧ ∀ id, w.isOpen id = false)
      fun _ s' => ∃ w, Told first r₀ s' { r with workflow := w } := by
  obtain ⟨ms, hrun, hlegal, -, -, hok⟩ := Dispatch.leads_runBatch roles.crew hn s
  obtain ⟨w, hw⟩ := h.playAll hlegal
  refine after_dispatch.2 ⟨fun summary hsummary => ?_, fun _ _ => ⟨w, hrun ▸ hw⟩⟩
  obtain ⟨-, -, hclosed⟩ := hok summary hsummary
  refine ⟨w, hrun ▸ hw, fun id => ?_⟩
  rw [hw.workflow] at hclosed
  by_cases hid : id ∈ Dispatch.pendingOf s.workflow batch
  · exact hclosed id hid
  · have hclose : s.workflow.isOpen id = false := by
      rw [h.workflow] at hid ⊢
      exact Bool.eq_false_iff.2 fun ho => hid (hopen id ho)
    have hkept := Dispatch.isOpen_playAll_of_not (c := roles.crew) hlegal hclose
    rw [hw.workflow] at hkept
    exact hkept

/-! ## Where a run stands -/

/-- A run of `m` cycles that has no approved plan yet. -/
structure Unplanned (m : Nat) (r : Replay) : Prop where
  stage : r.progress.stage = .planning
  cycles : r.progress.cycles = 0
  maxCycles : r.progress.maxCycles = m
  queue : r.workflow.queue = []
  approved : r.approved = none
  corrective : r.corrective = none

/-- A run that is about to work on a batch, with `k` cycles left after this one. -/
structure Dispatching (k : Nat) (batch : List String) (r : Replay) : Prop where
  stage : r.progress.stage = .dispatching
  cycles : r.progress.cycles + k = r.progress.maxCycles
  approved : r.approved.isSome = true
  corrective : r.corrective = none
  nodup : batch.Nodup
  /-- Whatever is open is pending, and in the batch. -/
  waiting : ∀ id, r.workflow.isOpen id = true → id ∈ Dispatch.pendingOf r.workflow batch

/-- A run that has come to a verdict. -/
structure Settled (r : Replay) : Prop where
  approved : r.approved.isSome = true
  corrective : r.corrective = none
  closed : ∀ id, r.workflow.isOpen id = false

/-- A run that stopped before it came to a verdict. -/
structure Interrupted (r : Replay) : Prop where
  stage : Outcome.ofStage r.progress.stage = .aborted
  corrective : r.corrective = none

/-! ## Planning -/

theorem dispatching_of_approved {ts : List Task} {summary : PlanSummary} (h : Told first r₀ s r)
    (hv : Plan.validate ts = .approved summary) (hq : r.workflow.queue = ts)
    (hs : r.progress.stage = .dispatching) (hc : r.progress.cycles = 0) (ha : r.approved.isSome = true)
    (hn : r.corrective = none) : Dispatching r.progress.maxCycles r.workflow.pendingIds r := by
  obtain ⟨hts, -⟩ := Plan.validate_eq_approved.1 hv
  rw [← h.workflow] at hq
  have hids := Dispatch.pendingIds_eq hts hq
  have hpending := Dispatch.pendingOf_pendingIds hts hq
  rw [h.workflow] at hq hids hpending
  refine ⟨hs, by omega, ha, hn, hids ▸ hts.distinct, fun id hid => ?_⟩
  obtain ⟨t, ht, -⟩ := WorkflowState.isOpen_iff.1 hid
  obtain rfl : t.id = id := WorkflowState.id_of_task? ht
  rw [hpending]
  exact List.mem_map_of_mem (hq ▸ List.mem_of_find?_eq_some ht)

/-- A plan is approved, is made again, or ends the run. -/
theorem after_planOnce_told {m : Nat} {a : Architecture} {again : List String → Step σ Unit}
    {ok : Unit → RunState σ → Prop} {halt : Halt → RunState σ → Prop} (h : Told first r₀ s r)
    (hr : Unplanned m r)
    (happroved : ∀ s' r', Told first r₀ s' r' → Dispatching m r'.workflow.pendingIds r' → ok () s')
    (hrejected : ∀ reasons s' r', Told first r₀ s' r' → Unplanned m r' →
      After (again reasons) s' ok halt)
    (hhalted : ∀ e s' r', Told first r₀ s' r' → Interrupted r' → halt e s') :
    After (planOnce roles a again) s ok halt := by
  have hready : r.progress.next? .queueReady = some (r.progress.at_ .validating) := by
    simp [Progress.next?, hr.stage]
  have hvalid : (r.progress.at_ .validating).next? .planApproved =
      some ((r.progress.at_ .validating).at_ .dispatching) := rfl
  refine after_bind.2 (after_outside.2 ?_)
  refine after_of_forall (fun tasks o => ?_) fun f o =>
    hhalted _ _ r (h.outside o) ⟨by rw [hr.stage]; rfl, hr.corrective⟩
  have h₁ := (h.outside o).emit (e := .planReady tasks) hr.approved rfl rfl
  refine after_bind.2 (after_emit.2 (after_bind.2 (h₁.advance hr.corrective hready fun s₂ h₂ => ?_)))
  cases hv : Plan.validate tasks with
  | approved summary =>
    refine after_bind.2 (after_know.2 ⟨fun w hw => ?_, fun f _ => ?_⟩)
    · rw [h₂.workflow] at hw
      have hheard : (r.workflow.setQueue tasks).toOption.getD r.workflow = w := by
        rw [show r.workflow.setQueue tasks = .ok w from hw]
        rfl
      have hqueue : ((r.workflow.setQueue tasks).toOption.getD r.workflow).queue = tasks :=
        hheard ▸ (WorkflowState.setQueue_eq_ok hw).1
      have h₃ := h₂.tell (v := { s₂ with workflow := w }.emit (.planApproved summary))
        (e := .planApproved summary) ⟨hr.queue, hr.corrective, hv⟩ rfl hheard.symm h₂.progress
      refine after_bind.2 (after_emit.2 (after_bind.2 (h₃.advance hr.corrective hvalid fun s₄ h₄ =>
        after_pure.2 (happroved s₄ _ h₄ ?_))))
      exact hr.maxCycles ▸ dispatching_of_approved h₄ hv hqueue rfl hr.cycles rfl hr.corrective
    · exact hhalted _ _ _ h₂ ⟨rfl, hr.corrective⟩
  | rejected reasons =>
    have h₃ := h₂.emit (e := .planRejected reasons) hv rfl rfl
    refine after_bind.2 (after_emit.2 ?_)
    by_cases hlt : r.progress.replans < r.progress.maxReplans
    · have hnext : (r.progress.at_ .validating).next? .planRejected =
          some { r.progress with stage := .planning, replans := r.progress.replans + 1 } := by
        simp [Progress.next?, Progress.at_, hlt]
      refine after_bind.2 (h₃.advance hr.corrective hnext fun s₄ h₄ => ?_)
      exact hrejected reasons s₄ _ h₄ ⟨rfl, hr.cycles, hr.maxCycles, hr.queue, hr.approved, hr.corrective⟩
    · have hnext : (r.progress.at_ .validating).next? .planRejected =
          some ((r.progress.at_ .validating).at_ .aborted) := by
        simp [Progress.next?, Progress.at_, hlt]
      refine after_bind.2 (h₃.advance hr.corrective hnext fun s₄ h₄ => ?_)
      exact hhalted _ s₄ _ h₄ ⟨rfl, hr.corrective⟩

theorem after_planUntilApproved_told {m : Nat} {a : Architecture} (h : Told first r₀ s r)
    (hr : Unplanned m r) (n : Nat) :
    After (planUntilApproved roles a n) s
      (fun _ s' => ∃ r', Told first r₀ s' r' ∧ Dispatching m r'.workflow.pendingIds r')
      fun _ s' => ∃ r', Told first r₀ s' r' ∧ Interrupted r' := by
  induction n generalizing s r with
  | zero =>
    refine after_planOnce_told h hr (fun s' r' h' hd => ⟨r', h', hd⟩) (fun reasons s' r' h' hu => ?_)
      fun e s' r' h' hi => ⟨r', h', hi⟩
    exact ⟨r', h', by rw [hu.stage]; rfl, hu.corrective⟩
  | succ n ih =>
    exact after_planOnce_told h hr (fun s' r' h' hd => ⟨r', h', hd⟩) (fun reasons s' r' h' hu => ih h' hu)
      fun e s' r' h' hi => ⟨r', h', hi⟩

/-! ## Cycles -/

/-- A verification is told with its report. -/
theorem after_verify_told {a : Architecture} (h : Told first r₀ s r) (hs : r.progress.stage = .verifying)
    (hc : r.corrective = none) :
    After (verify roles a) s
      (fun stage s' => ∃ w, Told first r₀ s' { r with workflow := w, progress := r.progress.at_ stage } ∧
        (∀ id, w.task? id = r.workflow.task? id) ∧
        (stage = .diagnosing → r.progress.cycles < r.progress.maxCycles))
      fun _ s' => Told first r₀ s' r := by
  have h₁ := h.emit (e := .verificationStarted) hs rfl rfl
  refine after_bind.2 (after_emit.2 (after_bind.2 (after_outside.2 (after_of_forall (fun v o => ?_)
    fun f o => h₁.outside o))))
  refine after_bind.2 (after_know.2 ⟨fun w hw => ?_, fun f hf => (by cases hf)⟩)
  cases hw
  have hw : s.workflow.recordVerification v.status v.logs =
      r.workflow.recordVerification v.status v.logs := congrArg (·.recordVerification v.status v.logs) h.workflow
  by_cases hv : v.isPassed = true
  · simp only [hv, if_true]
    have hnext : r.progress.next? .verificationPassed = some (r.progress.at_ .done) := by
      simp [Progress.next?, hs]
    have h₂ := (h₁.outside o).tell (v := { s.emit .verificationStarted with
      outside := o, workflow := s.workflow.recordVerification v.status v.logs }.emit (.verificationPassed v))
      (e := .verificationPassed v) hv rfl hw h₁.progress
    refine after_bind.2 (after_emit.2 (h₂.advance hc hnext fun s₃ h₃ => ⟨_, h₃, fun _ => rfl, ?_⟩))
    exact fun hstage => (by cases hstage)
  · have hv : v.isPassed = false := by simpa using hv
    simp only [hv]
    have hnext : r.progress.next? .verificationFailed =
        some (r.progress.at_ (if r.progress.cycles < r.progress.maxCycles then .diagnosing
          else .doneWithFailure)) := by
      simp [Progress.next?, hs]
    have h₂ := (h₁.outside o).tell (v := { s.emit .verificationStarted with
      outside := o, workflow := s.workflow.recordVerification v.status v.logs }.emit (.verificationFailed v))
      (e := .verificationFailed v) hv rfl hw h₁.progress
    refine after_bind.2 (after_emit.2 (h₂.advance hc hnext fun s₃ h₃ => ⟨_, h₃, fun _ => rfl, ?_⟩))
    intro hstage
    by_contra hlt
    rw [if_neg hlt] at hstage
    cases hstage

theorem correctiveReasons_of_approved {t : Task} {queue : List Task} {summary : PlanSummary}
    (h : Plan.validateCorrective t queue = .approved summary) : Plan.correctiveReasons t queue = [] := by
  unfold Plan.validateCorrective Plan.verdict at h
  split at h
  · next he => exact List.isEmpty_iff.1 he
  · cases h

/-- With everything else closed, a new task at the end of the queue is all that is open. -/
theorem waiting_append {w : WorkflowState} {t : Task} (hclosed : ∀ id, w.isOpen id = false)
    (ht : t.status = .pending) (hnew : t.id ∉ w.queue.map (·.id)) {id : String}
    (hid : (w.append t).isOpen id = true) : id ∈ Dispatch.pendingOf (w.append t) [t.id] := by
  have happend : ∀ id', (w.append t).task? id' = (w.task? id').or ([t].find? (·.id == id')) := fun id' =>
    List.find?_append
  have hnone : w.task? t.id = none := by
    refine List.find?_eq_none.2 fun u hu he => hnew ?_
    rw [← eq_of_beq he]
    exact List.mem_map_of_mem hu
  obtain ⟨u, hu, hopen⟩ := WorkflowState.isOpen_iff.1 hid
  rw [happend] at hu
  cases hw : w.task? id with
  | some v =>
    have hclose := hclosed id
    rw [WorkflowState.isOpen, hw] at hclose
    rw [hw] at hu
    cases hu
    simp [hopen] at hclose
  | none =>
    rw [hw, Option.none_or] at hu
    obtain rfl := List.mem_singleton.1 (List.mem_of_find?_eq_some hu)
    obtain rfl : u.id = id := by simpa using List.find?_some hu
    refine List.mem_filter.2 ⟨List.mem_singleton_self _, ?_⟩
    rw [WorkflowState.isPending, happend, hnone]
    simp [ht]

/-- A corrective task is told, and appended as the next batch. -/
theorem after_correct_told {a : Architecture} {k : Nat} (h : Told first r₀ s r)
    (hs : r.progress.stage = .diagnosing) (hk : r.progress.cycles + (k + 1) = r.progress.maxCycles)
    (hr : Settled r) :
    After (correct roles a) s (fun id s' => ∃ r', Told first r₀ s' r' ∧ Dispatching k [id] r')
      fun _ s' => ∃ r', Told first r₀ s' r' ∧ Interrupted r' := by
  have hhalted : ∀ o, ∃ r', Told first r₀ { s with outside := o } r' ∧ Interrupted r' := fun o =>
    ⟨r, h.outside o, by rw [hs]; rfl, hr.corrective⟩
  refine after_bind.2 (after_get.2 (after_bind.2 (after_outside.2 (after_of_forall (fun d o => ?_)
    fun f o => hhalted o))))
  cases hv : Plan.validateCorrective d.task s.workflow.queue with
  | rejected reasons => exact hhalted o
  | approved summary =>
    have hreasons := correctiveReasons_of_approved hv
    rw [h.workflow] at hreasons
    obtain ⟨hpending, -, hnew⟩ := Replay.of_correctiveReasons hreasons
    refine after_bind.2 (after_know.2 ⟨fun w hw => ?_, fun f hf => (by cases hf)⟩)
    cases hw
    have h₁ := (h.outside o).tell
      (v := { s with outside := o, workflow := s.workflow.incrementIteration }.emit
        (.correctiveTask (s.workflow.iterations + 1) d))
      (e := .correctiveTask (s.workflow.iterations + 1) d)
      ⟨hr.corrective, by rw [h.workflow], hreasons⟩ rfl
      (congrArg WorkflowState.incrementIteration h.workflow) h.progress
    refine after_bind.2 (after_emit.2 (after_bind.2 (after_know.2 ⟨fun w hw => ?_, fun f hf =>
      (by cases hf)⟩)))
    cases hw
    have hnext : r.progress.next? .correctiveReady =
        some { r.progress with stage := .dispatching, cycles := r.progress.cycles + 1 } := by
      simp [Progress.next?, hs]
    refine after_bind.2 (h₁.advance_append rfl hreasons hnext fun s₂ h₂ => after_pure.2 ⟨_, h₂, ?_⟩)
    refine ⟨rfl, by simp only; omega, hr.approved, rfl, List.nodup_singleton _, fun id hid => ?_⟩
    exact waiting_append (w := r.workflow.incrementIteration) hr.closed hpending hnew hid

/-- A cycle comes to a verdict, stops, or is followed by another with the corrective task. -/
theorem after_cycleOnce_told {a : Architecture} {k : Nat} {batch : List String}
    {again : List String → Step σ Unit} (h : Told first r₀ s r) (hr : Dispatching k batch r)
    (hagain : ∀ j id s' r', k = j + 1 → Told first r₀ s' r' → Dispatching j [id] r' →
      After (again [id]) s' (fun _ s' => ∃ r', Told first r₀ s' r' ∧ Settled r')
        fun _ s' => ∃ r', Told first r₀ s' r' ∧ Interrupted r') :
    After (cycleOnce roles a batch again) s (fun _ s' => ∃ r', Told first r₀ s' r' ∧ Settled r')
      fun _ s' => ∃ r', Told first r₀ s' r' ∧ Interrupted r' := by
  have hsettled : r.progress.next? .batchSettled = some (r.progress.at_ .verifying) := by
    simp [Progress.next?, hr.stage]
  refine after_bind.2 ((after_dispatch_told h hr.nodup hr.waiting).mono ?_ ?_)
  · rintro - s₁ ⟨w, h₁, hclosed⟩
    refine after_bind.2 (h₁.advance hr.corrective hsettled fun s₂ h₂ => after_bind.2 ?_)
    refine (after_verify_told h₂ rfl hr.corrective).mono ?_ ?_
    · rintro stage s₃ ⟨w', h₃, hsame, hlt⟩
      have hclosed' : ∀ id, w'.isOpen id = false := fun id => by
        rw [WorkflowState.isOpen, hsame]
        exact hclosed id
      by_cases hstage : stage = .diagnosing
      · have hcycles := hlt hstage
        have hk := hr.cycles
        simp only [Progress.at_] at hcycles
        obtain ⟨j, rfl⟩ : ∃ j, k = j + 1 := ⟨k - 1, by omega⟩
        rw [if_pos hstage]
        refine after_bind.2 ((after_correct_told h₃ hstage hk ⟨hr.approved, hr.corrective, hclosed'⟩).mono
          ?_ fun _ _ => id)
        rintro id s₄ ⟨r', h₄, hd⟩
        exact hagain j id s₄ r' rfl h₄ hd
      · rw [if_neg hstage]
        exact ⟨_, h₃, hr.approved, hr.corrective, hclosed'⟩
    · exact fun _ s₃ h₃ => ⟨_, h₃, rfl, hr.corrective⟩
  · rintro e s₁ ⟨w, h₁⟩
    exact ⟨_, h₁, by rw [hr.stage]; rfl, hr.corrective⟩

theorem after_cycles_told {a : Architecture} {k : Nat} {batch : List String} (h : Told first r₀ s r)
    (hr : Dispatching k batch r) :
    After (cycles roles a k batch) s (fun _ s' => ∃ r', Told first r₀ s' r' ∧ Settled r')
      fun _ s' => ∃ r', Told first r₀ s' r' ∧ Interrupted r' := by
  induction k generalizing s r batch with
  | zero => exact after_cycleOnce_told h hr fun j id s' r' hj => absurd hj (by omega)
  | succ k ih =>
    refine after_cycleOnce_told h hr fun j id s' r' hj h' hd => ih h' ?_
    obtain rfl : k = j := by omega
    exact hd

/-! ## Runs -/

variable (roles) in
theorem after_drive_told {m : Nat} (h : Told first r₀ s r) (hr : Unplanned m r)
    (ha : r.workflow.architecture = none) :
    After (drive roles) s (fun _ s' => ∃ r', Told first r₀ s' r' ∧ Settled r')
      fun _ s' => ∃ r', Told first r₀ s' r' ∧ Interrupted r' := by
  have hstage : Outcome.ofStage r.progress.stage = .aborted := by rw [hr.stage]; rfl
  refine after_bind.2 (after_get.2 (after_bind.2 (after_outside.2 (after_of_forall (fun a o => ?_)
    fun f o => ⟨r, h.outside o, hstage, hr.corrective⟩))))
  refine after_bind.2 (after_know.2 ⟨fun w hw => ?_, fun f _ => ⟨r, h.outside o, hstage, hr.corrective⟩⟩)
  have hw : r.workflow.setArchitecture a = .ok w := h.workflow ▸ hw
  have hqueue := (Replay.kept_setArchitecture r.workflow a).1
  have hheard : (r.workflow.setArchitecture a).toOption.getD r.workflow = w := by
    rw [hw]
    rfl
  have h₁ := (h.outside o).tell (v := { s with outside := o, workflow := w }.emit (.architectureResolved a))
    (e := .architectureResolved a) ha rfl hheard.symm h.progress
  rw [hr.queue] at hqueue
  have hr₁ : Unplanned m (r.hear (.architectureResolved a)) :=
    ⟨hr.stage, hr.cycles, hr.maxCycles, hqueue, hr.approved, hr.corrective⟩
  refine after_bind.2 (after_emit.2 (after_bind.2 ((after_planUntilApproved_told h₁ hr₁ _).mono ?_
    fun _ _ => id)))
  rintro - s₂ ⟨r₂, h₂, hd⟩
  have hcycles : s.progress.maxCycles - s.progress.cycles = m := by
    rw [h.progress, hr.cycles, hr.maxCycles]
    rfl
  rw [hcycles]
  exact after_bind.2 (after_get.2 (after_cycles_told h₂ (h₂.workflow ▸ hd)))

/-- What the events of a run, between the first and the last, and its report say of its tasks. The
states of the run are what is heard from the events so far. -/
structure Recounted (r₀ : Replay) (told : List Event) (report : RunReport) : Prop where
  /-- In every state the ids are distinct, and the completed tasks are those that the queue says are
  completed. -/
  sound : ∀ before after, told = before ++ after → (r₀.hearAll before).workflow.Sound
  /-- From one state to the next the queue grows at its end at most, and each of its tasks stays as it is
  or takes one step. -/
  onward : ∀ before e after, told = before ++ e :: after →
    QueueOnward (r₀.hearAll before).workflow.queue (r₀.hearAll (before ++ [e])).workflow.queue
  /-- Every later state holds each task in its place, as the same work, and as it was if it was over. -/
  kept : ∀ before between after, told = before ++ between ++ after →
    ∀ (i : Nat) t, (r₀.hearAll before).workflow.queue[i]? = some t →
      ∃ u, (r₀.hearAll (before ++ between)).workflow.queue[i]? = some u ∧ u.work = t.work ∧
        (t.status.isTerminal = true → u = t)
  /-- The tasks are the approved plan, if there is one, and one corrective task for each cycle. -/
  composed : report.tasks.map Task.work =
    ((r₀.hearAll told).approved.getD [] ++ Replay.corrections told).map Task.work
  valid : ∀ plan, (r₀.hearAll told).approved = some plan → ∃ summary, Plan.validate plan = .approved summary
  corrective : ∀ t ∈ Replay.corrections told, t.isCorrective = true
  cycles : (Replay.corrections told).length = report.cycles
  /-- A run that comes to a verdict has an approved plan, -/
  planned : report.outcome ≠ .aborted → (r₀.hearAll told).approved.isSome = true
  /-- and has completed or failed every task. -/
  counted : report.outcome ≠ .aborted → report.completed + report.failed = report.tasks.length

theorem recounted_finish {told : List Event} {runId : String} {failure : Option Failure} {s' : RunState σ}
    (hadmitted : r₀.Admitted told) (hw : s'.workflow = (r₀.hearAll told).workflow)
    (hc : (r₀.hearAll told).corrective = none) (hsound : r₀.workflow.Sound)
    (hcomposed : Replay.Composed [] r₀)
    (hverdict : (finish runId failure s').1.outcome ≠ .aborted → Settled (r₀.hearAll told)) :
    Recounted r₀ told (finish runId failure s').1 := by
  have hall := hadmitted.composed hcomposed
  have hsplit : ∀ {before after}, told = before ++ after →
      r₀.Admitted before ∧ (r₀.hearAll before).Admitted after := fun h =>
    (r₀.admitted_append _ _).1 (h ▸ hadmitted)
  have htasks : (finish runId failure s').1.tasks = (r₀.hearAll told).workflow.queue :=
    congrArg WorkflowState.queue hw
  constructor
  case sound => exact fun before after h => (hsplit h).1.sound hsound
  case onward =>
    intro before e after h
    rw [r₀.hearAll_append]
    exact Replay.onward_hear (hsplit h).2.1
  case kept =>
    intro before between after h i t ht
    rw [List.append_assoc] at h
    rw [r₀.hearAll_append]
    exact (((r₀.hearAll before).admitted_append between after).1 (hsplit h).2).1.kept ht
  case composed =>
    have hwork := hall.work
    rw [hc, Option.toList_none, List.append_nil] at hwork
    rw [htasks]
    exact hwork
  case valid => exact hall.valid
  case corrective => exact hall.corrective
  case cycles => exact hall.cycles.symm.trans (congrArg WorkflowState.iterations hw.symm)
  case planned => exact fun h => (hverdict h).approved
  case counted =>
    intro h
    have hs := hadmitted.sound hsound
    have hover : ∀ t ∈ (r₀.hearAll told).workflow.queue, t.status.isTerminal = true := by
      intro t ht
      have hclosed := (hverdict h).closed t.id
      rw [WorkflowState.isOpen, WorkflowState.task?_of_mem hs.distinct ht] at hclosed
      simpa using hclosed
    have hcount := hs.size_add_failed hover
    rw [← hw] at hcount
    exact hcount

/-- What is told by a run that has told fitting events and then ends. -/
theorem exists_told_finish {runId : String} {failure : Option Failure} {s' : RunState σ}
    (h : Told first r₀ s r) (hlog : s'.log = s.log) (hw : s'.workflow = s.workflow)
    (hc : r.corrective = none) (hsound : r₀.workflow.Sound) (hcomposed : Replay.Composed [] r₀)
    (hverdict : Outcome.ofStage s'.progress.stage ≠ .aborted → Settled r) :
    let report := (finish runId failure s').1
    ∃ told, report.events = first :: told ++
        [.runEnded report.outcome report.status report.cycles report.completed report.error?] ∧
      r₀.Admitted told ∧ (r₀.hearAll told).workflow = (finish runId failure s').2.workflow ∧
      Recounted r₀ told report := by
  obtain ⟨told, hentries, hadmitted, rfl⟩ := h.log
  refine ⟨told, ?_, hadmitted, (hw.trans h.workflow).symm,
    recounted_finish hadmitted (hw.trans h.workflow) hc hsound hcomposed hverdict⟩
  rw [← hentries, ← hlog]
  rfl

/-- In every state that a run goes through, whatever its roles do, the ids of its tasks are distinct and
its completed tasks are those of its queue; the queue only grows at its end, its tasks only move on, and
a run that comes to a verdict has completed or failed each of them. -/
theorem run_history (roles : Roles σ) (runId requirements root : String) (m : Nat) (heard : Bool)
    (o : σ) :
    let r₀ := Replay.start requirements root m
    let result := run roles runId (RunState.start requirements root m heard o)
    let report := result.1
    ∃ told, report.events = .runStarted runId root m :: told ++
        [.runEnded report.outcome report.status report.cycles report.completed report.error?] ∧
      r₀.Admitted told ∧ (r₀.hearAll told).workflow = result.2.workflow ∧
      Recounted r₀ told report := by
  intro r₀ result report
  have hsound : r₀.workflow.Sound := WorkflowState.sound_new requirements root
  have hcomposed : Replay.Composed [] r₀ := Replay.composed_start requirements root m
  have hstart : Told (.runStarted runId root m) r₀
      ((RunState.start requirements root m heard o).emit (.runStarted runId root m)) r₀ :=
    ⟨⟨[], rfl, trivial, rfl⟩, rfl, rfl⟩
  have hdrive := after_drive_told roles hstart (m := m) ⟨rfl, rfl, rfl, rfl, rfl, rfl⟩ rfl
  unfold After at hdrive
  cases hrun : (drive roles).run
    ((RunState.start requirements root m heard o).emit (.runStarted runId root m)) with
  | mk x s₁ =>
    rw [hrun] at hdrive
    cases x with
    | ok _ =>
      have hfinish : result = finish runId none s₁ := run_of_ok hrun
      obtain ⟨r, htold, hsettled⟩ := hdrive
      simp only [report, hfinish]
      exact exists_told_finish htold rfl rfl hsettled.corrective hsound hcomposed fun _ => hsettled
    | error e =>
      have hfinish : result = finish runId (some e.failure) { s₁ with progress := stopped s₁.progress } :=
        run_of_halt hrun
      obtain ⟨r, htold, hhalted⟩ := hdrive
      have hstage : (stopped s₁.progress).stage = .aborted :=
        (stage_stopped (htold.progress ▸ hhalted.stage)).1
      simp only [report, hfinish]
      refine exists_told_finish htold rfl rfl hhalted.corrective hsound hcomposed fun hne => ?_
      exact absurd (congrArg Outcome.ofStage hstage) hne

end BuildLoop.Run
