import BuildLoop.Proofs.Run.History
import BuildLoop.Proofs.Run.Memory

/-!
# Runs at rest

Whatever ends the work on a batch, no task is left under way: what a wave started it settles or sweeps
up, also if the ids of the batch are not distinct or a failure is fatal. So nothing is under way where a
run stops, and its queue is empty unless it has told that a plan is approved:

    UnderWayIn [] s.workflow    →   UnderWayIn [] (runBatch c ids s).2.workflow     (underWay_runBatch)
    s.workflow.queue = []       →   Calm ((drive roles).run s).2                    (calm_drive)
-/

namespace BuildLoop

/-- Whether the ids of the tasks that are under way are among some ids. -/
def UnderWayIn (ids : List String) (w : WorkflowState) : Prop :=
  ∀ id t, w.task? id = some t → t.status = .inProgress → id ∈ ids

namespace UnderWayIn

variable {ids ids' : List String} {w w' : WorkflowState}

theorem mono (h : UnderWayIn ids w) (hsub : ∀ id ∈ ids, id ∈ ids') : UnderWayIn ids' w :=
  fun id t ht hs => hsub id (h id t ht hs)

theorem congr (h : UnderWayIn ids w) (hq : w'.queue = w.queue) : UnderWayIn ids w' := by
  intro id t ht
  rw [WorkflowState.task?, hq] at ht
  exact h id t ht

/-- A task that starts is under way. -/
theorem begin {id : String} {t : Task} (h : UnderWayIn ids w) (hb : w.begin id = some (t, w'))
    (hid : id ∈ ids) : UnderWayIn ids w' := by
  intro i u hu hs
  rw [WorkflowState.task?_begin hb] at hu
  obtain ⟨v, hv, rfl⟩ := Option.map_eq_some_iff.1 hu
  by_cases hi : i = id
  · rw [hi]
    exact hid
  · rw [if_neg hi] at hs
    exact h i v hv hs

/-- A task that is completed is no longer under way. -/
theorem complete (h : UnderWayIn ids w) (t : Task) : UnderWayIn ids (w.mergeCompleted (.single t)) := by
  intro i u hu hs
  rw [WorkflowState.task?_mergeCompleted_single] at hu
  obtain ⟨v, hv, rfl⟩ := Option.map_eq_some_iff.1 hu
  by_cases hi : i = t.id
  · rw [if_pos hi] at hs
    cases hs
  · rw [if_neg hi] at hs
    exact h i v hv hs

/-- Nor is one that fails: of what was under way it is no part any more. -/
theorem fail {id : String} (h : UnderWayIn ids w) (reason : String)
    (hsub : ∀ i ∈ ids, i = id ∨ i ∈ ids') : UnderWayIn ids' (w.markFailed id reason) := by
  intro i u hu hs
  rw [WorkflowState.task?_markFailed] at hu
  obtain ⟨v, hv, rfl⟩ := Option.map_eq_some_iff.1 hu
  by_cases hi : i = id
  · rw [if_pos hi] at hs
    cases hs
  · rw [if_neg hi] at hs
    exact (hsub i (h i v hv hs)).resolve_left hi

/-- A task at the end of the queue is not under way if it is pending. -/
theorem append {t : Task} (h : UnderWayIn ids w) (ht : t.status = .pending) :
    UnderWayIn ids (w.append t) := by
  intro i u hu hs
  have happend : (w.append t).task? i = (w.task? i).or ([t].find? (·.id == i)) := List.find?_append
  rw [happend] at hu
  rcases Option.or_eq_some_iff.1 hu with hold | ⟨-, hnew⟩
  · exact h i u hold hs
  · rw [List.mem_singleton.1 (List.mem_of_find?_eq_some hnew), ht] at hs
    cases hs

/-- Nothing is under way in a queue of pending tasks. -/
theorem of_pending (h : ∀ t ∈ w.queue, t.status = .pending) : UnderWayIn ids w := by
  intro i t ht hs
  rw [h t (List.mem_of_find?_eq_some ht)] at hs
  cases hs

end UnderWayIn

namespace Dispatch

/-! ## Batches -/

variable {σ : Type} {c : Crew σ} {b : Batch σ} {ids : List String}

theorem underWay_failAll (h : UnderWayIn ids b.run.workflow) (l : List (String × String)) :
    UnderWayIn ids (failAll b l).run.workflow := by
  induction l generalizing b with
  | nil => exact h
  | cons p r ih => exact ih (b := fail b p.1 p.2) (h.fail p.2 fun i hi => .inr hi)

theorem underWay_beginAll {run : RunState σ} {started : List String} (h : UnderWayIn ids run.workflow)
    (hsub : ∀ id ∈ started, id ∈ ids) : UnderWayIn ids (beginAll run started).2.workflow := by
  induction started generalizing run with
  | nil => exact h
  | cons id r ih =>
    have hr : ∀ i ∈ r, i ∈ ids := fun i hi => hsub i (List.mem_cons_of_mem _ hi)
    unfold beginAll
    cases ht : run.workflow.task? id with
    | none =>
      rw [begin_none ht]
      exact ih h hr
    | some t =>
      obtain ⟨w, hw, hb⟩ := begin_some ht
      rw [hb]
      exact ih (h.begin hw (hsub id List.mem_cons_self)) hr

theorem underWay_settleAll (h : UnderWayIn ids b.run.workflow) (fatal : Option Failure)
    (fs : List Finished) : UnderWayIn ids (settleAll c fatal b fs).2.run.workflow := by
  induction fs generalizing fatal b with
  | nil => exact h
  | cons f r ih =>
    unfold settleAll
    cases c.result? f with
    | none => exact ih h fatal
    | some result =>
      cases result with
      | ok report => exact ih (b := complete b f.task report) (h.complete f.task.complete) fatal
      | error e => exact ih (b := fail b f.task.id e.message) (h.fail e.message fun i hi => .inr hi) _

/-- The sweep leaves nothing under way. -/
theorem underWay_sweep (h : UnderWayIn ids b.run.workflow) :
    UnderWayIn [] (sweep b ids).run.workflow := by
  induction ids generalizing b with
  | nil => exact h
  | cons id r ih =>
    unfold sweep
    by_cases hway : (b.run.workflow.task? id).any (fun t => t.status == .inProgress) = true
    · rw [if_pos hway]
      exact ih (b := fail b id Crew.brokenDown) (h.fail Crew.brokenDown fun i hi => List.mem_cons.1 hi)
    · rw [if_neg hway]
      refine ih ?_
      intro i t ht hs
      refine (List.mem_cons.1 (h i t ht hs)).resolve_left ?_
      rintro rfl
      refine hway ?_
      rw [ht, Option.any_some, hs]
      rfl

theorem underWay_wave {ready : List String} (h : UnderWayIn [] b.run.workflow) :
    UnderWayIn [] (wave c b ready).2.run.workflow := by
  have hready : UnderWayIn ready b.run.workflow := h.mono fun i hi => absurd hi List.not_mem_nil
  have hbegun := underWay_beginAll hready fun i hi => hi
  rw [wave_eq]
  refine underWay_sweep (underWay_settleAll ?_ none _)
  exact hbegun

theorem underWay_round (h : UnderWayIn [] b.run.workflow) :
    UnderWayIn [] (round c b ids).batch.run.workflow := by
  have hfailed := underWay_failAll h (frontier b.run.workflow ids).blocked
  by_cases hr : (frontier b.run.workflow ids).ready = []
  · rw [batch_round_of_nil _ _ hr]
    exact underWay_failAll hfailed _
  · rw [batch_round_of_ne _ _ hr]
    exact underWay_wave hfailed

theorem underWay_rounds (h : UnderWayIn [] b.run.workflow) (n : Nat) :
    UnderWayIn [] (rounds c n b ids).2.run.workflow := by
  induction n generalizing b ids with
  | zero => exact h
  | succ n ih =>
    have hround : UnderWayIn [] (round c b ids).batch.run.workflow := underWay_round h
    rw [rounds]
    by_cases he : ids.isEmpty = true
    · rw [if_pos he]
      exact h
    · rw [if_neg he]
      cases hr : round c b ids with
      | ended b' | stopped fatal b' =>
        rw [hr] at hround
        exact hround
      | goesOn b' rest =>
        rw [hr] at hround
        exact ih hround

/-- A batch leaves nothing under way, however it ends. -/
theorem underWay_runBatch {s : RunState σ} (h : UnderWayIn [] s.workflow) (c : Crew σ) (ids : List String) :
    UnderWayIn [] (runBatch c ids s).2.workflow := by
  rw [runBatch_eq]
  exact underWay_rounds (b := ⟨s, .empty⟩) h _

end Dispatch

namespace Run

variable {σ α β : Type}

/-! ## Steps of the cycles -/

/-- Whether a step leaves nothing under way if nothing was. -/
def Rests (x : Step σ α) : Prop :=
  ∀ s, UnderWayIn [] s.workflow → UnderWayIn [] (x.run s).2.workflow

namespace Rests

theorem pure (a : α) : Rests (Pure.pure a : Step σ α) := fun _ h => h

theorem throw (e : Halt) : Rests (MonadExcept.throw e : Step σ α) := fun _ h => h

theorem emit (e : Event) : Rests (Run.emit e : Step σ Unit) := fun _ h => h

theorem outside (act : Act σ α) : Rests (Run.outside act) := fun _ h => h

theorem know {f : WorkflowState → WorkflowState} (hf : ∀ w, UnderWayIn [] w → UnderWayIn [] (f w)) :
    Rests (Run.know fun w => .ok (f w) : Step σ Unit) := fun s h => hf s.workflow h

theorem advance (g : Signal) : Rests (Run.advance g : Step σ Stage) := by
  intro s h
  cases hg : s.progress.fire g with
  | ok p =>
    rw [run_advance_of_ok hg]
    exact h
  | error x =>
    rw [run_advance_of_error hg]
    exact h

theorem dispatch (c : Crew σ) (ids : List String) : Rests (Run.dispatch c ids) := fun _ h =>
  Dispatch.underWay_runBatch h c ids

theorem get_bind {f : RunState σ → Step σ β} (h : ∀ s, Rests (f s)) : Rests (get >>= f) :=
  fun s hs => h s s hs

theorem bind {x : Step σ α} {f : α → Step σ β} (h : Rests x) (hf : ∀ a, Rests (f a)) :
    Rests (x >>= f) := by
  intro s hs
  have hx := h s hs
  cases hrun : x.run s with
  | mk r s' =>
    rw [hrun] at hx
    cases r with
    | error e =>
      rw [run_bind_error hrun]
      exact hx
    | ok a =>
      rw [run_bind_ok hrun]
      exact hf a s' hx

variable (roles : Roles σ) (a : Architecture)

theorem verify : Rests (Run.verify roles a) := by
  refine .bind (.emit _) fun _ => .bind (.outside _) fun v => .bind ?_ fun _ => ?_
  · exact .know fun w h => h.congr rfl
  · by_cases hv : v.isPassed = true
    · simp only [hv, if_true]
      exact .bind (.emit _) fun _ => .advance _
    · simp only [hv]
      exact .bind (.emit _) fun _ => .advance _

theorem correct : Rests (Run.correct roles a) := by
  refine .get_bind fun s => .bind (.outside _) fun d => ?_
  cases hv : Plan.validateCorrective d.task s.workflow.queue with
  | rejected reasons => exact .throw _
  | approved summary =>
    obtain ⟨hpending, -, -⟩ := Replay.of_correctiveReasons (correctiveReasons_of_approved hv)
    refine .bind (.know fun w h => h.congr rfl) fun _ => .bind (.emit _) fun _ => ?_
    refine .bind (.know fun w h => h.append hpending) fun _ => ?_
    exact .bind (.advance _) fun _ => .pure _

theorem cycleOnce {batch : List String} {again : List String → Step σ Unit}
    (h : ∀ ids, Rests (again ids)) : Rests (Run.cycleOnce roles a batch again) := by
  refine .bind (.dispatch _ _) fun _ => .bind (.advance _) fun _ => .bind (verify roles a) fun stage => ?_
  by_cases hs : stage = .diagnosing
  · simp only [hs, if_true]
    exact .bind (correct roles a) fun id => h [id]
  · simp only [hs, if_false]
    exact .pure _

theorem cycles (k : Nat) (batch : List String) : Rests (Run.cycles roles a k batch) := by
  induction k generalizing batch with
  | zero => exact cycleOnce roles a fun _ => .pure _
  | succ k ih => exact cycleOnce roles a ih

end Rests

/-! ## Runs -/

/-- Whether a run has told that a plan is approved. -/
def ToldPlan (s : RunState σ) : Prop := ∃ summary, .planApproved summary ∈ s.log.entries

/-- Whether nothing of a run is under way, and its queue is empty unless a plan was approved. -/
structure Calm (s : RunState σ) : Prop where
  rested : UnderWayIn [] s.workflow
  planned : s.workflow.queue = [] ∨ ToldPlan s

theorem calm_of_nil {s : RunState σ} (h : s.workflow.queue = []) : Calm s where
  rested := .of_pending fun t ht => by rw [h] at ht; cases ht
  planned := .inl h

variable {roles : Roles σ} {a : Architecture} {s : RunState σ}

/-- A change of stage changes nothing else, but for the event. -/
theorem after_advance_kept (g : Signal) (s : RunState σ) :
    After (advance g) s
      (fun _ s' => s'.workflow = s.workflow ∧ ∀ e ∈ s.log.entries, e ∈ s'.log.entries)
      fun _ s' => s' = s := by
  unfold After
  cases hg : s.progress.fire g with
  | ok p =>
    rw [run_advance_of_ok hg]
    exact ⟨rfl, fun e he => List.mem_append_left _ he⟩
  | error e =>
    rw [run_advance_of_error hg]

theorem after_planOnce_calm {again : List String → Step σ Unit} (h : s.workflow.queue = [])
    (hagain : ∀ reasons s', s'.workflow.queue = [] →
      After (again reasons) s' (fun _ s'' => UnderWayIn [] s''.workflow ∧ ToldPlan s'') fun _ => Calm) :
    After (planOnce roles a again) s (fun _ s' => UnderWayIn [] s'.workflow ∧ ToldPlan s')
      fun _ => Calm := by
  refine after_bind.2 (after_outside.2 (after_of_forall (fun tasks o => ?_) fun f o => ?_))
  · refine after_bind.2 (after_emit.2 (after_bind.2 ((after_advance_kept _ _).mono ?_ ?_)))
    · rintro - s₁ ⟨hw₁, -⟩
      have hq₁ : s₁.workflow.queue = [] := by
        rw [hw₁]
        exact h
      cases hv : Plan.validate tasks with
      | approved summary =>
        obtain ⟨hplan, -⟩ := Plan.validate_eq_approved.1 hv
        refine after_bind.2 (after_know.2 ⟨fun w hw => ?_, fun e _ => calm_of_nil hq₁⟩)
        have hrested : UnderWayIn [] w := by
          refine .of_pending fun t ht => ?_
          rw [(WorkflowState.setQueue_eq_ok hw).1] at ht
          exact (hplan.sound t ht).pending
        have htold : ToldPlan ({ s₁ with workflow := w }.emit (.planApproved summary)) :=
          ⟨summary, List.mem_append_right _ (List.mem_singleton_self _)⟩
        refine after_bind.2 (after_emit.2 (after_bind.2 ((after_advance_kept _ _).mono ?_ ?_)))
        · rintro - s₂ ⟨hw₂, hlog⟩
          obtain ⟨summary, hmem⟩ := htold
          exact after_pure.2 ⟨hrested.congr (congrArg WorkflowState.queue hw₂), summary, hlog _ hmem⟩
        · rintro - s₂ rfl
          exact ⟨hrested, .inr htold⟩
      | rejected reasons =>
        refine after_bind.2 (after_emit.2 (after_bind.2 ((after_advance_kept _ _).mono ?_ ?_)))
        · rintro stage s₂ ⟨hw₂, -⟩
          have hq₂ : s₂.workflow.queue = [] := by
            rw [hw₂]
            exact hq₁
          by_cases hstage : stage = .aborted
          · simp only [hstage, if_true]
            exact calm_of_nil hq₂
          · simp only [hstage, if_false]
            exact hagain reasons s₂ hq₂
        · rintro - s₂ rfl
          exact calm_of_nil hq₁
    · rintro - s₁ rfl
      exact calm_of_nil h
  · exact calm_of_nil h

theorem after_planUntilApproved_calm (h : s.workflow.queue = []) (n : Nat) :
    After (planUntilApproved roles a n) s (fun _ s' => UnderWayIn [] s'.workflow ∧ ToldPlan s')
      fun _ => Calm := by
  induction n generalizing s with
  | zero => exact after_planOnce_calm h fun reasons s' hq => calm_of_nil hq
  | succ n ih => exact after_planOnce_calm h fun reasons s' hq => ih hq

/-- Where a run stops, in whichever way, nothing is under way. -/
theorem calm_drive (roles : Roles σ) (h : s.workflow.queue = []) : Calm ((drive roles).run s).2 := by
  refine After.snd (P := Calm) ?_
  refine after_bind.2 (after_get.2 (after_bind.2 (after_outside.2 (after_of_forall (fun a o => ?_)
    fun f o => calm_of_nil h))))
  refine after_bind.2 (after_know.2 ⟨fun w hw => ?_, fun e _ => calm_of_nil h⟩)
  have hq : w.queue = [] := by
    have hkept := (Replay.kept_setArchitecture s.workflow a).1
    rw [show s.workflow.setArchitecture a = .ok w from hw] at hkept
    exact hkept.trans h
  refine after_bind.2 (after_emit.2 (after_bind.2 ((after_planUntilApproved_calm hq _).mono ?_
    fun _ _ hs => hs)))
  rintro - s₁ ⟨hrested, summary, htold⟩
  refine after_bind.2 (after_get.2 ?_)
  refine after_of_snd ⟨Rests.cycles roles a _ _ s₁ hrested, .inr ⟨summary, ?_⟩⟩
  exact Remembers.cycles roles a _ _ _ s₁ htold

end Run

end BuildLoop
