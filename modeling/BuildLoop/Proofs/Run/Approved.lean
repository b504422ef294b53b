import Mathlib.Order.Bounds.Defs
import BuildLoop.Proofs.Plan.Approval
import BuildLoop.Proofs.Plan.Reach
import BuildLoop.Proofs.Run.Success

/-!
# Batches of approved plans

Where all work succeeds, what remains of an approved plan after `n` waves are the tasks with a chain of
`n` more tasks below them (`Standing`). Nothing remains once the longest chain is done, and no wave is
stuck before: the first task that remains waits for none that remains. Two tasks on one file are never
ready together, since the later waits for the earlier.
-/

namespace BuildLoop.Dispatch

open Relation Plan

variable {σ : Type} {c : Crew σ}

/-- Where a batch stands after `n` waves of a plan in which nothing failed. -/
structure Standing (ts : List Task) (n : Nat) (b : Batch σ) (ids : List String) : Prop where
  waves : b.summary.waves = n
  failed : b.summary.failed = []
  remaining : ids.Sublist (ts.map (·.id))
  /-- A task remains while a chain of `n` more tasks leads down from it. -/
  deep : ∀ t ∈ ts, t.id ∈ ids ↔ HasBelow ts n t
  task? : ∀ t ∈ ts, b.run.workflow.task? t.id = some (if t.id ∈ ids then t else t.complete)
  contains : ∀ t ∈ ts, b.run.workflow.completed.contains t.id = true ↔ t.id ∉ ids
  /-- Each wave was needed. -/
  long : ∃ l, DependencyChain ts l ∧ l.length = n

/-! ## Approved plans -/

theorem exists_of_dependency {ts : List Task} (hts : Approvable ts) {t : Task} (ht : t ∈ ts)
    {d : String} (hd : d ∈ t.dependencies) : ∃ u ∈ ts, u.id = d := by
  obtain ⟨i, hi⟩ := List.mem_iff_getElem?.1 ht
  obtain ⟨j, -, u, hu, hid⟩ := hts.earlier i t hi d hd
  exact ⟨u, List.mem_of_getElem? hu, hid⟩

/-- The first of some tasks of an approved plan depends on none of them. -/
theorem exists_first {ts : List Task} (hts : Approvable ts) {ids : List String}
    (h : ∃ t ∈ ts, t.id ∈ ids) : ∃ t ∈ ts, t.id ∈ ids ∧ ∀ d ∈ t.dependencies, d ∉ ids := by
  obtain ⟨t, ht, hid⟩ := h
  obtain ⟨u, hu⟩ : ∃ u, ts.find? (fun u => decide (u.id ∈ ids)) = some u :=
    Option.isSome_iff_exists.1 (List.find?_isSome.2 ⟨t, ht, decide_eq_true hid⟩)
  obtain ⟨hmem, before, after, hsplit, hbefore⟩ := List.find?_eq_some_iff_append.1 hu
  have hat : ts[before.length]? = some u := by
    rw [hsplit, List.getElem?_append_right (Nat.le_refl _), Nat.sub_self]
    rfl
  refine ⟨u, List.mem_of_getElem? hat, of_decide_eq_true hmem, fun d hd hin => ?_⟩
  obtain ⟨j, hj, v, hv, rfl⟩ := hts.earlier _ u hat d hd
  rw [hsplit, List.getElem?_append_left hj] at hv
  simpa [hin] using hbefore v (List.mem_of_getElem? hv)

/-! ## One wave -/

theorem Standing.exists_task {ts : List Task} {n : Nat} {b : Batch σ} {ids : List String}
    (h : Standing ts n b ids) {id : String} (hid : id ∈ ids) : ∃ t ∈ ts, t.id = id :=
  List.mem_map.1 (h.remaining.subset hid)

/-- What depends on a task that remains remains. -/
theorem Standing.mem_of_requires {ts : List Task} {n : Nat} {b : Batch σ} {ids : List String}
    (h : Standing ts n b ids) {a d : String} (hr : Requires ts a d) (hd : d ∈ ids) : a ∈ ids := by
  obtain ⟨t, ht, rfl, hdep⟩ := hr
  obtain ⟨u, hu, rfl⟩ := h.exists_task hd
  have hbelow : HasBelow ts (n + 1) t := hasBelow_succ.2 ⟨ht, u, hdep, (h.deep u hu).1 hd⟩
  exact (h.deep t ht).2 hbelow.pred

section
variable {ts : List Task} (hts : Approvable ts) {n : Nat} {b : Batch σ} {ids : List String}
  (h : Standing ts n b ids)
include hts h

theorem Standing.nodup : ids.Nodup := h.remaining.nodup hts.distinct

theorem Standing.not_failed {t : Task} (ht : t ∈ ts) :
    failedDependency? b.run.workflow t = none := by
  refine List.find?_eq_none.2 fun d hd hany => ?_
  obtain ⟨u, hu, rfl⟩ := exists_of_dependency hts ht hd
  rw [h.task? u hu, Option.any_some] at hany
  split at hany
  · rw [(hts.sound u hu).pending] at hany
    cases hany
  · cases hany

theorem Standing.isUnblocked_iff {t : Task} (ht : t ∈ ts) :
    isUnblocked b.run.workflow t = true ↔ ∀ d ∈ t.dependencies, d ∉ ids := by
  rw [isUnblocked, List.all_eq_true]
  refine forall₂_congr fun d hd => ?_
  obtain ⟨u, hu, rfl⟩ := exists_of_dependency hts ht hd
  exact h.contains u hu

/-- A task can start once nothing remains that it depends on. -/
theorem Standing.isReady_iff {t : Task} (ht : t ∈ ts) :
    isReady b.run.workflow t.id = true ↔ t.id ∈ ids ∧ ∀ d ∈ t.dependencies, d ∉ ids := by
  rw [Dispatch.isReady_iff]
  constructor
  · rintro ⟨u, hu, hs, -, hun⟩
    rw [h.task? t ht, Option.some.injEq] at hu
    by_cases hid : t.id ∈ ids
    · rw [if_pos hid] at hu
      rw [← hu] at hun
      exact ⟨hid, (h.isUnblocked_iff hts ht).1 hun⟩
    · rw [if_neg hid] at hu
      rw [← hu] at hs
      cases hs
  · rintro ⟨hid, hd⟩
    refine ⟨t, ?_, (hts.sound t ht).pending, h.not_failed hts ht, (h.isUnblocked_iff hts ht).2 hd⟩
    rw [h.task? t ht, if_pos hid]

theorem Standing.blocked_eq_nil : (frontier b.run.workflow ids).blocked = [] := by
  refine List.eq_nil_iff_forall_not_mem.2 fun p hp => ?_
  obtain ⟨t, d, ht, -, hd⟩ := of_mem_blocked hp
  obtain ⟨u, hu, hid⟩ := h.exists_task
    ((sublist_blocked b.run.workflow [] ids).subset (List.mem_map_of_mem hp))
  have hdeps : t.dependencies = u.dependencies := by
    rw [← hid, h.task? u hu, Option.some.injEq] at ht
    rw [← ht]
    split <;> rfl
  have hnone := h.not_failed hts hu
  rw [failedDependency?, ← hdeps, ← failedDependency?, hd] at hnone
  cases hnone

/-- Two tasks on one file are not ready together: the later one waits for the earlier. -/
theorem Standing.ready_eq : (frontier b.run.workflow ids).ready =
    ids.filter (isReady b.run.workflow) := by
  refine ready_eq_filter (by simp) (List.Pairwise.sublist h.remaining ?_)
  refine List.pairwise_map.2 (List.Pairwise.imp_of_mem (fun {t u} ht hu hchain => ?_) hts.chained)
  intro hrt hru file hft hfu
  obtain ⟨hidt, -⟩ := (h.isReady_iff hts ht).1 hrt
  obtain ⟨hidu, hdu⟩ := (h.isReady_iff hts hu).1 hru
  rw [fileOf?, h.task? t ht, if_pos hidt, Option.bind_some] at hft
  rw [fileOf?, h.task? u hu, if_pos hidu, Option.bind_some] at hfu
  obtain ⟨d, ⟨v, hv, hid, hd⟩, hreach⟩ := TransGen.head'_iff.1 (hchain file hft hfu)
  obtain rfl : v = u := eq_of_id_eq hts.distinct hv hu hid
  have hleft : d ∈ ids := by
    refine ReflTransGen.head_induction_on hreach hidt fun hr _ ih => ?_
    exact h.mem_of_requires hr ih
  exact hdu d hd hleft

theorem Standing.mem_ready_iff {t : Task} (ht : t ∈ ts) :
    t.id ∈ (frontier b.run.workflow ids).ready ↔ t.id ∈ ids ∧ ∀ d ∈ t.dependencies, d ∉ ids := by
  rw [h.ready_eq hts, List.mem_filter, h.isReady_iff hts ht, and_self_left]

theorem Standing.ready_ne_nil (hne : ids ≠ []) : (frontier b.run.workflow ids).ready ≠ [] := by
  obtain ⟨id, hid⟩ := List.exists_mem_of_ne_nil _ hne
  obtain ⟨t, ht, rfl⟩ := h.exists_task hid
  obtain ⟨u, hu, hmem⟩ := exists_first hts ⟨t, ht, hid⟩
  exact List.ne_nil_of_mem ((h.mem_ready_iff hts hu).2 hmem)

/-- Where a batch stands after one more wave. -/
theorem Standing.step {b' : Batch σ} (hne : ids ≠ []) (hw : b'.summary.waves = b.summary.waves + 1)
    (hc : Completes (frontier b.run.workflow ids).ready b b') :
    Standing ts (n + 1) b' (pendingOf b'.run.workflow ids) := by
  have htask : ∀ t ∈ ts, b'.run.workflow.task? t.id =
      some (if t.id ∈ ids ∧ t.id ∉ (frontier b.run.workflow ids).ready then t else t.complete) := by
    intro t ht
    rw [hc.task?, h.task? t ht, Option.map_some]
    by_cases hid : t.id ∈ ids <;>
      by_cases hr : t.id ∈ (frontier b.run.workflow ids).ready <;> simp [hid, hr, Task.complete]
  have hrest : ∀ t ∈ ts, t.id ∈ pendingOf b'.run.workflow ids ↔
      t.id ∈ ids ∧ t.id ∉ (frontier b.run.workflow ids).ready := by
    intro t ht
    rw [mem_pendingOf, WorkflowState.isPending, htask t ht]
    by_cases hid : t.id ∈ ids <;>
      by_cases hr : t.id ∈ (frontier b.run.workflow ids).ready <;>
      simp [hid, hr, (hts.sound t ht).pending]
  refine ⟨by rw [hw, h.waves], hc.failed.trans h.failed, List.filter_sublist.trans h.remaining,
    fun t ht => ?_, fun t ht => ?_, fun t ht => ?_, ?_⟩
  · rw [hrest t ht, h.mem_ready_iff hts ht]
    constructor
    · rintro ⟨hid, hn⟩
      obtain ⟨d, hd, hin⟩ : ∃ d ∈ t.dependencies, d ∈ ids := by
        by_contra hnone
        exact hn ⟨hid, fun d hd hin => hnone ⟨d, hd, hin⟩⟩
      obtain ⟨u, hu, rfl⟩ := h.exists_task hin
      exact hasBelow_succ.2 ⟨ht, u, hd, (h.deep u hu).1 hin⟩
    · intro hb
      obtain ⟨-, u, hd, hu⟩ := hasBelow_succ.1 hb
      exact ⟨(h.deep t ht).2 hb.pred, fun hr => hr.2 u.id hd ((h.deep u hu.mem).2 hu)⟩
  · rw [htask t ht]
    simp only [hrest t ht]
  · rw [hc.contains, h.contains t ht, hrest t ht, not_and_not_right]
    tauto
  · obtain ⟨id, hid⟩ := List.exists_mem_of_ne_nil _ hne
    obtain ⟨t, ht, rfl⟩ := h.exists_task hid
    obtain ⟨l, hl, hlen⟩ := (h.deep t ht).1 hid
    exact ⟨t :: l, hl, congrArg Nat.succ hlen⟩

end

/-! ## All waves -/

/-- Whether every call of a worker that the work on a batch makes ends with a report. -/
def AllReport (c : Crew σ) (b : Batch σ) (ids : List String) : Prop :=
  ∀ b' ids', Rounds c b ids b' ids' →
    ∀ f ∈ (attempt c b'.run (frontier b'.run.workflow ids').ready).1, Reports f

theorem exists_work_of_mem {ts : List Task} {o : σ} {f : Finished} (h : f ∈ (c.workAll ts o).1) :
    ∃ o', f.effort = (c.work f.task o').1 := by
  induction ts generalizing o with
  | nil => cases h
  | cons t r ih =>
    rcases List.mem_cons.1 h with rfl | h
    · exact ⟨o, rfl⟩
    · exact ih h

/-- A crew that has somebody for every task and whose work always succeeds. -/
theorem allReport_of_work (h : ∀ t o, ∃ report, (c.work t o).1 = .ends (.ok report)) (b : Batch σ)
    (ids : List String) : AllReport c b ids := by
  intro b' ids' _ f hf
  obtain ⟨o, ho⟩ := exists_work_of_mem ((c.finish.perm _).mem_iff.1 hf)
  obtain ⟨report, hr⟩ := h f.task o
  exact ⟨report, ho.trans hr⟩

theorem round_nil (c : Crew σ) (b : Batch σ) : round c b [] = .ended b := rfl

section
variable {ts : List Task} (hts : Approvable ts)
include hts

/-- A round on what remains of an approved plan is one more wave. -/
theorem Standing.round {n : Nat} {b : Batch σ} {ids : List String} (h : Standing ts n b ids)
    (hc : AllReport c b ids) (hne : ids ≠ []) :
    ∃ b', Dispatch.round c b ids = .goesOn b' (pendingOf b'.run.workflow ids) ∧
      Standing ts (n + 1) b' (pendingOf b'.run.workflow ids) := by
  obtain ⟨b', hround, hwaves, hdone⟩ := round_of_reports (h.nodup hts) (h.blocked_eq_nil hts)
    (h.ready_ne_nil hts hne) (hc b ids (.refl b ids))
  exact ⟨b', hround, h.step hts hne hwaves hdone⟩

/-- Every round leaves the batch after some number of waves. -/
theorem Standing.rounds {n : Nat} {b b' : Batch σ} {ids ids' : List String}
    (h : Standing ts n b ids) (hc : AllReport c b ids) (hr : Rounds c b ids b' ids') :
    ∃ m, Standing ts m b' ids' := by
  induction hr generalizing n with
  | refl b ids => exact ⟨n, h⟩
  | @step b b₁ b₂ ids ids₁ ids₂ hround _ ih =>
    by_cases hne : ids = []
    · subst hne
      rw [round_nil] at hround
      cases hround
    · obtain ⟨b'', hround', h'⟩ := h.round hts hc hne
      rw [hround] at hround'
      cases hround'
      exact ih h' fun b'' ids'' hr => hc b'' ids'' (.step hround hr)

/-- The batch ends with nothing left. -/
theorem Standing.eq_done {n : Nat} {b : Batch σ} {ids : List String} (h : Standing ts n b ids)
    (hc : AllReport c b ids) {r : Except Failure Unit × Batch σ} (hend : Ends c b ids r) :
    ids = [] ∧ r = (.ok (), b) := by
  by_cases hne : ids = []
  · subst hne
    refine ⟨rfl, ?_⟩
    cases hend with
    | done => rfl
    | ended hround =>
      rw [round_nil] at hround
      cases hround
      rfl
    | stopped hround =>
      rw [round_nil] at hround
      cases hround
  · obtain ⟨b', hround, -⟩ := h.round hts hc hne
    cases hend with
    | done => exact absurd rfl hne
    | ended hround' | stopped hround' =>
      rw [hround] at hround'
      cases hround'

end

theorem queue_eq_of_task? {w : WorkflowState} {ts : List Task} {f : Task → Task}
    (hid : w.queue.map (·.id) = ts.map (·.id)) (hn : (ts.map (·.id)).Nodup)
    (h : ∀ t ∈ ts, w.task? t.id = some (f t)) : w.queue = ts.map f := by
  have hlen : w.queue.length = ts.length := by simpa using congrArg List.length hid
  refine List.ext_getElem (by simpa using hlen) fun i hi hi' => ?_
  have hts : i < ts.length := hlen ▸ hi
  have hi_id : w.queue[i].id = ts[i].id := by
    have := List.getElem_of_eq hid (i := i) (by simpa using hi)
    simpa using this
  have hfound := WorkflowState.task?_of_mem (hid ▸ hn) (List.getElem_mem hi)
  rw [hi_id, h ts[i] (List.getElem_mem hts)] at hfound
  rw [List.getElem_map]
  exact (Option.some.inj hfound).symm

section
variable {ts : List Task} {s : RunState σ} (hts : Approvable ts) (hq : s.workflow.queue = ts)
include hts hq

theorem pendingIds_eq : s.workflow.pendingIds = ts.map (·.id) := by
  rw [WorkflowState.pendingIds, hq, List.filter_eq_self.2]
  intro t ht
  rw [(hts.sound t ht).pending]
  rfl

theorem pendingOf_pendingIds : pendingOf s.workflow s.workflow.pendingIds = ts.map (·.id) := by
  rw [pendingIds_eq hts hq, pendingOf, List.filter_eq_self]
  intro id hid
  obtain ⟨t, ht, rfl⟩ := List.mem_map.1 hid
  rw [← hq] at ht
  exact WorkflowState.isPending_iff.2
    ⟨t, WorkflowState.task?_of_mem (hq ▸ hts.distinct) ht, (hts.sound t (hq ▸ ht)).pending⟩

theorem standing_start (hc : s.workflow.completed = .empty) :
    Standing ts 0 ⟨s, .empty⟩ (ts.map (·.id)) where
  waves := rfl
  failed := rfl
  remaining := List.Sublist.refl _
  deep t ht := ⟨fun _ => hasBelow_zero.2 ht, fun _ => List.mem_map_of_mem ht⟩
  task? t ht := by
    rw [if_pos (List.mem_map_of_mem ht)]
    exact WorkflowState.task?_of_mem (hq ▸ hts.distinct) (hq ▸ ht)
  contains t ht := by
    rw [show (Batch.mk s .empty).run.workflow.completed = .empty from hc]
    exact ⟨fun h => (by cases h), fun h => absurd (List.mem_map_of_mem ht) h⟩
  long := ⟨[], ⟨by simp, .nil⟩, rfl⟩

end

/-- A batch of an approved plan in which all work succeeds completes the plan in as many waves as its
longest chain of dependencies has tasks. In no round is a task blocked, stuck or kept back for its
file. -/
theorem runBatch_approved {ts : List Task} {summary : PlanSummary}
    (hv : validate ts = .approved summary) {w : WorkflowState} (hw : w.completed = .empty)
    {s : RunState σ} (hs : w.setQueue ts = .ok s.workflow)
    (hc : AllReport c ⟨s, .empty⟩ s.workflow.pendingIds) :
    ∃ b, (runBatch c s.workflow.pendingIds s).1 = .ok b ∧ b.failed = [] ∧
      (runBatch c s.workflow.pendingIds s).2.workflow.queue = ts.map Task.complete ∧
      IsGreatest {n | ∃ l, DependencyChain ts l ∧ l.length = n} b.waves ∧
      ∀ b' ids, Rounds c ⟨s, .empty⟩ s.workflow.pendingIds b' ids →
        (frontier b'.run.workflow ids).blocked = [] ∧
        (frontier b'.run.workflow ids).ready = ids.filter (isReady b'.run.workflow) ∧
        (ids ≠ [] → (frontier b'.run.workflow ids).ready ≠ []) := by
  obtain ⟨hts, -⟩ := validate_eq_approved.1 hv
  obtain ⟨hq, hcompleted⟩ := WorkflowState.setQueue_eq_ok hs
  have hids := pendingIds_eq hts hq
  have hstart := hids ▸ standing_start hts hq (hcompleted.trans hw)
  have hn : s.workflow.pendingIds.Nodup := hids ▸ hts.distinct
  obtain ⟨b, ids, hr, hend⟩ := ends_rounds (c := c) (b := ⟨s, .empty⟩) hn
    (fun id hid => by
      rw [hids, ← pendingOf_pendingIds hts hq] at hid
      exact (mem_pendingOf.1 hid).2)
    (Nat.le_refl _)
  obtain ⟨n, h⟩ := hstart.rounds hts hc hr
  obtain ⟨rfl, hrun⟩ := h.eq_done hts (fun b' ids' hr' => hc b' ids' (hr.append hr')) hend
  have heq : runBatch c s.workflow.pendingIds s = (.ok b.summary, b.run) := by
    rw [runBatch_eq, pendingOf_pendingIds hts hq, ← hids, hrun]
    rfl
  obtain ⟨ms, hmoves, -⟩ := leads_runBatch c hn s
  rw [heq] at hmoves ⊢
  refine ⟨b.summary, rfl, h.failed, ?_, ?_, fun b' ids' hr' => ?_⟩
  · refine queue_eq_of_task? ?_ hts.distinct fun t ht => ?_
    · rw [show b.run.workflow = _ from congrArg RunState.workflow hmoves, map_id_queue_playAll, hq]
    · rw [h.task? t ht, if_neg List.not_mem_nil]
  · rw [h.waves]
    refine ⟨h.long, ?_⟩
    rintro m ⟨l, hl, rfl⟩
    exact hl.length_le fun t ht hb => List.not_mem_nil ((h.deep t ht).2 hb)
  · obtain ⟨m, h'⟩ := hstart.rounds hts hc hr'
    exact ⟨h'.blocked_eq_nil hts, h'.ready_eq hts, h'.ready_ne_nil hts⟩

/-- A crew that completes every task. -/
def steadyCrew : Crew Unit where
  worker? _ := some fun t o => (.ends (.ok (.new t.id)), o)
  finish := .slots 2
  taskMilliseconds := 0

/-- Two tasks on one file, the later depending on the earlier, and one that can go along with it. -/
def sharedFileTasks : List Task :=
  [.new "a" "Create app.py" .backend,
    { Task.new "b" "Create app.py" .backend with dependencies := ["a"] },
    { Task.new "c" "Create index.html" .frontend with dependencies := ["a"] }]

theorem approvable_sharedFileTasks : Approvable sharedFileTasks := by
  have hown : ownReasons [] 0 sharedFileTasks = [] := by decide +kernel
  have hlink : sharedFileTasks.zipIdx.flatMap (fun p => linkReasons sharedFileTasks p.2 p.1) = [] := by
    decide +kernel
  have hphase : phaseReasons none sharedFileTasks = [] := by decide +kernel
  obtain ⟨hsound, hn, -⟩ := ownReasons_eq_nil.1 hown
  obtain ⟨hearlier, howned⟩ := (linkReasons_eq_nil hn).1 hlink
  have hb : TransGen (Requires sharedFileTasks) "b" "a" :=
    .single ⟨_, .tail _ (.head _), rfl, .head _⟩
  have hc : TransGen (Requires sharedFileTasks) "c" "a" :=
    .single ⟨_, .tail _ (.tail _ (.head _)), rfl, .head _⟩
  have hne : sharedFileTasks[1].primaryFile? ≠ sharedFileTasks[2].primaryFile? := by decide +kernel
  refine ⟨by decide, hsound, hn, hearlier, howned, phaseReasons_eq_nil_iff.1 hphase, ?_⟩
  refine .cons (fun u hu _ _ _ => ?_) (.cons (fun u hu file hf hf' => ?_) (.cons (by simp) .nil))
  · rcases List.mem_cons.1 hu with rfl | hu
    · exact hb
    · obtain rfl := List.mem_singleton.1 hu
      exact hc
  · obtain rfl := List.mem_singleton.1 hu
    exact absurd (hf.trans hf'.symm) hne

theorem runBatch_approved_sharedFile :
    ∃ b, (runBatch steadyCrew (runOf sharedFileTasks).workflow.pendingIds (runOf sharedFileTasks)).1 =
        .ok b ∧
      b.failed = [] ∧
      (runBatch steadyCrew (runOf sharedFileTasks).workflow.pendingIds
        (runOf sharedFileTasks)).2.workflow.queue = sharedFileTasks.map Task.complete ∧
      IsGreatest {n | ∃ l, DependencyChain sharedFileTasks l ∧ l.length = n} b.waves ∧
      ∀ b' ids, Rounds steadyCrew ⟨runOf sharedFileTasks, .empty⟩
          (runOf sharedFileTasks).workflow.pendingIds b' ids →
        (frontier b'.run.workflow ids).blocked = [] ∧
        (frontier b'.run.workflow ids).ready = ids.filter (isReady b'.run.workflow) ∧
        (ids ≠ [] → (frontier b'.run.workflow ids).ready ≠ []) :=
  runBatch_approved (validate_eq_approved.2 ⟨approvable_sharedFileTasks, rfl⟩)
    (w := .new "notes" "/notes") rfl rfl
    (allReport_of_work (fun t _ => ⟨.new t.id, rfl⟩) _ _)

end BuildLoop.Dispatch
