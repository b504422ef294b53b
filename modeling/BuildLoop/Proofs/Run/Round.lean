import Mathlib.Data.List.Basic
import BuildLoop.Proofs.Run.Frontier
import BuildLoop.Proofs.Run.Move

/-!
# Rounds as moves

Every function that works on a batch makes allowed moves about the tasks it is given, and the summary
of the batch counts them. A round settles what it started and what was blocked, so that fewer tasks
remain after it.

    round c b ids = goesOn b' rest   →   rest = the ids still pending,  rest.length < ids.length
    round c b ids = ended b'         →   no task of ids is open in b'
-/

namespace BuildLoop.Dispatch

variable {σ : Type} {c : Crew σ}

/-- Allowed moves about some tasks that lead from one batch to another, whose summary counts them.
Each task that starts is worked on, in the same order. -/
structure Leads (c : Crew σ) (ids : List String) (ms : List Move) (b b' : Batch σ) : Prop where
  run : b'.run = playAll c b.run ms
  completed : b'.summary.completed = b.summary.completed ++ completions ms
  failed : b'.summary.failed = b.summary.failed ++ failures ms
  legal : Legal c b.run ms
  about : ∀ m ∈ ms, m.id ∈ ids
  works : works ms = starts ms

namespace Leads

variable {ids ids' : List String} {ms ns : List Move} {b b' b'' : Batch σ}

theorem refl (ids : List String) (b : Batch σ) : Leads c ids [] b b where
  run := rfl
  completed := (List.append_nil _).symm
  failed := (List.append_nil _).symm
  legal := trivial
  about := by simp
  works := rfl

theorem append (h : Leads c ids ms b b') (h' : Leads c ids ns b' b'') :
    Leads c ids (ms ++ ns) b b'' where
  run := by rw [h'.run, h.run, playAll_append]
  completed := by rw [h'.completed, h.completed, List.append_assoc, completions_append]
  failed := by rw [h'.failed, h.failed, List.append_assoc, failures_append]
  legal := (legal_append c b.run).2 ⟨h.legal, h.run ▸ h'.legal⟩
  about m hm := (List.mem_append.1 hm).elim (h.about m) (h'.about m)
  works := by rw [works_append, starts_append, h.works, h'.works]

theorem mono (h : Leads c ids ms b b') (hsub : ∀ id ∈ ids, id ∈ ids') : Leads c ids' ms b b' :=
  { h with about := fun m hm => hsub _ (h.about m hm) }

theorem not_open (h : Leads c ids ms b b') {id : String} (hid : b.run.workflow.isOpen id = false) :
    b'.run.workflow.isOpen id = false := by
  rw [h.run]
  exact isOpen_playAll_of_not h.legal hid

theorem not_pending (h : Leads c ids ms b b') {id : String}
    (hid : b.run.workflow.isPending id = false) : b'.run.workflow.isPending id = false := by
  rw [h.run]
  exact isPending_playAll_of_not h.legal hid

theorem task?_of_notMem (h : Leads c ids ms b b') {id : String} (hid : id ∉ ids) :
    b'.run.workflow.task? id = b.run.workflow.task? id := by
  rw [h.run]
  refine task?_playAll_of_notMem fun hm => hid ?_
  obtain ⟨m, hmem, rfl⟩ := List.mem_map.1 hm
  exact h.about m hmem

/-- What was pending or closed is so still, if what the moves are about is closed. -/
theorem pending_or_closed (h : Leads c ids ms b b')
    (hclosed : ∀ id ∈ ids, b'.run.workflow.isOpen id = false) {id : String}
    (hid : b.run.workflow.isPending id = true ∨ b.run.workflow.isOpen id = false) :
    b'.run.workflow.isPending id = true ∨ b'.run.workflow.isOpen id = false := by
  by_cases hmem : id ∈ ids
  · exact .inr (hclosed id hmem)
  · rcases hid with hpend | hclose
    · refine .inl ?_
      rw [WorkflowState.isPending, h.task?_of_notMem hmem]
      exact hpend
    · exact .inr (h.not_open hclose)

end Leads

/-! ## Failing -/

theorem leads_fail {b : Batch σ} {id : String} (reason : String)
    (h : b.run.workflow.isOpen id = true) :
    Leads c [id] [.fail id reason] b (fail b id reason) where
  run := rfl
  completed := (List.append_nil _).symm
  failed := rfl
  legal := ⟨h, trivial⟩
  about m hm := by rw [List.mem_singleton.1 hm]; exact List.mem_singleton_self id
  works := rfl

theorem not_open_fail (b : Batch σ) (id reason : String) :
    (fail b id reason).run.workflow.isOpen id = false := by
  have ht := b.run.workflow.task?_markFailed id reason id
  rw [WorkflowState.isOpen, show (fail b id reason).run.workflow.task? id = _ from ht]
  cases b.run.workflow.task? id <;> simp [Status.isTerminal]

/-- Failing different open tasks closes them. -/
theorem leads_failAll {b : Batch σ} {l : List (String × String)} (hn : (l.map (·.1)).Nodup)
    (ho : ∀ p ∈ l, b.run.workflow.isOpen p.1 = true) :
    ∃ ms, Leads c (l.map (·.1)) ms b (failAll b l) ∧ starts ms = [] ∧
      ∀ p ∈ l, (failAll b l).run.workflow.isOpen p.1 = false := by
  induction l generalizing b with
  | nil => exact ⟨[], .refl _ b, rfl, by simp⟩
  | cons p r ih =>
    rw [List.map_cons, List.nodup_cons] at hn
    have hp := leads_fail (c := c) p.2 (ho p List.mem_cons_self)
    have hclosed := not_open_fail b p.1 p.2
    obtain ⟨ms, hl, hs, hc⟩ := ih (b := fail b p.1 p.2) hn.2 fun q hq => by
      have hne : q.1 ∉ [p.1] := fun h => hn.1 (List.mem_singleton.1 h ▸ List.mem_map_of_mem hq)
      rw [WorkflowState.isOpen, hp.task?_of_notMem hne]
      exact ho q (List.mem_cons_of_mem _ hq)
    refine ⟨.fail p.1 p.2 :: ms, ?_, hs, fun q hq => ?_⟩
    · exact (hp.mono (by simp)).append (hl.mono fun _ h => List.mem_cons_of_mem _ h)
    · rcases List.mem_cons.1 hq with rfl | hr
      · exact hl.not_open hclosed
      · exact hc q hr

/-! ## Starting and working -/

theorem run_beginAll (c : Crew σ) (run : RunState σ) (ids : List String) :
    (beginAll run ids).2 = playAll c run (ids.map .start) := by
  induction ids generalizing run with
  | nil => rfl
  | cons id r ih =>
    rw [List.map_cons, playAll_cons, beginAll]
    cases h : begin run id with
    | none => simp only [ih, Move.play, h, Option.map_none, Option.getD_none]
    | some p => simp only [ih, Move.play, h, Option.map_some, Option.getD_some]

/-- Different ids start what the queue held for them before. -/
theorem tasks_beginAll {run : RunState σ} {ids : List String} (hn : ids.Nodup) :
    (beginAll run ids).1 = ids.filterMap fun id => (run.workflow.task? id).map Task.begin := by
  induction ids generalizing run with
  | nil => rfl
  | cons id r ih =>
    rw [List.nodup_cons] at hn
    rw [beginAll]
    cases ht : run.workflow.task? id with
    | none => simp [begin_none ht, ht, ih hn.2]
    | some t =>
      obtain ⟨w, hw, hb⟩ := begin_some ht
      simp only [hb, List.filterMap_cons, ht, Option.map_some, ih hn.2, List.cons.injEq, true_and]
      refine List.filterMap_congr fun i hi => ?_
      have hne : i ≠ id := fun he => hn.1 (he ▸ hi)
      have htask := WorkflowState.task?_begin hw i
      simp only [hne, if_false, Option.map_id'] at htask
      exact congrArg _ htask

/-- The batch once the tasks of a wave have been worked on, before any result is taken. -/
def worked (c : Crew σ) (b : Batch σ) (ready : List String) : Batch σ :=
  ⟨(attempt c b.run ready).2, { b.summary with waves := b.summary.waves + 1 }⟩

theorem wave_eq (c : Crew σ) (b : Batch σ) (ready : List String) :
    wave c b ready =
      let r := settleAll c none (worked c b ready) (attempt c b.run ready).1
      (r.1, sweep r.2 ready) := rfl

theorem tasks_workAll (c : Crew σ) (ts : List Task) (o : σ) :
    (c.workAll ts o).1.map (·.task) = ts := by
  induction ts generalizing o with
  | nil => rfl
  | cons t r ih => simp [Crew.workAll, ih]

theorem run_workAll (c : Crew σ) (ts : List Task) (run : RunState σ) :
    { run with outside := (c.workAll ts run.outside).2 } = playAll c run (ts.map .work) := by
  induction ts generalizing run with
  | nil => rfl
  | cons t r ih =>
    rw [List.map_cons, playAll_cons, ← ih]
    rfl

section
variable {b : Batch σ} {ready : List String} (hn : ready.Nodup)
include hn

/-- Each started task is what the queue holds for its id once all have started. -/
theorem task?_beginAll (c : Crew σ) : ∀ t ∈ (beginAll b.run ready).1,
    (playAll c b.run (ready.map .start)).workflow.task? t.id = some t ∧ t.status = .inProgress := by
  intro t ht
  rw [tasks_beginAll hn] at ht
  obtain ⟨id, hid, hmem⟩ := List.mem_filterMap.1 ht
  obtain ⟨u, hu, rfl⟩ := Option.map_eq_some_iff.1 hmem
  obtain rfl : u.id = id := WorkflowState.id_of_task? hu
  have hnodup : ((ready.map Move.start).map Move.id).Nodup := by
    rw [List.map_map]
    exact (List.map_id ready).symm ▸ hn
  have hplay := task?_playAll_of_mem (c := c) (s := b.run) hnodup (List.mem_map_of_mem hid)
  refine ⟨hplay.trans ?_, rfl⟩
  rw [show (Move.start u.id).id = u.id from rfl, hu]
  simp [Move.change]

variable (hr : ∀ id ∈ ready, (Move.start id).Allowed b.run)
include hr

theorem map_id_beginAll : (beginAll b.run ready).1.map (·.id) = ready := by
  rw [tasks_beginAll hn, List.map_filterMap]
  have hid : ∀ id ∈ ready,
      ((b.run.workflow.task? id).map Task.begin).map (·.id) = some id := by
    intro id hmem
    obtain ⟨t, ht, -⟩ := hr id hmem
    rw [ht, Option.map_some, Option.map_some, Task.id_begin, WorkflowState.id_of_task? ht]
  rw [List.filterMap_congr hid, List.filterMap_some]

/-- A wave's tasks start, are worked on, and finish in some order. -/
theorem leads_attempt :
    ∃ ms, Leads c ready ms b (worked c b ready) ∧ starts ms = ready := by
  have hid := map_id_beginAll hn hr
  have htask := task?_beginAll (b := b) hn c
  have hrun : (attempt c b.run ready).2 = playAll c (playAll c b.run (ready.map .start))
      ((beginAll b.run ready).1.map .work) := by
    rw [← run_workAll, ← run_beginAll]
    rfl
  generalize (beginAll b.run ready).1 = ts at hid htask hrun
  have hstart : starts (ready.map Move.start ++ ts.map Move.work) = ready := by
    simp [starts, List.filterMap_map, Function.comp_def, Move.started?]
  have hwork : works (ready.map Move.start ++ ts.map Move.work) = ready := by
    simp [works, List.filterMap_map, Function.comp_def, Move.worked?, hid]
  have hstarts : ((ready.map Move.start).map Move.id).Nodup := by
    rw [List.map_map]
    exact (List.map_id ready).symm ▸ hn
  have hworks : ((ts.map Move.work).map Move.id).Nodup := by
    rw [List.map_map]
    exact hid.symm ▸ hn
  refine ⟨ready.map .start ++ ts.map .work, ⟨?_, ?_, ?_, ?_, ?_, hwork.trans hstart.symm⟩, hstart⟩
  · rw [playAll_append]
    exact hrun
  · simp [worked, completions, List.filterMap_map, Function.comp_def, Move.completed?]
  · simp [worked, failures, List.filterMap_map, Function.comp_def, Move.failure?]
  · refine (legal_append c b.run).2 ⟨legal_of_nodup hstarts ?_, legal_of_nodup hworks ?_⟩
    · intro m hm
      obtain ⟨id, hmem, rfl⟩ := List.mem_map.1 hm
      exact hr id hmem
    · intro m hm
      obtain ⟨t, hmem, rfl⟩ := List.mem_map.1 hm
      exact htask t hmem
  · intro m hm
    rcases List.mem_append.1 hm with hm | hm
    · obtain ⟨id, hmem, rfl⟩ := List.mem_map.1 hm
      exact hmem
    · obtain ⟨t, hmem, rfl⟩ := List.mem_map.1 hm
      exact hid ▸ List.mem_map_of_mem hmem

/-- What finishes in a wave is what started in it, still under way. -/
theorem finished_attempt :
    ((attempt c b.run ready).1.map (·.task.id)).Perm ready ∧
      ∀ f ∈ (attempt c b.run ready).1,
        (attempt c b.run ready).2.workflow.task? f.task.id = some f.task ∧
          f.task.status = .inProgress := by
  have hid := map_id_beginAll hn hr
  have htask := task?_beginAll (b := b) hn c
  have hperm : ((attempt c b.run ready).1.map (·.task)).Perm (beginAll b.run ready).1 := by
    have h := (c.finish.perm (c.workAll (beginAll b.run ready).1
      (beginAll b.run ready).2.outside).1).map (·.task)
    rwa [tasks_workAll] at h
  have hflow : (attempt c b.run ready).2.workflow =
      (playAll c b.run (ready.map .start)).workflow := by
    rw [← run_beginAll]
    rfl
  refine ⟨?_, fun f hf => ?_⟩
  · have h := hperm.map (·.id)
    rwa [hid, List.map_map] at h
  · rw [hflow]
    exact htask f.task (hperm.mem_iff.1 (List.mem_map_of_mem hf))

end

/-! ## Settling -/

theorem leads_complete {b : Batch σ} {t : Task} (report : WorkerReport)
    (h : b.run.workflow.task? t.id = some t) (hs : t.status = .inProgress) :
    Leads c [t.id] [.complete t report] b (complete b t report) where
  run := rfl
  completed := rfl
  failed := (List.append_nil _).symm
  legal := ⟨⟨h, hs⟩, trivial⟩
  about m hm := by rw [List.mem_singleton.1 hm]; exact List.mem_singleton_self t.id
  works := rfl

/-- Taking results settles tasks that are under way. -/
theorem leads_settleAll (fatal : Option Failure) {b : Batch σ} {fs : List Finished}
    (hn : (fs.map (·.task.id)).Nodup)
    (ht : ∀ f ∈ fs, b.run.workflow.task? f.task.id = some f.task ∧ f.task.status = .inProgress) :
    ∃ ms, Leads c (fs.map (·.task.id)) ms b (settleAll c fatal b fs).2 ∧ starts ms = [] := by
  induction fs generalizing fatal b with
  | nil => exact ⟨[], .refl _ b, rfl⟩
  | cons f r ih =>
    rw [List.map_cons, List.nodup_cons] at hn
    obtain ⟨htask, hstatus⟩ := ht f List.mem_cons_self
    -- one result taken leaves the tasks of the others as they were
    have hrest : ∀ {b' : Batch σ} {m : Move}, m.started? = none → Leads c [f.task.id] [m] b b' →
        ∀ fatal, ∃ ms, Leads c ((f :: r).map (·.task.id)) ms b (settleAll c fatal b' r).2 ∧
          starts ms = [] := by
      intro b' m hm hl fatal
      obtain ⟨ms, hl', hs⟩ := ih fatal (b := b') hn.2 fun g hg => by
        have hne : g.task.id ∉ [f.task.id] := fun he =>
          hn.1 (List.mem_singleton.1 he ▸ List.mem_map_of_mem hg)
        rw [hl.task?_of_notMem hne]
        exact ht g (List.mem_cons_of_mem _ hg)
      refine ⟨[m] ++ ms, (hl.mono (by simp)).append (hl'.mono fun _ h => List.mem_cons_of_mem _ h), ?_⟩
      rw [starts_append, hs, starts_singleton, hm]
      rfl
    rw [settleAll]
    cases c.result? f with
    | none =>
      obtain ⟨ms, hl, hs⟩ := ih fatal hn.2 fun g hg => ht g (List.mem_cons_of_mem _ hg)
      exact ⟨ms, hl.mono fun _ h => List.mem_cons_of_mem _ h, hs⟩
    | some result =>
      cases result with
      | ok report => exact hrest rfl (leads_complete report htask hstatus) _
      | error e =>
        have hopen : b.run.workflow.isOpen f.task.id = true :=
          WorkflowState.isOpen_iff.2 ⟨f.task, htask, by rw [hstatus]; rfl⟩
        exact hrest rfl (leads_fail e.message hopen) _

/-- After the sweep no task that had started is open. -/
theorem leads_sweep {b : Batch σ} {ids : List String}
    (hp : ∀ id ∈ ids, b.run.workflow.isPending id = false) :
    ∃ ms, Leads c ids ms b (sweep b ids) ∧ starts ms = [] ∧
      ∀ id ∈ ids, (sweep b ids).run.workflow.isOpen id = false := by
  induction ids generalizing b with
  | nil => exact ⟨[], .refl _ b, rfl, by simp⟩
  | cons id r ih =>
    have hpr : ∀ i ∈ r, b.run.workflow.isPending i = false := fun i hi =>
      hp i (List.mem_cons_of_mem _ hi)
    rw [sweep]
    by_cases hway : (b.run.workflow.task? id).any (fun t => t.status == .inProgress) = true
    · rw [if_pos hway]
      obtain ⟨t, ht, hs⟩ := (Option.any_eq_true _ _).1 hway
      have hopen : b.run.workflow.isOpen id = true :=
        WorkflowState.isOpen_iff.2 ⟨t, ht, by rw [eq_of_beq hs]; rfl⟩
      have hl := leads_fail (c := c) Crew.brokenDown hopen
      obtain ⟨ms, hl', hs', hc⟩ := ih fun i hi => hl.not_pending (hpr i hi)
      refine ⟨.fail id Crew.brokenDown :: ms, ?_, hs', fun i hi => ?_⟩
      · exact (hl.mono (by simp)).append (hl'.mono fun _ h => List.mem_cons_of_mem _ h)
      · rcases List.mem_cons.1 hi with rfl | hr
        · exact hl'.not_open (not_open_fail b i _)
        · exact hc i hr
    · rw [if_neg hway]
      obtain ⟨ms, hl, hs, hc⟩ := ih hpr
      refine ⟨ms, hl.mono fun _ h => List.mem_cons_of_mem _ h, hs, fun i hi => ?_⟩
      rcases List.mem_cons.1 hi with rfl | hr
      · exact hl.not_open (WorkflowState.not_isOpen_of_not (hp i List.mem_cons_self) hway)
      · exact hc i hr

/-! ## Waves and rounds -/

/-- A wave starts the tasks it is given and leaves none of them open. -/
theorem leads_wave {b : Batch σ} {ready : List String} (hn : ready.Nodup)
    (hr : ∀ id ∈ ready, (Move.start id).Allowed b.run) :
    ∃ ms, Leads c ready ms b (wave c b ready).2 ∧ starts ms = ready ∧
      ∀ id ∈ ready, (wave c b ready).2.run.workflow.isOpen id = false := by
  obtain ⟨ms₁, hl₁, hs₁⟩ := leads_attempt (c := c) hn hr
  obtain ⟨hperm, hway⟩ := finished_attempt (c := c) hn hr
  obtain ⟨ms₂, hl₂, hs₂⟩ := leads_settleAll (c := c) none (b := worked c b ready)
    (hperm.nodup_iff.2 hn) hway
  have hl := hl₁.append (hl₂.mono fun _ h => hperm.mem_iff.1 h)
  rw [wave_eq]
  generalize settleAll c none (worked c b ready) (attempt c b.run ready).1 = r at hl₂ hl
  have hp : ∀ id ∈ ready, r.2.run.workflow.isPending id = false := by
    intro id hid
    have hc := count_starts_add_le hl₁.legal id
    have hone : 0 < (starts ms₁).count id := List.count_pos_iff.2 (hs₁.symm ▸ hid)
    have hle : (b.run.workflow.isPending id).toNat ≤ 1 := Bool.toNat_le _
    refine hl₂.not_pending ?_
    rw [hl₁.run]
    exact Bool.toNat_eq_zero.1 (by omega)
  obtain ⟨ms₃, hl₃, hs₃, hc₃⟩ := leads_sweep (c := c) hp
  refine ⟨ms₁ ++ ms₂ ++ ms₃, hl.append hl₃, ?_, hc₃⟩
  rw [starts_append, starts_append, hs₁, hs₂, hs₃, List.append_nil, List.append_nil]

theorem allowed_of_mem_ready {s : RunState σ} {ids : List String} {id : String}
    (h : id ∈ (frontier s.workflow ids).ready) : (Move.start id).Allowed s := by
  obtain ⟨t, ht, hs, -, hu⟩ := isReady_iff.1 (isReady_of_mem_ready h)
  exact ⟨t, ht, hs, hu⟩

/-- The batch after a round. -/
def Round.batch : Round σ → Batch σ
  | ended b | stopped _ b | goesOn b _ => b

theorem batch_round_of_nil (b : Batch σ) (ids : List String)
    (h : (frontier b.run.workflow ids).ready = []) :
    (round c b ids).batch =
      let b₁ := failAll b (frontier b.run.workflow ids).blocked
      failAll b₁ ((pendingOf b₁.run.workflow ids).map fun id => (id, neverReady)) := by
  simp [round, h, Round.batch]

theorem batch_round_of_ne (b : Batch σ) (ids : List String)
    (h : (frontier b.run.workflow ids).ready ≠ []) :
    (round c b ids).batch =
      (wave c (failAll b (frontier b.run.workflow ids).blocked)
        (frontier b.run.workflow ids).ready).2 := by
  have he : ¬ (frontier b.run.workflow ids).ready.isEmpty = true := fun hnil =>
    h (List.isEmpty_iff.1 hnil)
  unfold round
  simp only [if_neg he]
  split
  · next hw => rw [hw]; rfl
  · next hw => rw [hw]; rfl

theorem round_ended {b b' : Batch σ} {ids : List String} (h : round c b ids = .ended b') :
    (frontier b.run.workflow ids).ready = [] := by
  unfold round at h
  simp only at h
  split at h
  · next he => exact List.isEmpty_iff.1 he
  · split at h <;> cases h

theorem round_goesOn {b b' : Batch σ} {ids rest : List String} (h : round c b ids = .goesOn b' rest) :
    (frontier b.run.workflow ids).ready ≠ [] ∧ rest = pendingOf b'.run.workflow ids := by
  unfold round at h
  simp only at h
  split at h
  · cases h
  · next he =>
    refine ⟨fun hnil => he (List.isEmpty_iff.2 hnil), ?_⟩
    split at h
    · cases h
    · cases h
      rfl

section
variable {b : Batch σ} {ids : List String} (hn : ids.Nodup)
  (hp : ∀ id ∈ ids, b.run.workflow.isPending id = true)
include hn hp

/-- Once what is blocked has failed, the other tasks are as they were. -/
theorem leads_failBlocked :
    ∃ ms, Leads c ids ms b (failAll b (frontier b.run.workflow ids).blocked) ∧ starts ms = [] ∧
      (∀ id ∈ ids,
        (failAll b (frontier b.run.workflow ids).blocked).run.workflow.isPending id = true ∨
        (failAll b (frontier b.run.workflow ids).blocked).run.workflow.isOpen id = false) ∧
      ∀ id ∈ (frontier b.run.workflow ids).ready,
        (Move.start id).Allowed (failAll b (frontier b.run.workflow ids).blocked).run := by
  obtain ⟨hnb, -, hdisj⟩ := List.nodup_append.1 (nodup_frontier (w := b.run.workflow) hn)
  have hsub := (sublist_blocked b.run.workflow [] ids).subset
  rw [← frontier] at hsub
  have hready : ∀ id ∈ (frontier b.run.workflow ids).ready, (Move.start id).Allowed b.run :=
    fun id => allowed_of_mem_ready
  generalize frontier b.run.workflow ids = f at *
  obtain ⟨ms, hl, hs, hclosed⟩ := leads_failAll (c := c) hnb fun p hmem =>
    WorkflowState.isOpen_of_isPending (hp _ (hsub (List.mem_map_of_mem hmem)))
  refine ⟨ms, hl.mono fun _ h => hsub h, hs, fun id hid => ?_, fun id hid => ?_⟩
  · refine hl.pending_or_closed (fun i hi => ?_) (.inl (hp id hid))
    obtain ⟨p, hpm, rfl⟩ := List.mem_map.1 hi
    exact hclosed p hpm
  · rw [hl.run]
    exact allowed_playAll (hready id hid) fun m hm => hdisj _ (hl.about m hm) id hid

omit hp in
/-- Once what is left pending has failed, nothing that was pending or closed is open. -/
theorem leads_failStuck :
    ∃ ms, Leads c ids ms b
        (failAll b ((pendingOf b.run.workflow ids).map fun id => (id, neverReady))) ∧
      starts ms = [] ∧
      ∀ id ∈ ids, b.run.workflow.isPending id = true ∨ b.run.workflow.isOpen id = false →
        (failAll b ((pendingOf b.run.workflow ids).map fun id => (id, neverReady))
          ).run.workflow.isOpen id = false := by
  have hfst : ((pendingOf b.run.workflow ids).map fun id => (id, neverReady)).map (·.1) =
      pendingOf b.run.workflow ids := by
    rw [List.map_map]
    exact List.map_id _
  obtain ⟨ms, hl, hs, hclosed⟩ := leads_failAll (c := c) (b := b)
    (l := (pendingOf b.run.workflow ids).map fun id => (id, neverReady))
    (hfst.symm ▸ hn.filter _) fun p hmem => by
      obtain ⟨id, hid, rfl⟩ := List.mem_map.1 hmem
      exact WorkflowState.isOpen_of_isPending (List.mem_filter.1 hid).2
  rw [hfst] at hl
  refine ⟨ms, hl.mono fun _ h => (List.mem_filter.1 h).1, hs, fun id hid hkept => ?_⟩
  rcases hkept with hpend | hclose
  · exact hclosed (id, neverReady) (List.mem_map.2 ⟨id, List.mem_filter.2 ⟨hid, hpend⟩, rfl⟩)
  · exact hl.not_open hclose

/-- A round settles what it starts, and all that is left if it starts nothing. -/
theorem leads_round :
    ∃ ms, Leads c ids ms b (round c b ids).batch ∧ starts ms = (frontier b.run.workflow ids).ready ∧
      (∀ id ∈ (frontier b.run.workflow ids).ready,
        (round c b ids).batch.run.workflow.isOpen id = false) ∧
      (∀ id ∈ ids, (round c b ids).batch.run.workflow.isPending id = true ∨
        (round c b ids).batch.run.workflow.isOpen id = false) ∧
      ((frontier b.run.workflow ids).ready = [] →
        ∀ id ∈ ids, (round c b ids).batch.run.workflow.isOpen id = false) := by
  obtain ⟨ms, hl, hs, hkept, hready⟩ := leads_failBlocked (c := c) hn hp
  have hnr := (sublist_ready b.run.workflow [] ids).nodup hn
  have hsub := (sublist_ready b.run.workflow [] ids).subset
  rw [← frontier] at hnr hsub
  have hnil := batch_round_of_nil (c := c) b ids
  have hne := batch_round_of_ne (c := c) b ids
  generalize (round c b ids).batch = b' at *
  generalize failAll b (frontier b.run.workflow ids).blocked = b₁ at *
  generalize (frontier b.run.workflow ids).ready = ready at *
  by_cases he : ready = []
  · subst he
    obtain ⟨ns, hl', hs', hclosed⟩ := leads_failStuck (c := c) (b := b₁) hn
    rw [hnil rfl]
    refine ⟨ms ++ ns, hl.append hl', ?_, by simp,
      fun id hid => .inr (hclosed id hid (hkept id hid)), fun _ id hid =>
        hclosed id hid (hkept id hid)⟩
    rw [starts_append, hs, hs', List.append_nil]
  · obtain ⟨ns, hl', hs', hclosed⟩ := leads_wave (c := c) hnr hready
    rw [hne he]
    refine ⟨ms ++ ns, hl.append (hl'.mono fun _ h => hsub h), ?_, hclosed, fun id hid => ?_,
      fun hnil => absurd hnil he⟩
    · rw [starts_append, hs, hs', List.nil_append]
    · exact hl'.pending_or_closed hclosed (hkept id hid)

/-- Fewer tasks remain after a round that goes on. -/
theorem length_lt_of_goesOn {b' : Batch σ} {rest : List String}
    (h : round c b ids = .goesOn b' rest) : rest.length < ids.length := by
  obtain ⟨hne, rfl⟩ := round_goesOn h
  obtain ⟨ms, -, -, hclosed, -⟩ := leads_round (c := c) hn hp
  obtain ⟨id, hid⟩ := List.exists_mem_of_ne_nil _ hne
  have hmem : id ∈ ids := (sublist_ready b.run.workflow [] ids).subset hid
  have hclose := hclosed id hid
  rw [h] at hclose
  refine List.length_filter_lt_length_iff_exists.2 ⟨id, hmem, fun hpend => ?_⟩
  have hopen := WorkflowState.isOpen_of_isPending hpend
  rw [show b'.run.workflow.isOpen id = false from hclose] at hopen
  cases hopen

end

end BuildLoop.Dispatch
