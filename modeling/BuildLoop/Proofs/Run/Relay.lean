import BuildLoop.Proofs.Run.Fatal
import BuildLoop.Proofs.Run.Success

/-!
# Tasks in a row

In a batch whose tasks stand in a row each waits for the one before it, so each is a wave of its own. If
the work on each task but the last is reported done, and the last does not end the run, the batch goes
through them all:

    Waiting w deps ts, Relay c ts o o'   →   runBatch c ids s = (ok …, s')  with  s'.outside = o'
                                                                                        (runBatch_of_relay)

If the work on the first one fails fatally, the batch does:

    Waiting w deps (t :: ts), c.work t o = error e, e fatal   →   (runBatch c ids s).1 = error e
                                                                                        (runBatch_of_fatal)
-/

namespace BuildLoop.Dispatch

variable {σ : Type} {c : Crew σ}

/-! ## Rows -/

/-- Whether tasks stand in a row: the first depends on some ids, each later one on the task before it. -/
def Row : List String → List Task → Prop
  | _, [] => True
  | deps, t :: ts => t.dependencies = deps ∧ Row [t.id] ts

theorem Row.dependencies {deps : List String} {ts : List Task} (h : Row deps ts) {u : Task} (hu : u ∈ ts) :
    u.dependencies = deps ∨ ∃ v ∈ ts.dropLast, u.dependencies = [v.id] := by
  induction ts generalizing deps with
  | nil => cases hu
  | cons t ts ih =>
    obtain ⟨hdeps, hrow⟩ := h
    rcases List.mem_cons.1 hu with rfl | hu
    · exact .inl hdeps
    · rw [List.dropLast_cons_of_ne_nil (List.ne_nil_of_mem hu)]
      rcases ih hrow hu with h | ⟨v, hv, h⟩
      · exact .inr ⟨t, List.mem_cons_self, h⟩
      · exact .inr ⟨v, List.mem_cons_of_mem _ hv, h⟩

/-- What comes of the work on tasks one after another: it is reported done, but on the last task it may
also fail, as long as that does not end the run. -/
inductive Relay (c : Crew σ) : List Task → σ → σ → Prop
  | nil (o : σ) : Relay c [] o o
  | last {t : Task} {r : Except Failure WorkerReport} {o o' : σ} (h : c.work t.begin o = (.ends r, o'))
      (hr : ∀ e, r = .error e → e.isFatal = false) : Relay c [t] o o'
  | cons {t : Task} {ts : List Task} {report : WorkerReport} {o o' o'' : σ}
      (h : c.work t.begin o = (.ends (.ok report), o')) (hs : Relay c ts o' o'') : Relay c (t :: ts) o o''

/-- Whether the tasks of a row are all still to be done, and what the first depends on is done. -/
structure Waiting (w : WorkflowState) (deps : List String) (ts : List Task) : Prop where
  queued : ∀ t ∈ ts, w.task? t.id = some t
  pending : ∀ t ∈ ts, t.status = .pending
  distinct : (ts.map (·.id)).Nodup
  row : Row deps ts
  /-- No later task is ready. -/
  new : ∀ t ∈ ts.dropLast, w.completed.contains t.id = false
  done : ∀ d ∈ deps, w.completed.contains d = true
  unfailed : ∀ d ∈ deps, ∀ u, w.task? d = some u → u.status ≠ .failed

section
variable {w : WorkflowState} {deps : List String} {t : Task} {ts : List Task}

theorem Waiting.failedDependency?_eq_none (h : Waiting w deps ts) {u : Task} (hu : u ∈ ts) :
    failedDependency? w u = none := by
  rw [failedDependency?, List.find?_eq_none]
  intro d hd hany
  obtain ⟨v, hv, hs⟩ := (Option.any_eq_true _ _).1 hany
  rcases h.row.dependencies hu with hdeps | ⟨x, hx, hdeps⟩
  · exact h.unfailed d (hdeps ▸ hd) v hv (eq_of_beq hs)
  · obtain rfl := List.mem_singleton.1 (hdeps ▸ hd)
    rw [h.queued x ((List.dropLast_sublist _).subset hx)] at hv
    obtain rfl := Option.some.inj hv
    rw [h.pending x ((List.dropLast_sublist _).subset hx)] at hs
    cases hs

theorem Waiting.isReady_head (h : Waiting w deps (t :: ts)) : isReady w t.id = true := by
  refine isReady_iff.2 ⟨t, h.queued t List.mem_cons_self, h.pending t List.mem_cons_self,
    h.failedDependency?_eq_none List.mem_cons_self, ?_⟩
  rw [isUnblocked, h.row.1, List.all_eq_true]
  exact h.done

/-- A task behind the first is not ready: the one before it is not done. -/
theorem Waiting.not_isReady (h : Waiting w deps (t :: ts)) {u : Task} (hu : u ∈ ts) :
    isReady w u.id = false := by
  rw [Bool.eq_false_iff]
  intro hready
  obtain ⟨v, hv, -, -, hdone⟩ := isReady_iff.1 hready
  rw [h.queued u (List.mem_cons_of_mem _ hu)] at hv
  obtain rfl := Option.some.inj hv
  obtain ⟨x, hx, hdeps⟩ : ∃ x ∈ (t :: ts).dropLast, u.dependencies = [x.id] := by
    rw [List.dropLast_cons_of_ne_nil (List.ne_nil_of_mem hu)]
    rcases h.row.2.dependencies hu with hdeps | ⟨x, hx, hdeps⟩
    · exact ⟨t, List.mem_cons_self, hdeps⟩
    · exact ⟨x, List.mem_cons_of_mem _ hx, hdeps⟩
  rw [isUnblocked, hdeps, List.all_cons, h.new x hx] at hdone
  cases hdone

theorem Waiting.ready_eq (h : Waiting w deps (t :: ts)) :
    (frontier w ((t :: ts).map (·.id))).ready = [t.id] := by
  have hrest : ∀ claimed, (frontierFrom w claimed (ts.map (·.id))).ready = [] := by
    intro claimed
    rw [List.eq_nil_iff_forall_not_mem]
    intro id hid
    obtain ⟨u, hu, rfl⟩ := List.mem_map.1 ((sublist_ready w claimed _).subset hid)
    have hready := isReady_of_mem_ready hid
    rw [h.not_isReady hu] at hready
    cases hready
  rw [frontier, List.map_cons, ready_cons, if_pos h.isReady_head]
  cases fileOf? w t.id with
  | none => simp only [hrest]
  | some file => simp [hrest]

theorem Waiting.blocked_eq (h : Waiting w deps ts) : (frontier w (ts.map (·.id))).blocked = [] := by
  rw [frontier, Dispatch.blocked_eq, List.filterMap_eq_nil_iff]
  intro id hid
  obtain ⟨u, hu, rfl⟩ := List.mem_map.1 hid
  rw [Option.eq_none_iff_forall_ne_some]
  intro p hp
  obtain ⟨-, v, d, hv, -, hd⟩ := of_blockage? hp
  rw [h.queued u hu] at hv
  obtain rfl := Option.some.inj hv
  rw [h.failedDependency?_eq_none hu] at hd
  cases hd

/-- When the first task of a row is completed, the rest waits for it alone. -/
theorem Waiting.tail {b b' : Batch σ} (h : Waiting b.run.workflow deps (t :: ts))
    (hc : Completes [t.id] b b') : Waiting b'.run.workflow [t.id] ts := by
  obtain ⟨hnew, hdistinct⟩ := List.nodup_cons.1 (List.map_cons ▸ h.distinct)
  have hne : ∀ u ∈ ts, u.id ∉ [t.id] := fun u hu hid =>
    hnew (List.mem_map.2 ⟨u, hu, List.mem_singleton.1 hid⟩)
  constructor
  case queued =>
    intro u hu
    rw [hc.task?, h.queued u (List.mem_cons_of_mem _ hu), Option.map_some, if_neg (hne u hu)]
  case pending => exact fun u hu => h.pending u (List.mem_cons_of_mem _ hu)
  case distinct => exact hdistinct
  case row => exact h.row.2
  case new =>
    intro u hu
    have hmem := (List.dropLast_sublist _).subset hu
    have hold := h.new u (by
      rw [List.dropLast_cons_of_ne_nil (List.ne_nil_of_mem hmem)]
      exact List.mem_cons_of_mem _ hu)
    rw [Bool.eq_false_iff, Ne, hc.contains, hold]
    simpa using hne u hmem
  case done =>
    intro d hd
    exact (hc.contains d).2 (.inr hd)
  case unfailed =>
    intro d hd u hu
    rw [hc.task?] at hu
    obtain ⟨v, -, rfl⟩ := Option.map_eq_some_iff.1 hu
    rw [if_pos hd]
    simp

end

/-! ## The world around a wave -/

theorem outside_beginAll (s : RunState σ) (ids : List String) : (beginAll s ids).2.outside = s.outside := by
  induction ids generalizing s with
  | nil => rfl
  | cons id r ih =>
    rw [beginAll]
    cases hb : begin s id with
    | none => exact ih s
    | some p =>
      obtain ⟨⟨t, w⟩, -, rfl⟩ := Option.map_eq_some_iff.1 hb
      exact ih _

theorem outside_settleAll (fatal : Option Failure) (b : Batch σ) (fs : List Finished) :
    (settleAll c fatal b fs).2.run.outside = b.run.outside := by
  induction fs generalizing fatal b with
  | nil => rfl
  | cons f r ih =>
    rw [settleAll]
    cases c.result? f with
    | none => exact ih fatal b
    | some result => cases result <;> exact ih _ _

theorem outside_sweep (b : Batch σ) (ids : List String) : (sweep b ids).run.outside = b.run.outside := by
  induction ids generalizing b with
  | nil => rfl
  | cons id r ih =>
    rw [sweep]
    split
    · exact ih _
    · exact ih _

theorem outside_wave (b : Batch σ) (ready : List String) :
    (wave c b ready).2.run.outside = (attempt c b.run ready).2.outside := by
  rw [wave_eq]
  exact (outside_sweep _ _).trans (outside_settleAll _ _ _)

/-! ## A wave of one task -/

section
variable {b : Batch σ} {t : Task} (ht : b.run.workflow.task? t.id = some t)
include ht

theorem attempt_single {effort : Effort} {o' : σ} (hw : c.work t.begin b.run.outside = (effort, o')) :
    (attempt c b.run [t.id]).1 = [⟨t.begin, effort⟩] ∧ (attempt c b.run [t.id]).2.outside = o' := by
  have htasks : (beginAll b.run [t.id]).1 = [t.begin] := by
    rw [tasks_beginAll (List.nodup_singleton _)]
    simp [ht]
  have hall : c.workAll [t.begin] b.run.outside = ([⟨t.begin, effort⟩], o') := by
    simp only [Crew.workAll, hw]
  unfold attempt
  simp only [htasks, outside_beginAll, hall]
  exact ⟨List.perm_singleton.1 (c.finish.perm _), trivial⟩

/-- A round of a row takes its first task, and goes on unless that ends the run. -/
theorem wave_single {r : Except Failure WorkerReport} {o' : σ}
    (hallowed : (Move.start t.id).Allowed b.run)
    (hw : c.work t.begin b.run.outside = (.ends r, o')) (hr : ∀ e, r = .error e → e.isFatal = false) :
    ∃ b', wave c b [t.id] = (none, b') ∧ b'.run.outside = o' ∧ b'.run.workflow.isPending t.id = false ∧
      ∀ report, r = .ok report → Completes [t.id] b b' := by
  obtain ⟨hfinished, houtside⟩ := attempt_single ht hw
  have hall : ∀ id ∈ [t.id], (Move.start id).Allowed b.run := fun id hid =>
    List.mem_singleton.1 hid ▸ hallowed
  have hpending : (wave c b [t.id]).2.run.workflow.isPending t.id = false := by
    obtain ⟨ms, hms, hstarts, hclosed⟩ := leads_wave (c := c) (List.nodup_singleton t.id) hall
    have := hclosed t.id (by simp)
    by_contra hp
    rw [Bool.not_eq_false] at hp
    rw [WorkflowState.isOpen_of_isPending hp] at this
    cases this
  have ho := (outside_wave (c := c) b [t.id]).trans houtside
  cases r with
  | ok report =>
    obtain ⟨b', hb', -, hc⟩ := wave_of_reports (c := c) (List.nodup_singleton t.id) hall fun f hf => by
      rw [hfinished] at hf
      exact ⟨report, congrArg Finished.effort (List.mem_singleton.1 hf)⟩
    rw [hb'] at hpending ho
    exact ⟨b', hb', ho, hpending, fun _ _ => hc⟩
  | error e =>
    have hfatal : (wave c b [t.id]).1 = none := by
      rw [wave_eq, hfinished]
      simp [settleAll, Crew.result?, hr e rfl]
    exact ⟨_, Prod.ext hfatal rfl, ho, hpending, fun _ h => by cases h⟩

end

/-! ## Rounds of a row -/

section
variable {b : Batch σ} {deps : List String} {t : Task} {ts : List Task} {r : Except Failure WorkerReport}
  {o' : σ}

/-- A round of a row works on its first task. -/
theorem round_of_waiting (h : Waiting b.run.workflow deps (t :: ts))
    (hw : c.work t.begin b.run.outside = (.ends r, o')) (hr : ∀ e, r = .error e → e.isFatal = false) :
    ∃ b', round c b ((t :: ts).map (·.id)) =
        .goesOn b' (pendingOf b'.run.workflow ((t :: ts).map (·.id))) ∧ b'.run.outside = o' ∧
      b'.run.workflow.isPending t.id = false ∧ ∀ report, r = .ok report → Completes [t.id] b b' := by
  have hmem : t.id ∈ (frontier b.run.workflow ((t :: ts).map (·.id))).ready := by
    rw [h.ready_eq]
    exact List.mem_singleton_self _
  obtain ⟨b', hb', ho, hpending, hc⟩ := wave_single (h.queued t List.mem_cons_self)
    (allowed_of_mem_ready hmem) hw hr
  refine ⟨b', ?_, ho, hpending, hc⟩
  have hfail : failAll b (frontier b.run.workflow ((t :: ts).map (·.id))).blocked = b := by
    rw [h.blocked_eq]
    rfl
  unfold round
  simp only [hfail, h.ready_eq, List.isEmpty_cons, Bool.false_eq_true, if_false, hb']

theorem Waiting.isPending (h : Waiting b.run.workflow deps ts) {u : Task} (hu : u ∈ ts) :
    b.run.workflow.isPending u.id = true :=
  WorkflowState.isPending_iff.2 ⟨u, h.queued u hu, h.pending u hu⟩

theorem Waiting.pendingOf_eq (h : Waiting b.run.workflow deps ts) :
    pendingOf b.run.workflow (ts.map (·.id)) = ts.map (·.id) := by
  refine List.filter_eq_self.2 fun id hid => ?_
  obtain ⟨u, hu, rfl⟩ := List.mem_map.1 hid
  exact h.isPending hu

/-- A batch in a row is over when the work on its tasks is. -/
theorem rounds_of_relay {o o' : σ} (hrelay : Relay c ts o o') {n : Nat} (hn : ts.length ≤ n)
    (h : Waiting b.run.workflow deps ts) (ho : b.run.outside = o) :
    ∃ b', rounds c n b (ts.map (·.id)) = (.ok (), b') ∧ b'.run.outside = o' := by
  -- each round takes the first task that is left; the induction is on the work that is left
  induction hrelay generalizing b deps n with
  | nil o => cases n <;> exact ⟨b, rfl, ho⟩
  | last hw hr =>
    obtain ⟨n, rfl⟩ : ∃ m, n = m + 1 := ⟨n - 1, by simp at hn; omega⟩
    obtain ⟨b', hround, ho', hpending, -⟩ := round_of_waiting h (ho ▸ hw) hr
    refine ⟨b', ?_, ho'⟩
    have hnone : pendingOf b'.run.workflow (List.map (·.id) [‹Task›]) = [] := by
      simp [pendingOf, hpending]
    rw [rounds]
    simp only [hround, hnone]
    cases n <;> rfl
  | cons hw hs ih =>
    obtain ⟨n, rfl⟩ : ∃ m, n = m + 1 := ⟨n - 1, by simp at hn; omega⟩
    obtain ⟨b', hround, ho', hpending, hc⟩ := round_of_waiting h (ho ▸ hw) (fun e he => by cases he)
    have htail := h.tail (hc _ rfl)
    obtain ⟨b'', hrounds, ho''⟩ := ih (n := n) (by simp at hn; omega) htail ho'
    refine ⟨b'', ?_, ho''⟩
    rw [rounds]
    simp only [hround]
    rw [List.map_cons, pendingOf, List.filter_cons_of_neg (by simp [hpending])]
    have hrest := htail.pendingOf_eq
    unfold pendingOf at hrest
    rw [hrest]
    exact hrounds

end

/-- The tasks of a row are worked on one after another, and the batch ends where that leads. -/
theorem runBatch_of_relay {s : RunState σ} {deps : List String} {ts : List Task} {o' : σ}
    (h : Waiting s.workflow deps ts) (hrelay : Relay c ts s.outside o') :
    ∃ summary s', runBatch c (ts.map (·.id)) s = (.ok summary, s') ∧ s'.outside = o' := by
  have hpending : pendingOf s.workflow (ts.map (·.id)) = ts.map (·.id) :=
    Waiting.pendingOf_eq (b := ⟨s, .empty⟩) h
  obtain ⟨b', hb', ho⟩ := rounds_of_relay (b := ⟨s, .empty⟩) (n := (ts.map (·.id)).length) hrelay
    (by simp) h rfl
  refine ⟨b'.summary, b'.run, ?_, ho⟩
  rw [runBatch_eq, hpending, hb']
  rfl

/-! ## A row that breaks off -/

theorem wave_of_fatal {b : Batch σ} {t : Task} {e : Failure} {o' : σ} (ht : b.run.workflow.task? t.id = some t)
    (hw : c.work t.begin b.run.outside = (.ends (.error e), o')) (he : e.isFatal = true) :
    (wave c b [t.id]).1 = some e := by
  have hfinished : (Wave.mk b [t.id]).finished c = [⟨t.begin, .ends (.error e)⟩] := (attempt_single ht hw).1
  have hfatal : Dispatch.fatal? c ⟨t.begin, .ends (.error e)⟩ = some e := fatal?_eq_some.2 ⟨rfl, he⟩
  refine (Wave.fst_wave (c := c) ⟨b, [t.id]⟩).trans ?_
  unfold Wave.fatal?
  rw [hfinished, List.findSome?_cons, hfatal]

/-- A fatal failure of the first task ends the batch. -/
theorem runBatch_of_fatal {s : RunState σ} {deps : List String} {t : Task} {ts : List Task} {e : Failure} {o' : σ}
    (h : Waiting s.workflow deps (t :: ts)) (hw : c.work t.begin s.outside = (.ends (.error e), o'))
    (he : e.isFatal = true) : (runBatch c ((t :: ts).map (·.id)) s).1 = .error e := by
  have hpending : pendingOf s.workflow ((t :: ts).map (·.id)) = (t :: ts).map (·.id) :=
    Waiting.pendingOf_eq (b := ⟨s, .empty⟩) h
  have hfail : failAll (⟨s, .empty⟩ : Batch σ) (frontier s.workflow ((t :: ts).map (·.id))).blocked =
      ⟨s, .empty⟩ := by
    rw [h.blocked_eq]
    rfl
  have hwave : wave c (⟨s, .empty⟩ : Batch σ) [t.id] = (some e, (wave c (⟨s, .empty⟩ : Batch σ) [t.id]).2) :=
    Prod.ext (wave_of_fatal (h.queued t List.mem_cons_self) hw he) rfl
  have hround : ∃ b', round c (⟨s, .empty⟩ : Batch σ) ((t :: ts).map (·.id)) = .stopped e b' := by
    refine ⟨(wave c (⟨s, .empty⟩ : Batch σ) [t.id]).2, ?_⟩
    unfold round
    simp only [hfail, h.ready_eq, List.isEmpty_cons, Bool.false_eq_true, if_false]
    rw [hwave]
  obtain ⟨b', hb'⟩ := hround
  have hrounds : rounds c ((t :: ts).map (·.id)).length (⟨s, .empty⟩ : Batch σ) ((t :: ts).map (·.id)) =
      (.error e, b') := by
    have hlength : ((t :: ts).map (·.id)).length = ts.length + 1 := by simp
    rw [hlength, rounds, if_neg (by simp), hb']
  rw [runBatch_eq, hpending, hrounds]
  rfl

end BuildLoop.Dispatch
