import BuildLoop.Proofs.Run.Approved
import BuildLoop.Proofs.Run.Batch
import BuildLoop.Proofs.Run.Step

/-!
# What is told stays told

No step of a run takes an event back (`Remembers`): what is told in the first batch of the cycles is told
in the end. In the first batch of an approved plan a task starts, whoever works on it:

    e ∈ events after the first batch   →   e ∈ events after the cycles            (Remembers.of_cycles)
    validate ts = approved …           →   some task of ts starts               (exists_told_runBatch)
-/

namespace BuildLoop.Run

variable {σ α β : Type}

/-! ## Steps -/

/-- Whether a step forgets no event. -/
def Remembers (x : Step σ α) : Prop := ∀ e s, e ∈ s.log.entries → e ∈ (x.run s).2.log.entries

theorem keeps_told (c : Crew σ) (e : Event) : Dispatch.Keeps c fun s => e ∈ s.log.entries where
  begin s id t s' hb h := by
    obtain ⟨q, -, hq⟩ := Option.map_eq_some_iff.1 hb
    cases hq
    exact List.mem_append_left _ h
  work _ _ h := h
  complete _ _ _ h := List.mem_append_left _ h
  fail _ _ _ h := List.mem_append_left _ h

namespace Remembers

theorem pure (a : α) : Remembers (Pure.pure a : Step σ α) := fun _ _ h => h

theorem throw (e : Halt) : Remembers (MonadExcept.throw e : Step σ α) := fun _ _ h => h

theorem emit (e : Event) : Remembers (Run.emit e : Step σ Unit) := fun _ _ h =>
  List.mem_append_left _ h

theorem outside (act : Act σ α) : Remembers (Run.outside act) := fun _ _ h => h

theorem know (f : WorkflowState → Except Failure WorkflowState) :
    Remembers (Run.know f : Step σ Unit) := by
  intro e s h
  cases hf : f s.workflow with
  | ok w =>
    rw [run_know_of_ok hf]
    exact h
  | error x =>
    rw [run_know_of_error hf]
    exact h

theorem advance (g : Signal) : Remembers (Run.advance g : Step σ Stage) := by
  intro e s h
  cases hg : s.progress.fire g with
  | ok p =>
    rw [run_advance_of_ok hg]
    exact List.mem_append_left _ h
  | error x =>
    rw [run_advance_of_error hg]
    exact h

theorem dispatch (c : Crew σ) (ids : List String) : Remembers (Run.dispatch c ids) := fun e _ h =>
  (keeps_told c e).runBatch h ids

theorem get_bind {f : RunState σ → Step σ β} (h : ∀ s, Remembers (f s)) : Remembers (get >>= f) :=
  fun e s he => h s e s he

theorem of_bind {x : Step σ α} {f : α → Step σ β} {e : Event} {s : RunState σ}
    (hf : ∀ a, Remembers (f a)) (h : e ∈ (x.run s).2.log.entries) :
    e ∈ ((x >>= f).run s).2.log.entries := by
  cases hrun : x.run s with
  | mk r s' =>
    rw [hrun] at h
    cases r with
    | error x =>
      rw [run_bind_error hrun]
      exact h
    | ok a =>
      rw [run_bind_ok hrun]
      exact hf a e s' h

theorem bind {x : Step σ α} {f : α → Step σ β} (h : Remembers x) (hf : ∀ a, Remembers (f a)) :
    Remembers (x >>= f) := fun e s he => of_bind hf (h e s he)

variable (roles : Roles σ) (a : Architecture)

theorem verify : Remembers (Run.verify roles a) := by
  refine .bind (.emit _) fun _ => .bind (.outside _) fun v => .bind (.know _) fun _ => ?_
  by_cases hv : v.isPassed = true
  · simp only [hv, if_true]
    exact .bind (.emit _) fun _ => .advance _
  · simp only [hv]
    exact .bind (.emit _) fun _ => .advance _

theorem correct : Remembers (Run.correct roles a) := by
  refine .get_bind fun s => .bind (.outside _) fun d => ?_
  cases Plan.validateCorrective d.task s.workflow.queue with
  | rejected reasons => exact .throw _
  | approved _ =>
    exact .bind (.know _) fun _ => .bind (.emit _) fun _ => .bind (.know _) fun _ =>
      .bind (.advance _) fun _ => .pure _

theorem of_cycleOnce {batch : List String} {again : List String → Step σ Unit} {e : Event}
    {s : RunState σ} (hagain : ∀ ids, Remembers (again ids))
    (h : e ∈ (Dispatch.runBatch roles.crew batch s).2.log.entries) :
    e ∈ ((cycleOnce roles a batch again).run s).2.log.entries := by
  refine of_bind (fun _ => .bind (.advance _) fun _ => .bind (verify roles a) fun stage => ?_) h
  by_cases hs : stage = .diagnosing
  · simp only [hs, if_true]
    exact .bind (correct roles a) fun id => hagain [id]
  · simp only [hs, if_false]
    exact .pure _

theorem cycles (k : Nat) (batch : List String) : Remembers (Run.cycles roles a k batch) := by
  induction k generalizing batch with
  | zero => exact fun e s h => of_cycleOnce roles a (fun _ => .pure _) (dispatch roles.crew batch e s h)
  | succ k ih => exact fun e s h => of_cycleOnce roles a ih (dispatch roles.crew batch e s h)

/-- What is told in the first batch of some cycles is told in the end. -/
theorem of_cycles {k : Nat} {batch : List String} {e : Event} {s : RunState σ}
    (h : e ∈ (Dispatch.runBatch roles.crew batch s).2.log.entries) :
    e ∈ ((Run.cycles roles a k batch).run s).2.log.entries := by
  cases k with
  | zero => exact of_cycleOnce roles a (fun _ => .pure _) h
  | succ k => exact of_cycleOnce roles a (cycles roles a k) h

end Remembers

/-! ## A task starts -/

section
variable (c : Crew σ) {s : RunState σ}

/-- A wave tells that its first task starts. -/
theorem told_wave {b : Dispatch.Batch σ} {id : String} {ready : List String} {t : Task}
    (ht : b.run.workflow.task? id = some t) :
    .taskStarted t.begin ∈ (Dispatch.wave c b (id :: ready)).2.run.log.entries := by
  have hkeeps := keeps_told c (.taskStarted t.begin)
  obtain ⟨w, -, hb⟩ := Dispatch.begin_some ht
  have hbegun : .taskStarted t.begin ∈ (Dispatch.beginAll b.run (id :: ready)).2.log.entries := by
    simp only [Dispatch.beginAll, hb]
    exact hkeeps.beginAll (List.mem_append_right _ (List.mem_singleton_self _)) ready
  exact hkeeps.sweep (hkeeps.settleAll (b := ⟨(Dispatch.attempt c b.run (id :: ready)).2, _⟩)
    (hkeeps.workAll hbegun _) none _) _

/-- What is told in the first round of a batch is told in the end. -/
theorem told_rounds {n : Nat} {b : Dispatch.Batch σ} {ids : List String} {e : Event} (hne : ids ≠ [])
    (h : e ∈ (Dispatch.round c b ids).batch.run.log.entries) :
    e ∈ (Dispatch.rounds c (n + 1) b ids).2.run.log.entries := by
  have hids : ¬ ids.isEmpty = true := fun he => hne (List.isEmpty_iff.1 he)
  rw [Dispatch.rounds, if_neg hids]
  cases hround : Dispatch.round c b ids with
  | ended b' | stopped fatal b' =>
    rw [hround] at h
    exact h
  | goesOn b' rest =>
    rw [hround] at h
    exact (keeps_told c e).rounds h n rest

/-- In the first batch of an approved plan some task starts, whoever works on it. -/
theorem exists_told_runBatch {ts : List Task} (hts : Plan.Approvable ts) (hq : s.workflow.queue = ts)
    (hc : s.workflow.completed = .empty) :
    ∃ t ∈ ts, .taskStarted t.begin ∈
      (Dispatch.runBatch c (ts.map (·.id)) s).2.log.entries := by
  have hstart := Dispatch.standing_start hts hq hc
  have hne : ts.map (·.id) ≠ [] := fun h => hts.nonempty (List.map_eq_nil_iff.1 h)
  have hpending := Dispatch.pendingOf_pendingIds hts hq
  rw [Dispatch.pendingIds_eq hts hq] at hpending
  obtain ⟨id, ready, hready⟩ := List.exists_cons_of_ne_nil (hstart.ready_ne_nil hts hne)
  have hmem : id ∈ ts.map (·.id) :=
    (Dispatch.sublist_ready s.workflow [] _).subset (hready ▸ List.mem_cons_self)
  obtain ⟨t, ht, rfl⟩ := List.mem_map.1 hmem
  refine ⟨t, ht, ?_⟩
  obtain ⟨n, hn⟩ : ∃ n, (ts.map (·.id)).length = n + 1 :=
    Nat.exists_eq_succ_of_ne_zero fun h => hne (List.length_eq_zero_iff.1 h)
  rw [Dispatch.runBatch_eq, hpending, hn]
  refine told_rounds c hne ?_
  rw [Dispatch.batch_round_of_ne _ _ (hready ▸ List.cons_ne_nil _ _), hready,
    hstart.blocked_eq_nil hts]
  exact told_wave c (WorkflowState.task?_of_mem (hq ▸ hts.distinct) (hq ▸ ht))

end

end BuildLoop.Run
