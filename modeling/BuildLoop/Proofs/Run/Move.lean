import BuildLoop.Proofs.Workflow.Tasks
import BuildLoop.Run.Dispatch

/-!
# Moves of a batch

Whatever the work on a batch does to a run is a list of moves: a task starts, the crew works on it,
and it is completed or fails. A move is allowed where the dispatcher makes it: a task starts while it
is pending with all its dependencies completed, is worked on and completed while it is under way, and
fails while it is not over. Two counts follow for every list of allowed moves:

    (starts ms).count id  + [id is pending after] ≤ [id is pending before]      (count_starts_add_le)
    (settled ms).count id + [id is open after]    = [id is open before]         (count_settled_add)
-/

namespace BuildLoop.Dispatch

variable {σ : Type}

/-- One change that the work on a batch makes to a run. -/
inductive Move where
  /-- A task of the queue starts. -/
  | start (id : String)
  /-- The crew works on a started task. -/
  | work (t : Task)
  | complete (t : Task) (report : WorkerReport)
  | fail (id reason : String)

namespace Move

/-- The task that a move is about. -/
def id : Move → String
  | start id | fail id _ => id
  | work t | complete t _ => t.id

/-- The run after a move. -/
def play (c : Crew σ) (s : RunState σ) : Move → RunState σ
  | start id => ((begin s id).map (·.2)).getD s
  | work t => { s with outside := (c.work t s.outside).2 }
  | complete t report => completeTask s t report
  | fail id reason => failTask s id reason

/-- Whether the dispatcher may make a move. -/
def Allowed (s : RunState σ) : Move → Prop
  | start id => ∃ t, s.workflow.task? id = some t ∧ t.status = .pending ∧
      isUnblocked s.workflow t = true
  | work t | complete t _ => s.workflow.task? t.id = some t ∧ t.status = .inProgress
  | fail id _ => s.workflow.isOpen id = true

/-- What a move does to the task that the queue holds for an id. -/
def change (m : Move) (id : String) (t : Task) : Task :=
  match m with
  | start i => if id = i then t.begin else t
  | work _ => t
  | complete u _ => if id = u.id then t.complete else t
  | fail i reason => if id = i then t.fail reason else t

def started? : Move → Option String
  | start id => some id
  | _ => none

def worked? : Move → Option String
  | work t => some t.id
  | _ => none

def completed? : Move → Option String
  | complete t _ => some t.id
  | _ => none

def failure? : Move → Option (String × String)
  | fail id reason => some (id, reason)
  | _ => none

/-- The task that a move brings to its end. -/
def settled? : Move → Option String
  | complete t _ => some t.id
  | fail id _ => some id
  | _ => none

end Move

/-- The run after some moves. -/
def playAll (c : Crew σ) (s : RunState σ) (ms : List Move) : RunState σ := ms.foldl (Move.play c) s

/-- Whether each move is allowed where it is made. -/
def Legal (c : Crew σ) : RunState σ → List Move → Prop
  | _, [] => True
  | s, m :: r => m.Allowed s ∧ Legal c (m.play c s) r

/-- The ids that start, in order. -/
def starts (ms : List Move) : List String := ms.filterMap Move.started?

/-- The ids that the crew works on, in order. -/
def works (ms : List Move) : List String := ms.filterMap Move.worked?

/-- The ids that are completed, in order. -/
def completions (ms : List Move) : List String := ms.filterMap Move.completed?

/-- The ids that fail, in order, with the reason. -/
def failures (ms : List Move) : List (String × String) := ms.filterMap Move.failure?

/-- The ids that are completed or fail. -/
def settled (ms : List Move) : List String := completions ms ++ (failures ms).map (·.1)

/-! ## Lemmas -/

section
variable (ms ns : List Move)

theorem starts_append : starts (ms ++ ns) = starts ms ++ starts ns := List.filterMap_append

theorem works_append : works (ms ++ ns) = works ms ++ works ns := List.filterMap_append

theorem completions_append : completions (ms ++ ns) = completions ms ++ completions ns :=
  List.filterMap_append

theorem failures_append : failures (ms ++ ns) = failures ms ++ failures ns := List.filterMap_append

end

section
variable (c : Crew σ) (s : RunState σ)

@[simp] theorem playAll_nil : playAll c s [] = s := rfl

@[simp] theorem playAll_cons (m : Move) (ms : List Move) :
    playAll c s (m :: ms) = playAll c (m.play c s) ms := rfl

theorem playAll_append (ms ns : List Move) :
    playAll c s (ms ++ ns) = playAll c (playAll c s ms) ns := List.foldl_append

theorem legal_append {ms ns : List Move} :
    Legal c s (ms ++ ns) ↔ Legal c s ms ∧ Legal c (playAll c s ms) ns := by
  induction ms generalizing s with
  | nil => simp [Legal]
  | cons m r ih => simp only [List.cons_append, Legal, playAll_cons, ih, and_assoc]

theorem begin_some {s : RunState σ} {id : String} {t : Task} (h : s.workflow.task? id = some t) :
    ∃ w, s.workflow.begin id = some (t.begin, w) ∧
      begin s id = some (t.begin, { s with workflow := w }.emit (.taskStarted t.begin)) := by
  simp [begin, WorkflowState.begin, h]

theorem begin_none {s : RunState σ} {id : String} (h : s.workflow.task? id = none) :
    begin s id = none := by
  simp [begin, WorkflowState.begin, h]

theorem Move.change_of_ne {m : Move} {id : String} (h : m.id ≠ id) (t : Task) : m.change id t = t := by
  cases m with
  | start i | fail i _ => exact if_neg fun he => h he.symm
  | work u => rfl
  | complete u _ => exact if_neg fun he => h he.symm

/-- What the queue holds for an id after a move. -/
theorem task?_play (m : Move) (id : String) :
    (m.play c s).workflow.task? id = (s.workflow.task? id).map (m.change id) := by
  cases m with
  | start i =>
    cases hi : s.workflow.task? i with
    | none =>
      simp only [Move.play, begin_none hi, Option.map_none, Option.getD_none]
      by_cases hid : i = id
      · rw [← hid, hi]; rfl
      · rw [funext (Move.change_of_ne (m := .start i) hid)]
        simp
    | some t =>
      obtain ⟨w, hw, hb⟩ := begin_some hi
      simp only [Move.play, hb, Option.map_some, Option.getD_some, RunState.emit]
      exact WorkflowState.task?_begin hw id
  | work t =>
    show s.workflow.task? id = (s.workflow.task? id).map fun t => t
    simp
  | complete t report => exact s.workflow.task?_mergeCompleted_single t.complete id
  | fail i reason => exact s.workflow.task?_markFailed i reason id

theorem task?_play_of_ne {m : Move} {id : String} (h : m.id ≠ id) :
    (m.play c s).workflow.task? id = s.workflow.task? id := by
  rw [task?_play, funext (Move.change_of_ne h)]
  simp

/-- What is completed after a move. -/
theorem completed_play (m : Move) :
    (m.play c s).workflow.completed =
      match m with
      | .complete t _ => (s.workflow.completed.insert t.complete).1
      | _ => s.workflow.completed := by
  cases m with
  | start i =>
    cases hi : s.workflow.task? i with
    | none => simp [Move.play, begin_none hi]
    | some t =>
      obtain ⟨w, hw, hb⟩ := begin_some hi
      simp only [Move.play, hb, Option.map_some, Option.getD_some, RunState.emit]
      exact WorkflowState.completed_begin hw
  | work t => rfl
  | complete t report => exact s.workflow.completed_mergeCompleted_single t.complete
  | fail i reason => exact s.workflow.completed_markFailed i reason

theorem map_id_queue_play (m : Move) :
    (m.play c s).workflow.queue.map (·.id) = s.workflow.queue.map (·.id) := by
  cases m with
  | start i =>
    cases hi : s.workflow.task? i with
    | none => simp [Move.play, begin_none hi]
    | some t =>
      obtain ⟨w, hw, hb⟩ := begin_some hi
      simp only [Move.play, hb, Option.map_some, Option.getD_some, RunState.emit,
        WorkflowState.queue_begin hw]
      exact map_id_modifyTask Task.id_begin _
  | work t => rfl
  | complete t report =>
    have hq := s.workflow.queue_mergeCompleted_single t.complete
    exact (congrArg _ hq).trans (map_id_modifyTask Task.id_complete _)
  | fail i reason =>
    have hq := s.workflow.queue_markFailed i reason
    exact (congrArg _ hq).trans (map_id_modifyTask (Task.id_fail · reason) _)

/-- A move about another task leaves a task in its place. -/
theorem getElem?_queue_play {m : Move} {i : Nat} {t : Task} (h : s.workflow.queue[i]? = some t)
    (hne : m.id ≠ t.id) : (m.play c s).workflow.queue[i]? = some t := by
  cases m with
  | start j =>
    cases hj : s.workflow.task? j with
    | none => simpa [Move.play, begin_none hj] using h
    | some u =>
      obtain ⟨w, hw, hb⟩ := begin_some hj
      simp only [Move.play, hb, Option.map_some, Option.getD_some, RunState.emit,
        WorkflowState.queue_begin hw]
      exact getElem?_modifyTask_of_ne h hne.symm
  | work u => exact h
  | complete u report =>
    have hq := s.workflow.queue_mergeCompleted_single u.complete
    rw [show ((Move.complete u report).play c s).workflow.queue = _ from hq]
    exact getElem?_modifyTask_of_ne h hne.symm
  | fail j reason =>
    have hq := s.workflow.queue_markFailed j reason
    rw [show ((Move.fail j reason).play c s).workflow.queue = _ from hq]
    exact getElem?_modifyTask_of_ne h hne.symm

theorem getElem?_queue_playAll {ms : List Move} {i : Nat} {t : Task}
    (h : s.workflow.queue[i]? = some t) (hne : ∀ m ∈ ms, m.id ≠ t.id) :
    (playAll c s ms).workflow.queue[i]? = some t := by
  induction ms generalizing s with
  | nil => exact h
  | cons m r ih =>
    rw [playAll_cons]
    exact ih _ (getElem?_queue_play c s h (hne m List.mem_cons_self))
      fun n hn => hne n (List.mem_cons_of_mem _ hn)

/-! ## Counts -/

theorem starts_singleton (m : Move) : starts [m] = m.started?.toList := by cases m <;> rfl

theorem settled_singleton (m : Move) : settled [m] = m.settled?.toList := by cases m <;> rfl

theorem count_starts_cons (m : Move) (ms : List Move) (id : String) :
    (starts (m :: ms)).count id = (starts [m]).count id + (starts ms).count id := by
  rw [← List.count_append, ← starts_append, List.singleton_append]

theorem count_settled_cons (m : Move) (ms : List Move) (id : String) :
    (settled (m :: ms)).count id = (settled [m]).count id + (settled ms).count id := by
  rw [← List.singleton_append]
  simp only [settled, completions_append, failures_append, List.map_append, List.count_append]
  omega

variable {c s}

theorem isPending_after {m : Move} {id : String} {t : Task} (h : s.workflow.task? id = some t) :
    (m.play c s).workflow.isPending id = decide ((m.change id t).status = .pending) := by
  rw [WorkflowState.isPending, task?_play, h]
  rfl

theorem isOpen_after {m : Move} {id : String} {t : Task} (h : s.workflow.task? id = some t) :
    (m.play c s).workflow.isOpen id = !(m.change id t).status.isTerminal := by
  rw [WorkflowState.isOpen, task?_play, h]
  rfl

/-- A move that starts a task makes it pending no more, and no move makes one pending. -/
theorem count_starts_move {m : Move} (hm : m.Allowed s) (id : String) :
    (starts [m]).count id + ((m.play c s).workflow.isPending id).toNat ≤
      (s.workflow.isPending id).toNat := by
  by_cases hid : m.id = id
  · cases m with
    | start i =>
      obtain ⟨t, ht, hs, -⟩ := hm
      obtain rfl : i = id := hid
      have hp : s.workflow.isPending i = true := WorkflowState.isPending_iff.2 ⟨t, ht, hs⟩
      rw [isPending_after ht, hp]
      simp [starts_singleton, Move.started?, Move.change]
    | work t =>
      show 0 + (s.workflow.isPending id).toNat ≤ _
      omega
    | complete t report =>
      obtain rfl : t.id = id := hid
      rw [isPending_after hm.1]
      simp [starts_singleton, Move.started?, Move.change]
    | fail i reason =>
      obtain ⟨t, ht, -⟩ := WorkflowState.isOpen_iff.1 hm
      obtain rfl : i = id := hid
      rw [isPending_after ht]
      simp [starts_singleton, Move.started?, Move.change]
  · have hstart : (starts [m]).count id = 0 := by
      rw [starts_singleton]
      cases m with
      | start i => exact List.count_eq_zero.2 fun h => hid (List.mem_singleton.1 h).symm
      | _ => rfl
    simp only [WorkflowState.isPending, task?_play_of_ne c s hid, hstart]
    omega

/-- A move that settles a task closes it, and no other move opens or closes one. -/
theorem count_settled_move {m : Move} (hm : m.Allowed s) (id : String) :
    (settled [m]).count id + ((m.play c s).workflow.isOpen id).toNat =
      (s.workflow.isOpen id).toNat := by
  by_cases hid : m.id = id
  · cases m with
    | start i =>
      obtain ⟨t, ht, hs, -⟩ := hm
      obtain rfl : i = id := hid
      have ho : s.workflow.isOpen i = true := WorkflowState.isOpen_iff.2 ⟨t, ht, by rw [hs]; rfl⟩
      rw [isOpen_after ht, ho]
      simp [settled_singleton, Move.settled?, Move.change, Status.isTerminal]
    | work t =>
      show 0 + (s.workflow.isOpen id).toNat = _
      omega
    | complete t report =>
      obtain rfl : t.id = id := hid
      have ho : s.workflow.isOpen t.id = true :=
        WorkflowState.isOpen_iff.2 ⟨t, hm.1, by rw [hm.2]; rfl⟩
      rw [isOpen_after hm.1, ho]
      simp [settled_singleton, Move.settled?, Move.change, Status.isTerminal]
    | fail i reason =>
      have ho : s.workflow.isOpen i = true := hm
      obtain ⟨t, ht, -⟩ := WorkflowState.isOpen_iff.1 ho
      obtain rfl : i = id := hid
      rw [isOpen_after ht, ho]
      simp [settled_singleton, Move.settled?, Move.change, Status.isTerminal]
  · have hsettled : (settled [m]).count id = 0 := by
      rw [settled_singleton]
      cases m with
      | complete _ _ | fail _ _ =>
        exact List.count_eq_zero.2 fun h => hid (List.mem_singleton.1 h).symm
      | _ => rfl
    simp only [WorkflowState.isOpen, task?_play_of_ne c s hid, hsettled]
    omega

/-- Allowed moves start a task at most once, and only one that was pending. -/
theorem count_starts_add_le {ms : List Move} (h : Legal c s ms) (id : String) :
    (starts ms).count id + ((playAll c s ms).workflow.isPending id).toNat ≤
      (s.workflow.isPending id).toNat := by
  induction ms generalizing s with
  | nil => simp [starts]
  | cons m r ih =>
    have hm := count_starts_move (c := c) h.1 id
    have hr := ih h.2
    rw [count_starts_cons, playAll_cons]
    omega

/-- Allowed moves settle a task once if they close it, and not otherwise. -/
theorem count_settled_add {ms : List Move} (h : Legal c s ms) (id : String) :
    (settled ms).count id + ((playAll c s ms).workflow.isOpen id).toNat =
      (s.workflow.isOpen id).toNat := by
  induction ms generalizing s with
  | nil => simp [settled, completions, failures]
  | cons m r ih =>
    have hm := count_settled_move (c := c) h.1 id
    have hr := ih h.2
    rw [count_settled_cons, playAll_cons]
    omega

theorem nodup_starts {ms : List Move} (h : Legal c s ms) : (starts ms).Nodup := by
  rw [List.nodup_iff_count]
  intro id
  have hc := count_starts_add_le h id
  have hp : (s.workflow.isPending id).toNat ≤ 1 := Bool.toNat_le _
  omega

theorem isPending_playAll_of_not {ms : List Move} {id : String} (h : Legal c s ms)
    (hid : s.workflow.isPending id = false) : (playAll c s ms).workflow.isPending id = false := by
  have hc := count_starts_add_le h id
  rw [hid] at hc
  exact Bool.toNat_eq_zero.1 (by simp only [Bool.toNat_false] at hc; omega)

theorem isOpen_playAll_of_not {ms : List Move} {id : String} (h : Legal c s ms)
    (hid : s.workflow.isOpen id = false) : (playAll c s ms).workflow.isOpen id = false := by
  have hc := count_settled_add h id
  rw [hid] at hc
  exact Bool.toNat_eq_zero.1 (by simp only [Bool.toNat_false] at hc; omega)

/-! ## Moves about different tasks -/

theorem contains_completed_play {m : Move} {id : String}
    (h : s.workflow.completed.contains id = true) :
    (m.play c s).workflow.completed.contains id = true := by
  rw [completed_play]
  cases m with
  | complete t _ => exact CompletedTasks.contains_insert.2 (.inl h)
  | _ => exact h

/-- A move stays allowed after one about another task. -/
theorem allowed_play {m n : Move} (h : m.Allowed s) (hne : n.id ≠ m.id) : m.Allowed (n.play c s) := by
  cases m with
  | start i =>
    obtain ⟨t, ht, hs, hd⟩ := h
    refine ⟨t, (task?_play_of_ne c s hne).trans ht, hs, ?_⟩
    rw [isUnblocked, List.all_eq_true] at hd ⊢
    exact fun d hmem => contains_completed_play (hd d hmem)
  | work t | complete t _ => exact ⟨(task?_play_of_ne c s hne).trans h.1, h.2⟩
  | fail i reason =>
    show (n.play c s).workflow.isOpen i = true
    have hi : n.id ≠ i := hne
    rw [WorkflowState.isOpen, task?_play_of_ne c s hi]
    exact h

theorem allowed_playAll {m : Move} {ms : List Move} (h : m.Allowed s) (hne : ∀ n ∈ ms, n.id ≠ m.id) :
    m.Allowed (playAll c s ms) := by
  induction ms generalizing s with
  | nil => exact h
  | cons n r ih =>
    exact ih (allowed_play h (hne n List.mem_cons_self)) fun k hk =>
      hne k (List.mem_cons_of_mem _ hk)

/-- Allowed moves about different tasks are allowed one after another. -/
theorem legal_of_nodup {ms : List Move} (hn : (ms.map Move.id).Nodup) (h : ∀ m ∈ ms, m.Allowed s) :
    Legal c s ms := by
  induction ms generalizing s with
  | nil => trivial
  | cons m r ih =>
    rw [List.map_cons, List.nodup_cons] at hn
    refine ⟨h m List.mem_cons_self, ih hn.2 fun n hmem => ?_⟩
    refine allowed_play (h n (List.mem_cons_of_mem _ hmem)) fun he => hn.1 ?_
    exact he ▸ List.mem_map_of_mem hmem

theorem task?_playAll_of_notMem {ms : List Move} {id : String} (h : id ∉ ms.map Move.id) :
    (playAll c s ms).workflow.task? id = s.workflow.task? id := by
  induction ms generalizing s with
  | nil => rfl
  | cons m r ih =>
    rw [List.map_cons, List.mem_cons, not_or] at h
    rw [playAll_cons, ih h.2, task?_play_of_ne c s fun he => h.1 he.symm]

/-- Of moves about different tasks, one alone changes its task. -/
theorem task?_playAll_of_mem {ms : List Move} {m : Move} (hn : (ms.map Move.id).Nodup) (h : m ∈ ms) :
    (playAll c s ms).workflow.task? m.id = (s.workflow.task? m.id).map (m.change m.id) := by
  induction ms generalizing s with
  | nil => simp at h
  | cons n r ih =>
    rw [List.map_cons, List.nodup_cons] at hn
    rw [playAll_cons]
    rcases List.mem_cons.1 h with rfl | hr
    · rw [task?_playAll_of_notMem hn.1, task?_play]
    · have hne : n.id ≠ m.id := fun he => hn.1 (he ▸ List.mem_map_of_mem hr)
      rw [ih hn.2 hr, task?_play_of_ne c s hne]

/-! ## Settled tasks -/

theorem isOpen_of_allowed {m : Move} {id : String} (h : m.Allowed s) (hid : m.id = id) :
    s.workflow.isOpen id = true := by
  subst hid
  cases m with
  | start i =>
    obtain ⟨t, ht, hs, -⟩ := h
    exact WorkflowState.isOpen_iff.2 ⟨t, ht, by rw [hs]; rfl⟩
  | work t | complete t _ => exact WorkflowState.isOpen_iff.2 ⟨t, h.1, by rw [h.2]; rfl⟩
  | fail i reason => exact h

/-- No allowed move is about a task that is over. -/
theorem task?_playAll_of_not_open {ms : List Move} {id : String} (h : Legal c s ms)
    (hid : s.workflow.isOpen id = false) :
    (playAll c s ms).workflow.task? id = s.workflow.task? id := by
  induction ms generalizing s with
  | nil => rfl
  | cons m r ih =>
    have hne : m.id ≠ id := fun he => by
      rw [isOpen_of_allowed h.1 he] at hid
      cases hid
    have htask := task?_play_of_ne c s hne
    rw [playAll_cons, ih h.2 (by rw [WorkflowState.isOpen, htask]; exact hid), htask]

/-- A completed task is found completed at the end. -/
theorem task?_of_mem_completions {ms : List Move} {id : String} (h : Legal c s ms)
    (hid : id ∈ completions ms) :
    ∃ t, (playAll c s ms).workflow.task? id = some t ∧ t.status = .completed := by
  induction ms generalizing s with
  | nil => simp [completions] at hid
  | cons m r ih =>
    rw [← List.singleton_append, completions_append, List.mem_append] at hid
    rcases hid with hm | hr
    · cases m with
      | complete t report =>
        obtain rfl : id = t.id := List.mem_singleton.1 hm
        have htask : ((Move.complete t report).play c s).workflow.task? t.id = some t.complete := by
          rw [task?_play, h.1.1]
          simp [Move.change]
        refine ⟨t.complete, ?_, rfl⟩
        rw [playAll_cons, task?_playAll_of_not_open h.2, htask]
        rw [WorkflowState.isOpen, htask]
        rfl
      | _ => simp [completions, Move.completed?] at hm
    · exact ih h.2 hr

/-- A failed task is found failed at the end, for the reason it failed for. -/
theorem task?_of_mem_failures {ms : List Move} {p : String × String} (h : Legal c s ms)
    (hp : p ∈ failures ms) :
    ∃ t, (playAll c s ms).workflow.task? p.1 = some t ∧ t.status = .failed ∧
      t.failure = some p.2 := by
  induction ms generalizing s with
  | nil => simp [failures] at hp
  | cons m r ih =>
    rw [← List.singleton_append, failures_append, List.mem_append] at hp
    rcases hp with hm | hr
    · cases m with
      | fail i reason =>
        obtain rfl : p = (i, reason) := List.mem_singleton.1 hm
        have hopen : s.workflow.isOpen i = true := h.1
        obtain ⟨t, ht, -⟩ := WorkflowState.isOpen_iff.1 hopen
        have htask : ((Move.fail i reason).play c s).workflow.task? i = some (t.fail reason) := by
          rw [task?_play, ht]
          simp [Move.change]
        refine ⟨t.fail reason, ?_, rfl, rfl⟩
        rw [playAll_cons, task?_playAll_of_not_open h.2, htask]
        rw [WorkflowState.isOpen, htask]
        rfl
      | _ => simp [failures, Move.failure?] at hm
    · exact ih h.2 hr

end

end BuildLoop.Dispatch
