import BuildLoop.Proofs.Run.Round

/-!
# Batches

A batch is a sequence of rounds that ends: when nothing remains, when nothing is ready, or at a fatal
failure. The bound on the number of rounds is never what ends it. Every round makes allowed moves, so
the whole batch does:

    runBatch c ids s = (ok b, s')   →   b.completed ++ the failed ids of b is a permutation of the
                                        ids that were pending                       (perm_settled)

The work on a batch changes a run in four ways: a task starts, a task is worked on, a task is
completed, a task fails. What each of these keeps, the whole batch keeps, whatever the ids are:

    Keeps c P   →   P s   →   P (runBatch c ids s).2                            (Keeps.runBatch)
-/

namespace BuildLoop.Dispatch

section

variable {σ : Type} {c : Crew σ}

/-- One batch and what remains of it lead to another by rounds that go on. -/
inductive Rounds (c : Crew σ) : Batch σ → List String → Batch σ → List String → Prop
  | refl (b : Batch σ) (ids : List String) : Rounds c b ids b ids
  | step {b b₁ b₂ : Batch σ} {ids ids₁ ids₂ : List String} :
      round c b ids = .goesOn b₁ ids₁ → Rounds c b₁ ids₁ b₂ ids₂ → Rounds c b ids b₂ ids₂

theorem Rounds.append {b b' b'' : Batch σ} {ids ids' ids'' : List String}
    (h : Rounds c b ids b' ids') (h' : Rounds c b' ids' b'' ids'') : Rounds c b ids b'' ids'' := by
  induction h with
  | refl b ids => exact h'
  | step hround _ ih => exact .step hround (ih h')

/-- How a batch ends after its last round that went on. -/
inductive Ends (c : Crew σ) (b : Batch σ) : List String → Except Failure Unit × Batch σ → Prop
  | done : Ends c b [] (.ok (), b)
  | ended {ids : List String} {b' : Batch σ} : round c b ids = .ended b' → Ends c b ids (.ok (), b')
  | stopped {ids : List String} {fatal : Failure} {b' : Batch σ} :
      round c b ids = .stopped fatal b' → Ends c b ids (.error fatal, b')

section
variable {b b' : Batch σ} {ids ids' : List String} (hn : ids.Nodup)
  (hp : ∀ id ∈ ids, b.run.workflow.isPending id = true)
include hn hp

/-- What a round that goes on keeps. -/
theorem leads_goesOn (h : round c b ids = .goesOn b' ids') :
    ∃ ms, Leads c ids ms b b' ∧ ids'.Nodup ∧ (∀ id ∈ ids', b'.run.workflow.isPending id = true) ∧
      (∀ id ∈ ids', id ∈ ids) ∧ ∀ id ∈ ids, id ∈ ids' ∨ b'.run.workflow.isOpen id = false := by
  obtain ⟨ms, hl, -, -, hkept, -⟩ := leads_round (c := c) hn hp
  rw [h] at hl hkept
  obtain ⟨-, rfl⟩ := round_goesOn h
  refine ⟨ms, hl, hn.filter _, fun id hid => (List.mem_filter.1 hid).2,
    fun id hid => (List.mem_filter.1 hid).1, fun id hid => ?_⟩
  rcases hkept id hid with hpend | hclose
  · exact .inl (List.mem_filter.2 ⟨hid, hpend⟩)
  · exact .inr hclose

/-- What any number of rounds keeps. -/
theorem Rounds.leads (h : Rounds c b ids b' ids') :
    ∃ ms, Leads c ids ms b b' ∧ ids'.Nodup ∧ (∀ id ∈ ids', b'.run.workflow.isPending id = true) ∧
      (∀ id ∈ ids', id ∈ ids) ∧ ∀ id ∈ ids, id ∈ ids' ∨ b'.run.workflow.isOpen id = false := by
  induction h with
  | refl b ids => exact ⟨[], .refl ids b, hn, hp, fun _ => id, fun _ => .inl⟩
  | @step b b₁ b₂ ids ids₁ ids₂ hround _ ih =>
    obtain ⟨ms, hl, hn₁, hp₁, hsub₁, hkept₁⟩ := leads_goesOn hn hp hround
    obtain ⟨ns, hl', hn₂, hp₂, hsub₂, hkept₂⟩ := ih hn₁ hp₁
    refine ⟨ms ++ ns, hl.append (hl'.mono hsub₁), hn₂, hp₂, fun id hid => hsub₁ _ (hsub₂ _ hid),
      fun id hid => ?_⟩
    rcases hkept₁ id hid with hmem | hclose
    · exact hkept₂ id hmem
    · exact .inr (hl'.not_open hclose)

/-- With at least as many rounds allowed as tasks remain, the bound is never reached. -/
theorem ends_rounds {n : Nat} (hlen : ids.length ≤ n) :
    ∃ b' ids', Rounds c b ids b' ids' ∧ Ends c b' ids' (rounds c n b ids) := by
  induction n generalizing b ids with
  | zero =>
    obtain rfl := List.length_eq_zero_iff.1 (Nat.le_zero.1 hlen)
    exact ⟨b, [], .refl b [], .done⟩
  | succ n ih =>
    rw [rounds]
    by_cases he : ids.isEmpty = true
    · obtain rfl := List.isEmpty_iff.1 he
      exact ⟨b, [], .refl b [], .done⟩
    · rw [if_neg he]
      cases hround : round c b ids with
      | ended b₁ => exact ⟨b, ids, .refl b ids, .ended hround⟩
      | stopped fatal b₁ => exact ⟨b, ids, .refl b ids, .stopped hround⟩
      | goesOn b₁ ids₁ =>
        have hlt := length_lt_of_goesOn hn hp hround
        obtain ⟨-, -, hn₁, hp₁, -⟩ := leads_goesOn hn hp hround
        obtain ⟨b₂, ids₂, hr, hend⟩ := ih hn₁ hp₁ (by omega)
        exact ⟨b₂, ids₂, .step hround hr, hend⟩

/-- The moves of a whole batch: if it is not stopped, no task of it stays open. -/
theorem leads_rounds {n : Nat} (hlen : ids.length ≤ n) :
    ∃ ms, Leads c ids ms b (rounds c n b ids).2 ∧
      ((rounds c n b ids).1 = .ok () →
        ∀ id ∈ ids, (rounds c n b ids).2.run.workflow.isOpen id = false) := by
  obtain ⟨b₁, ids₁, hr, hend⟩ := ends_rounds (c := c) hn hp hlen
  obtain ⟨ms, hl, hn₁, hp₁, hsub, hkept⟩ := hr.leads hn hp
  generalize rounds c n b ids = r at hend
  cases hend with
  | done => exact ⟨ms, hl, fun _ id hid => (hkept id hid).resolve_left List.not_mem_nil⟩
  | @ended _ b₂ hround =>
    obtain ⟨ns, hl', -, -, -, hall⟩ := leads_round (c := c) hn₁ hp₁
    rw [hround] at hl' hall
    refine ⟨ms ++ ns, hl.append (hl'.mono hsub), fun _ id hid => ?_⟩
    rcases hkept id hid with hmem | hclose
    · exact hall (round_ended hround) id hmem
    · exact hl'.not_open hclose
  | @stopped _ fatal b₂ hround =>
    obtain ⟨ns, hl', -⟩ := leads_round (c := c) hn₁ hp₁
    rw [hround] at hl'
    exact ⟨ms ++ ns, hl.append (hl'.mono hsub), fun h => by cases h⟩

end

theorem mem_pendingOf {w : WorkflowState} {ids : List String} {id : String} :
    id ∈ pendingOf w ids ↔ id ∈ ids ∧ w.isPending id = true := List.mem_filter

theorem runBatch_eq (c : Crew σ) (ids : List String) (s : RunState σ) :
    runBatch c ids s =
      let r := rounds c (pendingOf s.workflow ids).length ⟨s, .empty⟩ (pendingOf s.workflow ids)
      (r.1.map fun _ => r.2.summary, r.2.run) := by
  unfold runBatch
  simp only
  split <;> next hr => rw [hr]; rfl

/-- The moves of a batch of different ids. -/
theorem leads_runBatch (c : Crew σ) {ids : List String} (hids : ids.Nodup) (s : RunState σ) :
    ∃ ms, (runBatch c ids s).2 = playAll c s ms ∧ Legal c s ms ∧ works ms = starts ms ∧
      (∀ m ∈ ms, m.id ∈ pendingOf s.workflow ids) ∧
      ∀ summary, (runBatch c ids s).1 = .ok summary →
        summary.completed = completions ms ∧ summary.failed = failures ms ∧
        ∀ id ∈ pendingOf s.workflow ids, (playAll c s ms).workflow.isOpen id = false := by
  have hn : (pendingOf s.workflow ids).Nodup := hids.filter _
  obtain ⟨ms, hl, hok⟩ := leads_rounds (c := c) (b := ⟨s, .empty⟩) hn
    (fun id hid => (mem_pendingOf.1 hid).2) (Nat.le_refl _)
  rw [runBatch_eq]
  generalize rounds c _ _ _ = r at hl hok
  dsimp only
  refine ⟨ms, hl.run, hl.legal, hl.works, hl.about, fun summary h => ?_⟩
  cases hr : r.1 with
  | error e =>
    rw [hr] at h
    cases h
  | ok u =>
    rw [hr] at h
    obtain rfl : r.2.summary = summary := by simpa [Except.map] using h
    refine ⟨hl.completed, hl.failed, fun id hid => ?_⟩
    rw [← hl.run]
    exact hok hr id hid

/-! ## Accounting -/

/-- What the moves `ms` tell of the work on a batch. -/
structure Account (c : Crew σ) (ids : List String) (s : RunState σ) (ms : List Move) : Prop where
  /-- The moves are the whole work. -/
  run : (runBatch c ids s).2 = playAll c s ms
  /-- No task starts twice, and each that starts is worked on once. -/
  once : (starts ms).Nodup ∧ works ms = starts ms
  /-- A task starts with all its dependencies among the completed tasks. -/
  unblocked : ∀ before id after, ms = before ++ .start id :: after →
    ∃ t, (playAll c s before).workflow.task? id = some t ∧ t.status = .pending ∧
      ∀ d ∈ t.dependencies, (playAll c s before).workflow.completed.contains d = true
  /-- Each task that was pending is counted once, -/
  counted : ∀ summary, (runBatch c ids s).1 = .ok summary →
    (summary.completed ++ summary.failed.map (·.1)).Perm (pendingOf s.workflow ids)
  /-- as completed -/
  completed : ∀ summary, (runBatch c ids s).1 = .ok summary → ∀ id ∈ summary.completed,
    ∃ t, (runBatch c ids s).2.workflow.task? id = some t ∧ t.status = .completed
  /-- or as failed for a reason. -/
  failed : ∀ summary, (runBatch c ids s).1 = .ok summary → ∀ p ∈ summary.failed,
    ∃ t, (runBatch c ids s).2.workflow.task? p.1 = some t ∧ t.status = .failed ∧
      t.failure = some p.2
  /-- Every other task stays as it was, in its place. -/
  kept : ∀ (i : Nat) t, s.workflow.queue[i]? = some t → t.id ∉ pendingOf s.workflow ids →
    (runBatch c ids s).2.workflow.queue[i]? = some t
  length : (runBatch c ids s).2.workflow.queue.length = s.workflow.queue.length

theorem map_id_queue_playAll (c : Crew σ) (s : RunState σ) (ms : List Move) :
    (playAll c s ms).workflow.queue.map (·.id) = s.workflow.queue.map (·.id) := by
  induction ms generalizing s with
  | nil => rfl
  | cons m r ih => rw [playAll_cons, ih, map_id_queue_play]

/-- What settles among allowed moves is what they close. -/
theorem perm_settled {s : RunState σ} {ms : List Move} {ids : List String} (h : Legal c s ms)
    (hn : ids.Nodup) (hopen : ∀ id ∈ ids, s.workflow.isOpen id = true)
    (habout : ∀ m ∈ ms, m.id ∈ ids)
    (hclosed : ∀ id ∈ ids, (playAll c s ms).workflow.isOpen id = false) :
    (settled ms).Perm ids := by
  rw [List.perm_iff_count]
  intro id
  have hc := count_settled_add h id
  rw [hn.count]
  by_cases hid : id ∈ ids
  · rw [hclosed id hid, hopen id hid] at hc
    rw [if_pos hid]
    simpa using hc
  · have hsame : (playAll c s ms).workflow.task? id = s.workflow.task? id := by
      refine task?_playAll_of_notMem fun hm => ?_
      obtain ⟨m, hmem, rfl⟩ := List.mem_map.1 hm
      exact hid (habout m hmem)
    rw [WorkflowState.isOpen, hsame, ← WorkflowState.isOpen] at hc
    rw [if_neg hid]
    omega

/-- Whatever workers do and in whichever order they finish, a batch starts a task at most once and
only after its dependencies, and if no failure is fatal, each of its pending tasks comes to one end. -/
theorem runBatch_settles (c : Crew σ) (ids : List String) (hids : ids.Nodup) (s : RunState σ) :
    ∃ ms, Account c ids s ms := by
  obtain ⟨ms, hrun, hlegal, hworks, habout, hok⟩ := leads_runBatch c hids s
  refine ⟨ms, ?_⟩
  constructor
  case run => exact hrun
  case once => exact ⟨nodup_starts hlegal, hworks⟩
  case unblocked =>
    intro before id after hms
    rw [hms] at hlegal
    obtain ⟨t, ht, hs, hd⟩ := ((legal_append c s).1 hlegal).2.1
    exact ⟨t, ht, hs, List.all_eq_true.1 hd⟩
  case counted =>
    intro summary h
    obtain ⟨hc, hf, hclosed⟩ := hok summary h
    rw [hc, hf, ← settled]
    exact perm_settled hlegal (hids.filter _)
      (fun id hid => WorkflowState.isOpen_of_isPending (mem_pendingOf.1 hid).2) habout hclosed
  case completed =>
    intro summary h id hid
    rw [hrun]
    exact task?_of_mem_completions hlegal ((hok summary h).1 ▸ hid)
  case failed =>
    intro summary h p hp
    rw [hrun]
    exact task?_of_mem_failures hlegal ((hok summary h).2.1 ▸ hp)
  case kept =>
    intro i t ht hid
    rw [hrun]
    exact getElem?_queue_playAll c s ht fun m hm he => hid (he ▸ habout m hm)
  case length =>
    have h := congrArg List.length (map_id_queue_playAll c s ms)
    rw [hrun]
    simpa using h

/-- A crew that completes every task but one, at which its worker breaks down. -/
def crewBreakingAt (id : String) : Crew Unit where
  worker? _ := some fun t o => (if t.id = id then .panics else .ends (.ok (.new t.id)), o)
  finish := .slots 1
  taskMilliseconds := 0

/-- A task on each of the two before it, and one on itself. -/
def linkedTasks : List Task :=
  [.new "a" "Create main.py" .backend,
    { Task.new "b" "Create app.py" .backend with dependencies := ["a"] },
    { Task.new "c" "Create app.py" .backend with dependencies := ["a", "b"] },
    { Task.new "d" "Create index.html" .frontend with dependencies := ["d"] }]

/-- A run that has set its queue and done nothing else. -/
def runOf (ts : List Task) : RunState Unit :=
  (RunState.start "notes" "/notes" 0 false ()).know fun w => { w with queue := ts }.bump

theorem runBatch_settles_linked :
    ["a", "b", "c", "d"].Nodup ∧
      (runBatch (crewBreakingAt "b") ["a", "b", "c", "d"] (runOf linkedTasks)).1 =
        .ok ⟨["a"], [("b", "worker panicked"), ("c", "dependency b failed"),
          ("d", "dependencies can never be satisfied")], 2⟩ ∧
      ∃ ms, Account (crewBreakingAt "b") ["a", "b", "c", "d"] (runOf linkedTasks) ms :=
  ⟨by decide, by decide +kernel, runBatch_settles _ _ (by decide) _⟩

end

/-! ## What a batch keeps -/

variable {σ : Type}

/-- Whether a property of a run holds on through every change that a batch makes. -/
structure Keeps (c : Crew σ) (P : RunState σ → Prop) : Prop where
  begin : ∀ s id t s', Dispatch.begin s id = some (t, s') → P s → P s'
  work : ∀ s t, P s → P { s with outside := (c.work t s.outside).2 }
  complete : ∀ s t report, P s → P (completeTask s t report)
  fail : ∀ s id reason, P s → P (failTask s id reason)

namespace Keeps

variable {c : Crew σ} {P : RunState σ → Prop} (h : Keeps c P)
include h

theorem failAll {b : Batch σ} (hb : P b.run) (l : List (String × String)) :
    P (failAll b l).run := by
  induction l generalizing b with
  | nil => exact hb
  | cons p r ih => exact ih (h.fail _ p.1 p.2 hb)

theorem beginAll {s : RunState σ} (hs : P s) (ids : List String) : P (beginAll s ids).2 := by
  induction ids generalizing s with
  | nil => exact hs
  | cons id r ih =>
    unfold Dispatch.beginAll
    cases hb : Dispatch.begin s id with
    | none => exact ih hs
    | some p => exact ih (h.begin s id p.1 p.2 hb hs)

theorem workAll {s : RunState σ} (hs : P s) (ts : List Task) :
    P { s with outside := (c.workAll ts s.outside).2 } := by
  induction ts generalizing s with
  | nil => exact hs
  | cons t r ih => exact ih (h.work s t hs)

theorem attempt {s : RunState σ} (hs : P s) (ready : List String) :
    P (attempt c s ready).2 :=
  h.workAll (h.beginAll hs ready) _

theorem settleAll {b : Batch σ} (hb : P b.run) (fatal : Option Failure) (fs : List Finished) :
    P (settleAll c fatal b fs).2.run := by
  induction fs generalizing fatal b with
  | nil => exact hb
  | cons f r ih =>
    unfold Dispatch.settleAll
    cases c.result? f with
    | none => exact ih hb fatal
    | some result =>
      cases result with
      | ok report => exact ih (h.complete _ f.task report hb) fatal
      | error e => exact ih (h.fail _ f.task.id e.message hb) _

theorem sweep {b : Batch σ} (hb : P b.run) (ids : List String) : P (sweep b ids).run := by
  induction ids generalizing b with
  | nil => exact hb
  | cons id r ih =>
    unfold Dispatch.sweep
    split
    · exact ih (h.fail _ id _ hb)
    · exact ih hb

theorem wave {b : Batch σ} (hb : P b.run) (ready : List String) : P (wave c b ready).2.run :=
  h.sweep (h.settleAll (b := ⟨(Dispatch.attempt c b.run ready).2, _⟩) (h.attempt hb ready) none _)
    ready

theorem round {b : Batch σ} (hb : P b.run) (ids : List String) : P (round c b ids).batch.run := by
  have hf := h.failAll hb (frontier b.run.workflow ids).blocked
  by_cases hr : (frontier b.run.workflow ids).ready = []
  · rw [batch_round_of_nil _ _ hr]
    exact h.failAll hf _
  · rw [batch_round_of_ne _ _ hr]
    exact h.wave hf _

theorem rounds {b : Batch σ} (hb : P b.run) (n : Nat) (ids : List String) :
    P (rounds c n b ids).2.run := by
  induction n generalizing b ids with
  | zero => exact hb
  | succ n ih =>
    have hr := h.round hb ids
    rw [Dispatch.rounds]
    by_cases he : ids.isEmpty = true
    · rw [if_pos he]
      exact hb
    · rw [if_neg he]
      cases hround : Dispatch.round c b ids with
      | ended b' | stopped fatal b' =>
        rw [hround] at hr
        exact hr
      | goesOn b' rest =>
        rw [hround] at hr
        exact ih hr rest

/-- What every change of a batch keeps, a whole batch keeps. -/
theorem runBatch {s : RunState σ} (hs : P s) (ids : List String) : P (runBatch c ids s).2 := by
  rw [runBatch_eq]
  exact h.rounds (b := ⟨s, .empty⟩) hs _ _

end Keeps

end BuildLoop.Dispatch
