import BuildLoop.Proofs.Run.Fatal
import BuildLoop.Proofs.Run.Rest

/-!
# The trace of a run

For each id an event that fits is one of four things: the start of its task, its end, the arrival of a
pending task in the queue, or nothing (`Turn`). What the events of a whole run say of a task follows by
induction: it starts at most once, and since nothing is under way where a run stops, each start is
followed by one end. The changes of stage are a path of the stages from the first one.

    Turn e id (status before e) (status after e)                                    (turn_hear)
    ends of id among es + [id is open after] = [id is open before]                  (count_settled)
    events = before ++ taskStarted t :: after   →   one end of t.id in after        (run_traced)
-/

namespace BuildLoop.Run

/-! ## Changes of stage -/

/-- The change of stage that an event tells. -/
def change? : Event → Option (Stage × Stage × Signal)
  | .stageChanged source target g => some (source, target, g)
  | _ => none

/-- The changes of stage along the way from one progress to another. -/
inductive Path : Progress → List (Stage × Stage × Signal) → Progress → Prop
  | nil (p : Progress) : Path p [] p
  | cons {p q r : Progress} {g : Signal} {changes : List (Stage × Stage × Signal)}
      (h : p.next? g = some q) (rest : Path q changes r) :
      Path p ((p.stage, q.stage, g) :: changes) r

theorem Path.append {p q r : Progress} {cs ds : List (Stage × Stage × Signal)} (h : Path p cs q)
    (h' : Path q ds r) : Path p (cs ++ ds) r := by
  induction h with
  | nil => exact h'
  | cons hg _ ih => exact .cons hg (ih h')

namespace Replay

variable {r : Replay} {e : Event} {es : List Event} {id : String}

/-- What is heard of a change of stage is where it leads. -/
theorem progress_hear (he : r.Fits e) :
    Path r.progress (change? e).toList (r.hear e).progress := by
  cases e with
  | stageChanged source target g =>
    obtain ⟨rfl, ⟨q, hq, rfl⟩, -⟩ := he
    have hheard : (r.hear (.stageChanged r.progress.stage q.stage g)).progress = q := by
      unfold hear
      simp only [hq, Option.getD_some]
    rw [hheard]
    exact .cons hq (.nil q)
  | runStarted | architectureResolved | planReady | planApproved | planRejected | taskStarted
  | taskCompleted | taskFailed | verificationStarted | verificationPassed | verificationFailed
  | correctiveTask | runEnded => exact .nil _

theorem filterMap_cons_toList {α : Type} (f : Event → Option α) (e : Event) (es : List Event) :
    (e :: es).filterMap f = (f e).toList ++ es.filterMap f := by
  rw [List.filterMap_cons]
  cases f e <;> rfl

/-- The changes of stage among events that fit are a path. -/
theorem Admitted.path (h : r.Admitted es) :
    Path r.progress (es.filterMap change?) (r.hearAll es).progress := by
  induction es generalizing r with
  | nil => exact .nil _
  | cons e es ih =>
    rw [filterMap_cons_toList]
    exact Path.append (progress_hear h.1) (ih h.2)

/-! ## What an event says of a task -/

/-- Where the task of an id stands, if the queue has one. -/
def status? (r : Replay) (id : String) : Option Status := (r.workflow.task? id).map (·.status)

/-- What an event may mean for an id: where its task stands before and after it. -/
inductive Turn (e : Event) (id : String) : Option Status → Option Status → Prop
  | started (h : e.started? = some id) : Turn e id (some .pending) (some .inProgress)
  | settled {s s' : Status} (h : e.settled? = some id) (hs : s.isTerminal = false)
      (hs' : s'.isTerminal = true) : Turn e id (some s) (some s')
  | queued (h : e.started? ≠ some id) (h' : e.settled? ≠ some id) :
      Turn e id none (some .pending)
  | kept {s : Option Status} (h : e.started? ≠ some id) (h' : e.settled? ≠ some id) : Turn e id s s

theorem Turn.of_queue {r' : Replay} (hq : r'.workflow.queue = r.workflow.queue) (h : e.started? = none)
    (h' : e.settled? = none) (id : String) : Turn e id (r.status? id) (r'.status? id) := by
  have hsame : r'.status? id = r.status? id := by
    unfold status? WorkflowState.task?
    rw [hq]
  rw [hsame]
  exact .kept (by rw [h]; simp) (by rw [h']; simp)

/-- An event that changes one task of the queue leaves every other one as it is. -/
theorem Turn.of_modify {r' : Replay} {i : String} {f : Task → Task} {t : Task}
    (ht : r.workflow.task? i = some t)
    (hchange : ∀ id, r'.workflow.task? id =
      (r.workflow.task? id).map fun u => if id = i then f u else u)
    (hi : Turn e i (some t.status) (some (f t).status))
    (hne : ∀ id, id ≠ i → e.started? ≠ some id ∧ e.settled? ≠ some id) (id : String) :
    Turn e id (r.status? id) (r'.status? id) := by
  unfold status?
  rw [hchange id]
  by_cases hid : id = i
  · subst hid
    rw [ht]
    simpa using hi
  · have hsame :
        ((r.workflow.task? id).map fun u => if id = i then f u else u) = r.workflow.task? id := by
      cases r.workflow.task? id with
      | none => rfl
      | some u => rw [Option.map_some, if_neg hid]
    rw [hsame]
    exact .kept (hne id hid).1 (hne id hid).2

/-- A change of stage takes the corrective task, which is pending, into the queue. -/
theorem turn_stageChanged {source target : Stage} {g : Signal}
    (he : r.Fits (.stageChanged source target g)) (id : String) :
    Turn (.stageChanged source target g) id (r.status? id)
      ((r.hear (.stageChanged source target g)).status? id) := by
  have hstarted : (Event.stageChanged source target g).started? ≠ some id :=
    (Option.some_ne_none id).symm
  have hsettled : (Event.stageChanged source target g).settled? ≠ some id :=
    (Option.some_ne_none id).symm
  cases hc : r.corrective with
  | none =>
    refine .of_queue ?_ rfl rfl id
    unfold hear
    rw [hc]
    rfl
  | some t =>
    obtain ⟨hpending, -, -⟩ := of_correctiveReasons (he.2.2 t hc)
    have happend : (r.hear (.stageChanged source target g)).workflow.task? id =
        (r.workflow.task? id).or ([t].find? (·.id == id)) := by
      unfold hear
      rw [hc]
      exact List.find?_append
    unfold status?
    rw [happend]
    cases r.workflow.task? id with
    | some u => exact .kept hstarted hsettled
    | none =>
      rw [Option.none_or]
      cases hfind : [t].find? (·.id == id) with
      | none => exact .kept hstarted hsettled
      | some u =>
        obtain rfl := List.mem_singleton.1 (List.mem_of_find?_eq_some hfind)
        rw [Option.map_some, hpending]
        exact .queued hstarted hsettled

/-- The tasks of a plan that is approved are pending. -/
theorem turn_planApproved {summary : PlanSummary} (he : r.Fits (.planApproved summary))
    (id : String) :
    Turn (.planApproved summary) id (r.status? id) ((r.hear (.planApproved summary)).status? id) := by
  have hstarted : (Event.planApproved summary).started? ≠ some id := (Option.some_ne_none id).symm
  have hsettled : (Event.planApproved summary).settled? ≠ some id := (Option.some_ne_none id).symm
  obtain ⟨hq, -, hv⟩ := he
  obtain ⟨hplan, -⟩ := Plan.validate_eq_approved.1 hv
  have hqueue : (r.hear (.planApproved summary)).workflow.queue = r.proposed :=
    (congrArg WorkflowState.queue (hear_setQueue hq) :)
  unfold status? WorkflowState.task?
  rw [hqueue, hq]
  cases hfind : r.proposed.find? (·.id == id) with
  | none => exact .kept hstarted hsettled
  | some t =>
    rw [Option.map_some, (hplan.sound t (List.mem_of_find?_eq_some hfind)).pending]
    exact .queued hstarted hsettled

/-- An event that fits starts a pending task, ends an open one, or queues a new one. -/
theorem turn_hear (he : r.Fits e) (id : String) :
    Turn e id (r.status? id) ((r.hear e).status? id) := by
  cases e with
  | runStarted | planReady | planRejected | verificationStarted | verificationPassed
  | verificationFailed | correctiveTask | runEnded => exact .of_queue rfl rfl rfl id
  | architectureResolved a => exact .of_queue (kept_setArchitecture r.workflow a).1 rfl rfl id
  | stageChanged source target g => exact turn_stageChanged he id
  | planApproved summary => exact turn_planApproved he id
  | taskStarted t =>
    obtain ⟨u, hu, hs, -⟩ := he
    have hbegin : ∃ v, r.workflow.begin t.id = some v := by simp [WorkflowState.begin, hu]
    obtain ⟨v, hv⟩ := hbegin
    have hheard : (r.hear (.taskStarted t)).workflow = v.2 := by
      simp only [hear, hv, Option.map_some, Option.getD_some]
    refine .of_modify (f := Task.begin) hu ?_ ?_ ?_ id
    · intro i
      rw [hheard]
      exact WorkflowState.task?_begin hv i
    · rw [hs]
      exact .started rfl
    · intro i hi
      exact ⟨fun h => hi (Option.some.inj h).symm, (Option.some_ne_none i).symm⟩
  | taskCompleted t report =>
    refine .of_modify (f := Task.complete) he.1 ?_ ?_ ?_ id
    · exact r.workflow.task?_mergeCompleted_single t.complete
    · rw [he.2]
      exact .settled rfl rfl rfl
    · intro i hi
      exact ⟨(Option.some_ne_none i).symm, fun h => hi (Option.some.inj h).symm⟩
  | taskFailed role i reason =>
    obtain ⟨t, ht, hs, -⟩ := he
    refine .of_modify (f := (Task.fail · reason)) ht ?_ ?_ ?_ id
    · exact r.workflow.task?_markFailed i reason
    · exact .settled rfl hs rfl
    · intro j hj
      exact ⟨(Option.some_ne_none j).symm, fun h => hj (Option.some.inj h).symm⟩

/-! ## What the events of a run say of a task -/

/-- No event tells both a start and an end. -/
theorem settled?_of_started? {i : String} (h : e.started? = some i) : e.settled? = none := by
  cases e with
  | taskStarted t => rfl
  | _ => cases h

/-- What an event means for a task that is in the queue. -/
theorem Turn.of_some {s : Status} {after : Option Status} (h : Turn e id (some s) after) :
    ∃ s', after = some s' ∧
      e.settled?.toList.count id + (!s'.isTerminal).toNat = (!s.isTerminal).toNat ∧
      (s ≠ .pending → s' ≠ .pending) := by
  cases h with
  | started hstart =>
    refine ⟨.inProgress, rfl, ?_, fun h => absurd rfl h⟩
    rw [settled?_of_started? hstart]
    rfl
  | @settled _ s' hsettled hs hs' =>
    refine ⟨s', rfl, ?_, fun _ hpending => ?_⟩
    · rw [hsettled, hs, hs']
      simp
    · rw [hpending] at hs'
      cases hs'
  | kept _ hsettled =>
    refine ⟨s, rfl, ?_, fun h => h⟩
    have hcount : e.settled?.toList.count id = 0 := by
      refine List.count_eq_zero.2 fun hmem => hsettled ?_
      exact Option.mem_toList.1 hmem
    rw [hcount, Nat.zero_add]

/-- Once a task is in the queue, its ends told and whether it is open add up; once it has started, it is
never pending again. -/
theorem count_settled (h : r.Admitted es) {s : Status} (hs : r.status? id = some s) :
    ∃ s', (r.hearAll es).status? id = some s' ∧
      (es.filterMap Event.settled?).count id + (!s'.isTerminal).toNat = (!s.isTerminal).toNat ∧
      (s ≠ .pending → s' ≠ .pending) := by
  induction es generalizing r s with
  | nil => exact ⟨s, hs, Nat.zero_add _, fun h => h⟩
  | cons e es ih =>
    have hturn := turn_hear h.1 id
    rw [hs] at hturn
    obtain ⟨s₁, hs₁, hcount, hpending⟩ := hturn.of_some
    obtain ⟨s', hs', hcount', hpending'⟩ := ih h.2 hs₁
    refine ⟨s', hs', ?_, fun hne => hpending' (hpending hne)⟩
    rw [filterMap_cons_toList, List.count_append]
    omega

/-- A task that starts was pending. -/
theorem status?_of_started? (he : r.Fits e) (h : e.started? = some id) :
    r.status? id = some .pending ∧ (r.hear e).status? id = some .inProgress := by
  have hturn := turn_hear he id
  generalize r.status? id = before at hturn ⊢
  generalize (r.hear e).status? id = after at hturn ⊢
  cases hturn with
  | started => exact ⟨rfl, rfl⟩
  | settled hsettled =>
    rw [settled?_of_started? h] at hsettled
    cases hsettled
  | queued hne | kept hne => exact absurd h hne

/-- What is known of the tasks that were told to start. -/
structure Begun (told : List Event) (r : Replay) : Prop where
  once : (told.filterMap Event.started?).Nodup
  begun : ∀ id ∈ told.filterMap Event.started?, ∃ s, r.status? id = some s ∧ s ≠ .pending
  underWay : ∀ id, r.status? id = some .inProgress → id ∈ told.filterMap Event.started?

theorem begun_hear {told : List Event} (h : Begun told r) (he : r.Fits e) :
    Begun (told ++ [e]) (r.hear e) := by
  have hsplit : (told ++ [e]).filterMap Event.started? =
      told.filterMap Event.started? ++ e.started?.toList := by
    rw [List.filterMap_append, filterMap_cons_toList, List.filterMap_nil, List.append_nil]
  constructor
  case once =>
    rw [hsplit]
    cases hstart : e.started? with
    | none =>
      rw [Option.toList_none, List.append_nil]
      exact h.once
    | some id =>
      refine List.nodup_append.2 ⟨h.once, List.nodup_singleton id, ?_⟩
      intro i hi j hj
      rw [List.mem_singleton.1 hj]
      rintro rfl
      obtain ⟨s, hs, hne⟩ := h.begun i hi
      rw [(status?_of_started? he hstart).1] at hs
      cases hs
      exact hne rfl
  case begun =>
    intro id hid
    rw [hsplit] at hid
    rcases List.mem_append.1 hid with hid | hid
    · obtain ⟨s, hs, hne⟩ := h.begun id hid
      have hturn := turn_hear he id
      rw [hs] at hturn
      obtain ⟨s', hs', -, hpending⟩ := hturn.of_some
      exact ⟨s', hs', hpending hne⟩
    · exact ⟨.inProgress, (status?_of_started? he (Option.mem_toList.1 hid)).2, nofun⟩
  case underWay =>
    intro id hid
    rw [hsplit]
    have hturn := turn_hear he id
    rw [hid] at hturn
    generalize hbefore : r.status? id = before at hturn
    cases hturn with
    | started hstart => exact List.mem_append_right _ (Option.mem_toList.2 hstart)
    | settled _ _ hs' => cases hs'
    | kept => exact List.mem_append_left _ (h.underWay id hbefore)

theorem begun_start (requirements root : String) (m : Nat) : Begun [] (start requirements root m) where
  once := .nil
  begun _ hid := absurd hid List.not_mem_nil
  underWay _ hid := by cases hid

theorem Admitted.begun (h : r.Admitted es) (hr : Begun [] r) : Begun es (r.hearAll es) :=
  h.keeps (P := Begun) hr fun _ _ _ hq he => begun_hear hq he

/-- Each task that was completed had started before. -/
theorem Admitted.started_of_completed {before after : List Event} {t : Task} {report : WorkerReport}
    (h : r.Admitted (before ++ .taskCompleted t report :: after)) (hr : Begun [] r) :
    t.id ∈ before.filterMap Event.started? := by
  obtain ⟨hbefore, hfits, -⟩ := (r.admitted_append _ _).1 h
  refine (hbefore.begun hr).underWay t.id ?_
  unfold status?
  rw [hfits.1, Option.map_some, hfits.2]

/-- Each start is followed by one end, if nothing is under way in the end. -/
theorem Admitted.settled_of_started {before after : List Event} {t : Task}
    (h : r.Admitted (before ++ .taskStarted t :: after))
    (hrest : UnderWayIn [] (r.hearAll (before ++ .taskStarted t :: after)).workflow) :
    (after.filterMap Event.settled?).count t.id = 1 := by
  obtain ⟨-, hfits, hafter⟩ := (r.admitted_append _ _).1 h
  obtain ⟨s', hs', hcount, hpending⟩ := count_settled hafter (status?_of_started? hfits rfl).2
  rw [r.hearAll_append] at hrest
  obtain ⟨u, hu, rfl⟩ := Option.map_eq_some_iff.1 hs'
  have hover : u.status.isTerminal = true := by
    cases hs : u.status with
    | pending => exact absurd hs (hpending nofun)
    | inProgress => exact absurd (hrest t.id u hu hs) List.not_mem_nil
    | completed | failed => rfl
  rw [hover] at hcount
  exact hcount

/-- A plan is approved before any task starts, if the queue is not filled in another way. -/
theorem Admitted.planned_of_started {before after : List Event} {t : Task}
    (h : r.Admitted (before ++ .taskStarted t :: after))
    (hplan : (r.hearAll (before ++ .taskStarted t :: after)).workflow.queue = [] ∨
      ∃ summary, .planApproved summary ∈ before ++ .taskStarted t :: after) :
    ∃ summary, .planApproved summary ∈ before := by
  obtain ⟨-, hfits, hafter⟩ := (r.admitted_append _ _).1 h
  have hstarted := (status?_of_started? hfits rfl).2
  -- from its start on the task is in the queue, so that no plan can be approved any more
  have hnonempty : ∀ es, ((r.hearAll before).hear (.taskStarted t)).Admitted es →
      (((r.hearAll before).hear (.taskStarted t)).hearAll es).workflow.queue ≠ [] := by
    intro es hes hnil
    obtain ⟨s', hs', -⟩ := count_settled hes hstarted
    rw [status?, WorkflowState.task?, hnil] at hs'
    cases hs'
  rcases hplan with hnil | ⟨summary, hmem⟩
  · rw [r.hearAll_append] at hnil
    exact absurd hnil (hnonempty after hafter)
  · rcases List.mem_append.1 hmem with hbefore | hmem
    · exact ⟨summary, hbefore⟩
    · rcases List.mem_cons.1 hmem with heq | hlater
      · cases heq
      · obtain ⟨es, rest, rfl⟩ := List.append_of_mem hlater
        obtain ⟨hes, happroved, -⟩ := (Replay.admitted_append _ _ _).1 hafter
        exact absurd happroved.1 (hnonempty es hes)

/-! ## Counts -/

/-- An event that fits adds one completed task if it tells one. -/
theorem size_completed_hear (hw : r.workflow.Sound) (he : r.Fits e) :
    (r.hear e).workflow.completed.size =
      r.workflow.completed.size + [e].countP (·.kind == .taskCompleted) := by
  cases e with
  | runStarted | planReady | planRejected | verificationStarted | verificationPassed
  | verificationFailed | correctiveTask => rfl
  | runEnded => exact he.elim
  | stageChanged source target g =>
    unfold hear
    cases r.corrective <;> rfl
  | architectureResolved a => exact congrArg CompletedTasks.size (kept_setArchitecture r.workflow a).2
  | planApproved summary =>
    have hkept : (r.hear (.planApproved summary)).workflow.completed = r.workflow.completed :=
      (congrArg WorkflowState.completed (hear_setQueue he.1) :)
    exact congrArg CompletedTasks.size hkept
  | taskStarted t =>
    obtain ⟨u, hu, -⟩ := he
    exact congrArg CompletedTasks.size (queue_hear_taskStarted hu).2
  | taskFailed role id reason =>
    exact congrArg CompletedTasks.size (r.workflow.completed_markFailed id reason)
  | taskCompleted t report =>
    have hnew : r.workflow.completed.contains t.complete.id = false := by
      have hnot := hw.notMem_completed he.1 (by rw [he.2]; simp)
      simpa [CompletedTasks.contains] using hnot
    have hkept : (r.hear (.taskCompleted t report)).workflow.completed =
        (r.workflow.completed.insert t.complete).1 :=
      r.workflow.completed_mergeCompleted_single t.complete
    rw [hkept, CompletedTasks.insert, hnew]
    exact List.length_append

theorem Admitted.size_completed (h : r.Admitted es) (hw : r.workflow.Sound)
    (hc : r.workflow.completed.size = 0) :
    (r.hearAll es).workflow.completed.size = es.countP (·.kind == .taskCompleted) := by
  refine (h.keeps (P := fun told q => q.workflow.Sound ∧
    q.workflow.completed.size = told.countP (·.kind == .taskCompleted)) ⟨hw, hc⟩ ?_).2
  rintro told e q ⟨hsound, hsize⟩ he
  refine ⟨sound_hear hsound he, ?_⟩
  rw [size_completed_hear hsound he, hsize, List.countP_append]

theorem length_corrections (es : List Event) :
    (corrections es).length = es.countP (·.kind == .correctiveTask) := by
  unfold corrections
  rw [List.length_filterMap_eq_countP]
  refine List.countP_congr fun e _ => ?_
  cases e with
  | runEnded outcome => cases outcome <;> simp [correction?, Event.kind, Outcome.eventKind]
  | _ => simp [correction?, Event.kind]

end Replay

/-! ## Runs -/

/-- What the events of a run say, from its first to its last. -/
structure Traced (runId root : String) (m : Nat) (report : RunReport) : Prop where
  /-- The first event is the start of the run; the last one, and no other, is final, and tells the
  outcome. -/
  ends : ∃ told last, report.events = .runStarted runId root m :: (told ++ [last]) ∧
    last.kind = report.outcome.eventKind ∧ last.kind.isFinal = true ∧
    ∀ e ∈ told, e.kind.isFinal = false ∧ e.kind ≠ .runStarted
  /-- The changes of stage are a path from the first stage to one that has this outcome. -/
  path : ∃ p, Path (.new m) (report.events.filterMap change?) p ∧
    Outcome.ofStage p.stage = report.outcome
  planned : ∀ before t after, report.events = before ++ .taskStarted t :: after →
    ∃ summary, .planApproved summary ∈ before
  /-- No task starts twice, and each start is followed by one end. -/
  once : (report.events.filterMap Event.started?).Nodup
  settled : ∀ before t after, report.events = before ++ .taskStarted t :: after →
    (after.filterMap Event.settled?).count t.id = 1
  started : ∀ before t completed after, report.events = before ++ .taskCompleted t completed :: after →
    t.id ∈ before.filterMap Event.started?
  completed : report.completed = report.events.countP (·.kind == .taskCompleted)
  cycles : report.cycles = report.events.countP (·.kind == .correctiveTask)

/-- An event between the first and the last parts what is told between them. -/
theorem exists_told_of_split {first last e : Event} {told before after : List Event}
    (h : first :: (told ++ [last]) = before ++ e :: after) (hfirst : e ≠ first) (hlast : e ≠ last) :
    ∃ before' after', told = before' ++ e :: after' ∧ before = first :: before' ∧
      after = after' ++ [last] := by
  cases before with
  | nil =>
    rw [List.nil_append, List.cons.injEq] at h
    exact absurd h.1.symm hfirst
  | cons x before' =>
    rw [List.cons_append, List.cons.injEq] at h
    obtain ⟨rfl, h⟩ := h
    rcases List.eq_nil_or_concat after with rfl | ⟨after', y, rfl⟩
    · obtain ⟨-, hend⟩ := List.append_inj' h rfl
      rw [List.cons.injEq] at hend
      exact absurd hend.1.symm hlast
    · rw [List.concat_eq_append, ← List.cons_append, ← List.append_assoc] at h
      obtain ⟨htold, hend⟩ := List.append_inj' h rfl
      rw [List.cons.injEq] at hend
      obtain ⟨rfl, -⟩ := hend
      exact ⟨before', after', htold, rfl, List.concat_eq_append⟩

theorem filterMap_between {α : Type} {f : Event → Option α} {first last : Event} {told : List Event}
    (hfirst : f first = none) (hlast : f last = none) :
    (first :: (told ++ [last])).filterMap f = told.filterMap f := by
  rw [List.filterMap_cons_none hfirst, List.filterMap_append, List.filterMap_cons_none hlast,
    List.filterMap_nil, List.append_nil]

theorem countP_between {p : Event → Bool} {first last : Event} {told : List Event}
    (hfirst : p first = false) (hlast : p last = false) :
    (first :: (told ++ [last])).countP p = told.countP p := by
  rw [List.countP_cons_of_neg (by rw [hfirst]; simp), List.countP_append,
    List.countP_cons_of_neg (by rw [hlast]; simp), List.countP_nil, Nat.add_zero]

theorem beq_kind_of_isFinal {e : Event} {k : EventKind} (he : e.kind.isFinal = true)
    (hk : k.isFinal = false) : (e.kind == k) = false := by
  cases heq : e.kind == k with
  | false => rfl
  | true =>
    rw [eq_of_beq heq, hk] at he
    cases he

theorem isFinal_eventKind (o : Outcome) : o.eventKind.isFinal = true := by
  cases o <;> rfl

/-- An event that fits is neither the first of a run nor the last. -/
theorem Replay.not_final_of_fits {r : Replay} {e : Event} (h : r.Fits e) :
    e.kind.isFinal = false ∧ e.kind ≠ .runStarted := by
  cases e with
  | runStarted | runEnded => exact h.elim
  | _ => exact ⟨rfl, nofun⟩

theorem Replay.Admitted.not_final {r : Replay} {told : List Event} (h : r.Admitted told) :
    ∀ e ∈ told, e.kind.isFinal = false ∧ e.kind ≠ .runStarted := by
  intro e he
  obtain ⟨before, after, rfl⟩ := List.append_of_mem he
  obtain ⟨-, hfits, -⟩ := (r.admitted_append _ _).1 h
  exact not_final_of_fits hfits

/-- What is told between the first event and the last of a run that ends with nothing under way. -/
theorem traced_of_admitted {runId requirements root : String} {m : Nat} {report : RunReport}
    {told : List Event} {r : Replay}
    (hevents : report.events = .runStarted runId root m :: (told ++
      [.runEnded report.outcome report.status report.cycles report.completed report.error?]))
    (hadmitted : (Replay.start requirements root m).Admitted told)
    (hr : (Replay.start requirements root m).hearAll told = r) (hrested : UnderWayIn [] r.workflow)
    (hplanned : r.workflow.queue = [] ∨ ∃ summary, .planApproved summary ∈ told)
    (hstage : Outcome.ofStage r.progress.stage = report.outcome)
    (hcompleted : report.completed = r.workflow.completed.size)
    (hcycles : report.cycles = r.workflow.iterations) : Traced runId root m report := by
  have hbegun := Replay.begun_start requirements root m
  subst hr
  generalize hlast : Event.runEnded report.outcome report.status report.cycles report.completed
    report.error? = last at hevents
  have hkind : last.kind = report.outcome.eventKind := by
    rw [← hlast]
    rfl
  have hfinal : last.kind.isFinal = true := by
    rw [hkind]
    exact isFinal_eventKind report.outcome
  constructor
  case ends => exact ⟨told, last, hevents, hkind, hfinal, hadmitted.not_final⟩
  case path =>
    refine ⟨_, ?_, hstage⟩
    rw [hevents, filterMap_between rfl (by rw [← hlast]; rfl)]
    exact hadmitted.path
  case planned =>
    intro before t after h
    rw [hevents] at h
    obtain ⟨before', after', rfl, rfl, -⟩ := exists_told_of_split h nofun (by rw [← hlast]; nofun)
    obtain ⟨summary, hmem⟩ := hadmitted.planned_of_started hplanned
    exact ⟨summary, List.mem_cons_of_mem _ hmem⟩
  case once =>
    rw [hevents, filterMap_between rfl (by rw [← hlast]; rfl)]
    exact (hadmitted.begun hbegun).once
  case settled =>
    intro before t after h
    rw [hevents] at h
    obtain ⟨before', after', rfl, -, rfl⟩ := exists_told_of_split h nofun (by rw [← hlast]; nofun)
    have hnone : last.settled? = none := by
      rw [← hlast]
      rfl
    rw [List.filterMap_append, List.filterMap_cons_none hnone, List.filterMap_nil, List.append_nil]
    exact hadmitted.settled_of_started hrested
  case started =>
    intro before t completed after h
    rw [hevents] at h
    obtain ⟨before', after', rfl, rfl, -⟩ := exists_told_of_split h nofun (by rw [← hlast]; nofun)
    rw [List.filterMap_cons_none rfl]
    exact hadmitted.started_of_completed hbegun
  case completed =>
    have hnot : (last.kind == .taskCompleted) = false := beq_kind_of_isFinal hfinal rfl
    rw [hcompleted, hevents, countP_between rfl hnot]
    exact hadmitted.size_completed (WorkflowState.sound_new requirements root) rfl
  case cycles =>
    have hnot : (last.kind == .correctiveTask) = false := beq_kind_of_isFinal hfinal rfl
    rw [hcycles, hevents, countP_between rfl hnot, ← Replay.length_corrections]
    exact (hadmitted.composed (Replay.composed_start requirements root m)).cycles

section
variable {σ : Type} {runId requirements root : String} {m : Nat} {r : Replay} {s s' : RunState σ}

/-- A run that has told fitting events, has nothing under way and then ends. -/
theorem traced_finish {failure : Option Failure}
    (h : Told (.runStarted runId root m) (Replay.start requirements root m) s r) (hcalm : Calm s)
    (hlog : s'.log = s.log) (hw : s'.workflow = s.workflow)
    (hstage : Outcome.ofStage r.progress.stage = Outcome.ofStage s'.progress.stage) :
    Traced runId root m (finish runId failure s').1 := by
  obtain ⟨told, hentries, hadmitted, hr⟩ := h.log
  have hworkflow : s'.workflow = r.workflow := hw.trans h.workflow
  refine traced_of_admitted ?_ hadmitted hr ?_ ?_ hstage
    (congrArg (·.completed.size) hworkflow) (congrArg WorkflowState.iterations hworkflow)
  · rw [← List.cons_append, ← hentries, ← hlog]
    rfl
  · rw [← h.workflow]
    exact hcalm.rested
  · rw [← h.workflow]
    refine hcalm.planned.imp_right ?_
    rintro ⟨summary, hmem⟩
    rw [hentries] at hmem
    exact ⟨summary, (List.mem_cons.1 hmem).resolve_left nofun⟩

end

/-- Whatever the roles of a run do, its events start with its start and end with its outcome. Between
them the stages change along a path, a plan is approved before a task starts, each task that starts comes
to one end, and the report counts the tasks completed and the corrections that were told. -/
theorem run_traced {σ : Type} (roles : Roles σ) (runId requirements root : String) (m : Nat)
    (heard : Bool) (o : σ) :
    Traced runId root m (run roles runId (RunState.start requirements root m heard o)).1 := by
  refine run_of_after (P := fun result => Traced runId root m result.1) ?_
  have hstart : Told (.runStarted runId root m) (Replay.start requirements root m)
      ((RunState.start requirements root m heard o).emit (.runStarted runId root m))
      (Replay.start requirements root m) := ⟨⟨[], rfl, trivial, rfl⟩, rfl, rfl⟩
  have htold := after_drive_told roles hstart (m := m) ⟨rfl, rfl, rfl, rfl, rfl, rfl⟩ rfl
  have hcalm := after_of_snd (calm_drive roles (s := (RunState.start requirements root m heard o).emit
    (.runStarted runId root m)) rfl)
  refine (htold.and hcalm).mono ?_ ?_
  · rintro - s' ⟨⟨r, h, -⟩, hs⟩
    exact traced_finish h hs rfl rfl (by rw [h.progress])
  · rintro e s' ⟨⟨r, h, hinterrupted⟩, hs⟩
    refine traced_finish h hs rfl rfl ?_
    rw [hinterrupted.stage, (stage_stopped (h.progress ▸ hinterrupted.stage)).1]
    rfl

end BuildLoop.Run
