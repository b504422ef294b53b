import Mathlib.Data.List.Chain
import Mathlib.Data.List.Nodup
import Mathlib.Logic.Relation
import BuildLoop.Plan.Reach
import BuildLoop.Task.Basic

/-!
# Searches and chains along dependencies

All that is on the stack of a search is reached from the ids it started from, and no dependency leads out of
what it has met (`Explores`). Every turn keeps this and leaves less to look at. So one of the turns answers, no
later than there are dependencies, and its answer is whether the target is reached:

    s.left ts < n   →   answer? ts target n s = some (s.run ts target)                   (answer?_of_left_lt)
    dependsOn ts t target = true   ↔   ReflTransGen (Edge ts) d target for a dependency d of t
                                                                                      (dependsOn_eq_true_iff)

If the ids of the tasks are distinct, it does not matter which task of an id is meant.

A chain of a plan is a list of its tasks each of which depends on the next. The depth of a task is told
by the chains below it:

    HasBelow ts (n + 1) t   ↔   t ∈ ts and t depends on some u with HasBelow ts n u      (hasBelow_succ)
-/

namespace BuildLoop.Plan

open Relation

/-- The last task with the first id depends on the second. -/
def Edge (ts : List Task) (id dep : String) : Prop :=
  ∃ before t after, ts = before ++ t :: after ∧ t.id = id ∧ (∀ u ∈ after, u.id ≠ id) ∧
    dep ∈ t.dependencies

/-- Some task with the first id depends on the second. -/
def Requires (ts : List Task) (id dep : String) : Prop :=
  ∃ t ∈ ts, t.id = id ∧ dep ∈ t.dependencies

theorem lastTask?_eq_some {ts : List Task} {id : String} {t : Task} : lastTask? ts id = some t ↔
    ∃ before after, ts = before ++ t :: after ∧ t.id = id ∧ ∀ u ∈ after, u.id ≠ id := by
  rw [lastTask?, List.find?_eq_some_iff_append]
  constructor
  · rintro ⟨hid, as, bs, hts, has⟩
    refine ⟨bs.reverse, as.reverse, ?_, by simpa using hid, fun u hu => ?_⟩
    · rw [← List.reverse_reverse ts, hts]
      simp
    · simpa using has u (List.mem_reverse.1 hu)
  · rintro ⟨before, after, rfl, hid, hafter⟩
    refine ⟨by simpa using hid, after.reverse, before.reverse, by simp, fun u hu => ?_⟩
    simpa using hafter u (List.mem_reverse.1 hu)

/-- What an id puts on a stack is what its edges lead to. -/
theorem mem_dependenciesOf {ts : List Task} {id dep : String} :
    dep ∈ dependenciesOf ts id ↔ Edge ts id dep := by
  have hlast : dep ∈ dependenciesOf ts id ↔ ∃ t, lastTask? ts id = some t ∧ dep ∈ t.dependencies := by
    unfold dependenciesOf
    cases lastTask? ts id <;> simp
  rw [hlast]
  constructor
  · rintro ⟨t, ht, hdep⟩
    obtain ⟨before, after, hts, hid, hafter⟩ := lastTask?_eq_some.1 ht
    exact ⟨before, t, after, hts, hid, hafter, hdep⟩
  · rintro ⟨before, t, after, hts, hid, hafter, hdep⟩
    exact ⟨t, lastTask?_eq_some.2 ⟨before, after, hts, hid, hafter⟩, hdep⟩

/-! ## Searches -/

namespace Search

/-- Whether an id is seen or on the stack. -/
def Met (s : Search) (id : String) : Prop := id ∈ s.seen ∨ id ∈ s.stack

/-- What holds of a search for a target that started from some ids. -/
structure Explores (ts : List Task) (target : String) (ids : List String) (s : Search) : Prop where
  started : ∀ d ∈ ids, s.Met d
  reached : ∀ id ∈ s.stack, ∃ d ∈ ids, ReflTransGen (Edge ts) d id
  /-- No edge leads from what is seen to what is neither seen nor still to be looked at. -/
  edge : ∀ id ∈ s.seen, ∀ dep, Edge ts id dep → s.Met dep
  misses : target ∉ s.seen

section
variable {ts : List Task} {target : String} {ids : List String} {s s' : Search}

theorem explores_start (t : Task) : (start t).Explores ts target t.dependencies where
  started _ hd := .inr (List.mem_reverse.2 hd)
  reached id hid := ⟨id, List.mem_reverse.1 hid, .refl⟩
  edge _ hid := absurd hid List.not_mem_nil
  misses := List.not_mem_nil

/-- What has been met stays met. -/
theorem Met.turn {id : String} (h : s.Met id) (hturn : s.turn ts target = .continues s') : s'.Met id := by
  obtain ⟨top, rest, hstack, -, ⟨htop, rfl⟩ | ⟨-, rfl⟩⟩ := of_turn_continues hturn
  · rcases h with hseen | hmem
    · exact .inl hseen
    · rcases List.mem_cons.1 (hstack ▸ hmem) with rfl | hrest
      · exact .inl htop
      · exact .inr hrest
  · rcases h with hseen | hmem
    · exact .inl (List.mem_cons_of_mem _ hseen)
    · rcases List.mem_cons.1 (hstack ▸ hmem) with rfl | hrest
      · exact .inl List.mem_cons_self
      · exact .inr (List.mem_append_right _ hrest)

/-- A turn keeps what holds of a search. -/
theorem Explores.turn (h : s.Explores ts target ids) (hturn : s.turn ts target = .continues s') :
    s'.Explores ts target ids := by
  have hstarted : ∀ d ∈ ids, s'.Met d := fun d hd => (h.started d hd).turn hturn
  have hedge : ∀ id ∈ s.seen, ∀ dep, Edge ts id dep → s'.Met dep :=
    fun id hid dep he => (h.edge id hid dep he).turn hturn
  obtain ⟨top, rest, hstack, hne, ⟨-, rfl⟩ | ⟨-, rfl⟩⟩ := of_turn_continues hturn
  · refine ⟨hstarted, fun id hid => ?_, hedge, h.misses⟩
    exact h.reached id (hstack ▸ List.mem_cons_of_mem _ hid)
  · -- the new edges are those of the id that is now seen, and all of them are on the stack
    obtain ⟨d, hd, htop⟩ := h.reached top (hstack ▸ List.mem_cons_self)
    refine ⟨hstarted, fun id hid => ?_, fun id hid dep he => ?_, fun hmem => ?_⟩
    · rcases List.mem_append.1 hid with hdep | hrest
      · exact ⟨d, hd, htop.tail (mem_dependenciesOf.1 (List.mem_reverse.1 hdep))⟩
      · exact h.reached id (hstack ▸ List.mem_cons_of_mem _ hrest)
    · rcases List.mem_cons.1 hid with rfl | hseen
      · exact .inr (List.mem_append_left _ (List.mem_reverse.2 (mem_dependenciesOf.2 he)))
      · exact hedge id hseen dep he
    · rcases List.mem_cons.1 hmem with rfl | hseen
      · exact hne rfl
      · exact h.misses hseen

/-- Once the stack is empty, all that is reached has been seen. -/
theorem Explores.seen_of_nil (h : s.Explores ts target ids) (hnil : s.stack = []) {d id : String} (hd : d ∈ ids)
    (hreach : ReflTransGen (Edge ts) d id) : id ∈ s.seen := by
  have hmet : ∀ {i : String}, s.Met i → i ∈ s.seen := fun hi =>
    hi.resolve_right fun hmem => List.not_mem_nil (hnil ▸ hmem)
  induction hreach with
  | refl => exact hmet (h.started d hd)
  | tail _ he ih => exact hmet (h.edge _ ih _ he)

/-- The turn that answers tells whether the target is reached. -/
theorem Explores.answers (h : s.Explores ts target ids) {found : Bool}
    (hturn : s.turn ts target = .answers found) :
    found = true ↔ ∃ d ∈ ids, ReflTransGen (Edge ts) d target := by
  rcases of_turn_answers hturn with ⟨hnil, rfl⟩ | ⟨hmem, rfl⟩
  · refine iff_of_false Bool.false_ne_true ?_
    rintro ⟨d, hd, hreach⟩
    exact h.misses (h.seen_of_nil hnil hd hreach)
  · exact iff_of_true rfl (h.reached target hmem)

theorem Explores.run (h : s.Explores ts target ids) :
    s.run ts target = true ↔ ∃ d ∈ ids, ReflTransGen (Edge ts) d target := by
  fun_induction Search.run ts target s with
  | case1 s found hturn => exact h.answers hturn
  | case2 s s' hturn ih => exact ih (h.turn hturn)

end

/-! ## Turns of a search -/

/-- The answer of a search, if one of its first turns gives it. -/
def answer? (ts : List Task) (target : String) : Nat → Search → Option Bool
  | 0, _ => none
  | n + 1, s =>
    match s.turn ts target with
    | .answers found => some found
    | .continues s' => answer? ts target n s'

section
variable {ts : List Task} {target : String}

/-- Each turn that does not answer leaves less, so that the answer comes in time. -/
theorem answer?_of_left_lt {n : Nat} {s : Search} (h : s.left ts < n) :
    answer? ts target n s = some (s.run ts target) := by
  fun_induction Search.run ts target s generalizing n with
  | case1 s found hturn =>
    cases n with
    | zero => exact absurd h (Nat.not_lt_zero _)
    | succ n => rw [answer?, hturn]
  | case2 s s' hturn ih =>
    cases n with
    | zero => exact absurd h (Nat.not_lt_zero _)
    | succ n =>
      rw [answer?, hturn]
      have hlt := left_lt_of_turn hturn
      exact ih (by omega)

theorem left_start (t : Task) :
    (start t).left ts = t.dependencies.length + (ts.flatMap (·.dependencies)).length := by
  have hunseen : unseenOf [] = (·.dependencies) := by
    funext u
    exact if_neg List.not_mem_nil
  rw [left, start, List.length_reverse, unseen, hunseen]

end

end Search

theorem dependsOn_eq_true_iff {ts : List Task} {t : Task} {target : String} :
    dependsOn ts t target = true ↔ ∃ d ∈ t.dependencies, ReflTransGen (Edge ts) d target :=
  (Search.explores_start t).run

/-- Whatever the tasks, in a cycle, with ids that are unknown or given twice: a search answers after at most one
turn for each dependency of the task and of the plan, and what it answers is whether a path of one or more
dependencies leads from the task to the target. -/
theorem dependsOn_iff_path (ts : List Task) (t : Task) (target : String) :
    Search.answer? ts target (t.dependencies.length + (ts.flatMap (·.dependencies)).length + 1) (.start t) =
        some (dependsOn ts t target) ∧
      (dependsOn ts t target = true ↔ ∃ d ∈ t.dependencies, ReflTransGen (Edge ts) d target) := by
  refine ⟨Search.answer?_of_left_lt ?_, dependsOn_eq_true_iff⟩
  rw [Search.left_start]
  exact Nat.lt_succ_self _

-- of two tasks with one id only the last counts: here it leads round in a circle
example : dependsOn [
    { Task.new "a" "" .backend with dependencies := ["c"] },
    { Task.new "b" "" .backend with dependencies := ["a", "b"] },
    { Task.new "a" "" .backend with dependencies := ["b"] }]
    { Task.new "d" "" .backend with dependencies := ["b"] } "c" = false := by
  cbv

/-! ## Distinct ids -/

section
variable {ts : List Task} (hn : (ts.map (·.id)).Nodup)
include hn

theorem eq_of_id_eq {t u : Task} (ht : t ∈ ts) (hu : u ∈ ts) (h : t.id = u.id) : t = u :=
  List.inj_on_of_nodup_map hn ht hu h

theorem edge_iff {id dep : String} : Edge ts id dep ↔ Requires ts id dep := by
  constructor
  · rintro ⟨before, t, after, rfl, hid, -, hdep⟩
    exact ⟨t, List.mem_append_right _ List.mem_cons_self, hid, hdep⟩
  · rintro ⟨t, hmem, rfl, hdep⟩
    obtain ⟨before, after, rfl⟩ := List.append_of_mem hmem
    refine ⟨before, t, after, rfl, rfl, fun u hu hid => ?_, hdep⟩
    rw [List.map_append, List.map_cons] at hn
    exact (List.nodup_cons.1 hn.of_append_right).1 (hid ▸ List.mem_map_of_mem hu)

/-- Among distinct ids, what a task depends on is what can be reached from its id. -/
theorem dependsOn_iff {t : Task} (ht : t ∈ ts) {target : String} :
    dependsOn ts t target = true ↔ TransGen (Requires ts) t.id target := by
  have hedge : Edge ts = Requires ts := by
    funext a b
    exact propext (edge_iff hn)
  rw [dependsOn_eq_true_iff, hedge, TransGen.head'_iff]
  constructor
  · rintro ⟨d, hd, hr⟩
    exact ⟨d, ⟨t, ht, rfl, hd⟩, hr⟩
  · rintro ⟨d, ⟨u, hu, hid, hd⟩, hr⟩
    rw [eq_of_id_eq hn hu ht hid] at hd
    exact ⟨d, hd, hr⟩

end

/-! ## Chains of dependencies -/

/-- Tasks of a plan each of which depends on the next. -/
structure DependencyChain (ts l : List Task) : Prop where
  mem : ∀ t ∈ l, t ∈ ts
  linked : l.IsChain fun t u => u.id ∈ t.dependencies

/-- Whether a chain leads from a task of a plan through `n` more. -/
def HasBelow (ts : List Task) (n : Nat) (t : Task) : Prop :=
  ∃ l, DependencyChain ts (t :: l) ∧ l.length = n

section
variable {ts : List Task} {t : Task} {n : Nat}

theorem hasBelow_zero : HasBelow ts 0 t ↔ t ∈ ts := by
  constructor
  · rintro ⟨l, hl, -⟩
    exact hl.mem t List.mem_cons_self
  · intro h
    exact ⟨[], ⟨by simpa using h, .singleton t⟩, rfl⟩

theorem hasBelow_succ :
    HasBelow ts (n + 1) t ↔ t ∈ ts ∧ ∃ u, u.id ∈ t.dependencies ∧ HasBelow ts n u := by
  constructor
  · rintro ⟨l, hl, hn⟩
    cases l with
    | nil => cases hn
    | cons u r =>
      obtain ⟨hu, hr⟩ := List.isChain_cons_cons.1 hl.linked
      exact ⟨hl.mem t List.mem_cons_self, u, hu, r,
        ⟨fun v hv => hl.mem v (List.mem_cons_of_mem _ hv), hr⟩, Nat.succ.inj hn⟩
  · rintro ⟨ht, u, hu, r, hr, rfl⟩
    exact ⟨u :: r, ⟨List.forall_mem_cons.2 ⟨ht, hr.mem⟩, .cons_cons hu hr.linked⟩, rfl⟩

theorem HasBelow.mem (h : HasBelow ts n t) : t ∈ ts := by
  obtain ⟨l, hl, -⟩ := h
  exact hl.mem t List.mem_cons_self

theorem HasBelow.pred (h : HasBelow ts (n + 1) t) : HasBelow ts n t := by
  induction n generalizing t with
  | zero => exact hasBelow_zero.2 h.mem
  | succ n ih =>
    obtain ⟨ht, u, hu, hb⟩ := hasBelow_succ.1 h
    exact hasBelow_succ.2 ⟨ht, u, hu, ih hb⟩

/-- Once no task has a chain of `n` tasks below it, no chain is longer than `n`. -/
theorem DependencyChain.length_le {l : List Task} (hl : DependencyChain ts l)
    (h : ∀ t ∈ ts, ¬ HasBelow ts n t) : l.length ≤ n := by
  cases l with
  | nil => exact Nat.zero_le n
  | cons t r =>
    by_contra hlt
    refine h t (hl.mem t List.mem_cons_self) ⟨r.take n, ⟨fun u hu => ?_, ?_⟩, ?_⟩
    · exact hl.mem u (List.take_subset (n + 1) (t :: r) hu)
    · exact hl.linked.take (n + 1)
    · rw [List.length_take]
      simp only [List.length_cons] at hlt
      omega

end

end BuildLoop.Plan
