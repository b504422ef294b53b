import Mathlib.Data.List.Nodup
import Mathlib.Data.List.Perm.Basic
import BuildLoop.Proofs.Workflow.Alike

/-!
# Completed tasks as a union by id

Sets of completed tasks are built from the empty one by insertions and merges. Each keeps the ids of its
tasks, each once. Merging appends what is new in the other set, in its order; it is associative, a set merged
with itself or with the empty set stays as it is:

    Built s   →   s.ids = s.tasks.map id, without repetition                                (Built.kept)
    Built u   →   (s.merge u).1.tasks = s.tasks ++ what of u.tasks is new in s              (merge_eq)
    t ∈ (s.mergeAll ds).tasks   ↔   t ∈ s.tasks, or t is new in s and in some set of ds (mem_mergeAll)

The first task of an id stays, so what a set holds depends on the order of merges. It does not where the sets
that are merged agree on the ids they share, as the last line shows: it does not speak of their order.
-/

namespace BuildLoop

namespace CompletedTasks

/-- What insertions and merges make of the empty set. -/
inductive Built : CompletedTasks → Prop
  | empty : Built empty
  | insert {s : CompletedTasks} (hs : Built s) (t : Task) : Built (s.insert t).1
  | merge {s u : CompletedTasks} (hs : Built s) (hu : Built u) : Built (s.merge u).1

/-- Whether the ids beside the tasks are theirs, each once. -/
structure Kept (s : CompletedTasks) : Prop where
  ids : s.ids = s.tasks.map (·.id)
  nodup : (s.tasks.map (·.id)).Nodup

/-- Whether no task of a set has the id of a task. -/
def IsNew (s : CompletedTasks) (t : Task) : Prop := t.id ∉ s.tasks.map (·.id)

instance (s : CompletedTasks) (t : Task) : Decidable (s.IsNew t) :=
  inferInstanceAs (Decidable (t.id ∉ s.tasks.map (·.id)))

variable {s u v : CompletedTasks} {t : Task} {ts : List Task} {deltas deltas' : List CompletedTasks}

/-! ## Ids -/

theorem Kept.contains_iff (h : Kept s) {id : String} : s.contains id = true ↔ ∃ t ∈ s.tasks, t.id = id := by
  unfold contains
  rw [h.ids, List.contains_iff_mem, List.mem_map]

theorem Kept.isNew_iff (h : Kept s) : s.IsNew t ↔ s.contains t.id = false := by
  unfold IsNew contains
  rw [← h.ids, List.contains_eq_mem, decide_eq_false_iff_not]

/-- The ids beside the tasks say nothing that the tasks do not. -/
theorem Kept.ext (hs : Kept s) (hu : Kept u) (h : s.tasks = u.tasks) : s = u := by
  have hids : s.ids = u.ids := by rw [hs.ids, hu.ids, h]
  cases s
  cases u
  simp_all

theorem kept_empty : Kept empty := ⟨rfl, List.nodup_nil⟩

/-! ## Insertions -/

theorem insert_of_new (hs : Kept s) (h : s.IsNew t) : s.insert t = (⟨s.tasks ++ [t], s.ids ++ [t.id]⟩, true) := by
  rw [insert, hs.isNew_iff.1 h]
  rfl

theorem insert_of_not_new (hs : Kept s) (h : ¬ s.IsNew t) : s.insert t = (s, false) := by
  rw [hs.isNew_iff, Bool.not_eq_false] at h
  rw [insert, h]
  rfl

theorem Kept.insert (hs : Kept s) (t : Task) : Kept (s.insert t).1 := by
  by_cases h : s.IsNew t
  · rw [insert_of_new hs h]
    refine ⟨?_, ?_⟩
    · show s.ids ++ [t.id] = (s.tasks ++ [t]).map (·.id)
      rw [hs.ids, List.map_append, List.map_singleton]
    · show ((s.tasks ++ [t]).map (·.id)).Nodup
      rw [List.map_append, List.map_singleton, List.nodup_append]
      refine ⟨hs.nodup, List.nodup_singleton _, ?_⟩
      intro a ha b hb hab
      rw [List.mem_singleton.1 hb] at hab
      exact h (hab ▸ ha)
  · rwa [insert_of_not_new hs h]

theorem insertAll_cons (s : CompletedTasks) (t : Task) (ts : List Task) : s.insertAll (t :: ts) =
    (((s.insert t).1.insertAll ts).1, ((s.insert t).1.insertAll ts).2 + if (s.insert t).2 then 1 else 0) := rfl

/-- Of tasks with different ids those that are new are appended, in their order. -/
theorem insertAll_eq (hs : Kept s) (hts : (ts.map (·.id)).Nodup) :
    Kept (s.insertAll ts).1 ∧ (s.insertAll ts).1.tasks = s.tasks ++ ts.filter (s.IsNew ·) ∧
      (s.insertAll ts).2 = (ts.filter (s.IsNew ·)).length := by
  induction ts generalizing s with
  | nil => exact ⟨hs, (List.append_nil _).symm, rfl⟩
  | cons t ts ih =>
    rw [List.map_cons, List.nodup_cons] at hts
    obtain ⟨hkept, htasks, hcount⟩ := ih (hs.insert t) hts.2
    rw [insertAll_cons]
    by_cases h : s.IsNew t
    · rw [insert_of_new hs h] at hkept htasks hcount ⊢
      -- the tasks behind `t` have other ids, so to them the same is new
      have hsame : ts.filter ((⟨s.tasks ++ [t], s.ids ++ [t.id]⟩ : CompletedTasks).IsNew ·) =
          ts.filter (s.IsNew ·) := by
        refine List.filter_congr fun u hu => ?_
        have hne : u.id ≠ t.id := fun he => hts.1 (he ▸ List.mem_map_of_mem hu)
        simp [IsNew, hne]
      rw [hsame] at htasks hcount
      rw [List.filter_cons_of_pos (by simpa using h)]
      refine ⟨hkept, ?_, ?_⟩
      · rw [htasks, List.append_assoc, List.singleton_append]
      · rw [List.length_cons, ← hcount]
        rfl
    · rw [insert_of_not_new hs h] at hkept htasks hcount ⊢
      rw [List.filter_cons_of_neg (by simpa using h)]
      exact ⟨hkept, htasks, hcount⟩

/-! ## Merges -/

/-- Merging appends what is new in the other set, in its order, and counts it. -/
theorem merge_eq (hs : Kept s) (hu : Kept u) : Kept (s.merge u).1 ∧
    (s.merge u).1.tasks = s.tasks ++ u.tasks.filter (s.IsNew ·) ∧
      (s.merge u).2 = (u.tasks.filter (s.IsNew ·)).length :=
  insertAll_eq hs hu.nodup

theorem Kept.merge (hs : Kept s) (hu : Kept u) : Kept (s.merge u).1 := (merge_eq hs hu).1

theorem Built.kept (h : Built s) : Kept s := by
  induction h with
  | empty => exact kept_empty
  | insert _ t ih => exact ih.insert t
  | merge _ _ ihs ihu => exact ihs.merge ihu

theorem mem_merge (hs : Kept s) (hu : Kept u) :
    t ∈ (s.merge u).1.tasks ↔ t ∈ s.tasks ∨ t ∈ u.tasks ∧ s.IsNew t := by
  rw [(merge_eq hs hu).2.1, List.mem_append, List.mem_filter, decide_eq_true_eq]

/-- What is new in a union is new in both sets. -/
theorem isNew_merge (hs : Kept s) (hu : Kept u) : (s.merge u).1.IsNew t ↔ s.IsNew t ∧ u.IsNew t := by
  unfold IsNew
  simp only [List.mem_map, not_exists, not_and, mem_merge hs hu]
  constructor
  · intro h
    refine ⟨fun a ha => h a (.inl ha), fun a ha hid => ?_⟩
    by_cases hnew : s.IsNew a
    · exact h a (.inr ⟨ha, hnew⟩) hid
    · obtain ⟨b, hb, hba⟩ := List.mem_map.1 (not_not.1 hnew)
      exact h b (.inl hb) (hba.trans hid)
  · rintro ⟨hs, hu⟩ a (ha | ⟨ha, -⟩)
    · exact hs a ha
    · exact hu a ha

theorem merge_assoc (hs : Kept s) (hu : Kept u) (hv : Kept v) :
    ((s.merge u).1.merge v).1 = (s.merge (u.merge v).1).1 := by
  have hleft := merge_eq (hs.merge hu) hv
  have hright := merge_eq hs (hu.merge hv)
  have hnew : v.tasks.filter ((s.merge u).1.IsNew ·) = (v.tasks.filter (u.IsNew ·)).filter (s.IsNew ·) := by
    rw [List.filter_filter]
    refine List.filter_congr fun t _ => ?_
    rw [← Bool.decide_and, decide_eq_decide]
    exact isNew_merge hs hu
  refine hleft.1.ext hright.1 ?_
  calc ((s.merge u).1.merge v).1.tasks
      = s.tasks ++ u.tasks.filter (s.IsNew ·) ++ v.tasks.filter ((s.merge u).1.IsNew ·) := by
        rw [hleft.2.1, (merge_eq hs hu).2.1]
    _ = s.tasks ++ (u.tasks ++ v.tasks.filter (u.IsNew ·)).filter (s.IsNew ·) := by
        rw [hnew, List.filter_append, List.append_assoc]
    _ = (s.merge (u.merge v).1).1.tasks := by
        rw [hright.2.1, (merge_eq hu hv).2.1]

theorem merge_self (hs : Kept s) : s.merge s = (s, 0) := by
  obtain ⟨hkept, htasks, hcount⟩ := merge_eq hs hs
  have hnone : s.tasks.filter (s.IsNew ·) = [] := by
    rw [List.filter_eq_nil_iff]
    intro t ht
    simpa [IsNew] using ⟨t, ht, rfl⟩
  rw [hnone] at htasks hcount
  exact Prod.ext (hkept.ext hs (htasks.trans (List.append_nil _))) hcount

theorem merge_empty (s : CompletedTasks) : s.merge empty = (s, 0) := rfl

theorem empty_merge (hs : Kept s) : (empty.merge s).1 = s := by
  obtain ⟨hkept, htasks, -⟩ := merge_eq kept_empty hs
  have hall : s.tasks.filter (empty.IsNew ·) = s.tasks := by
    rw [List.filter_eq_self]
    intro t _
    simp [IsNew, empty]
  exact hkept.ext hs (by rw [htasks, hall]; rfl)

theorem built_insertAll (hs : Built s) (ts : List Task) : Built (s.insertAll ts).1 := by
  induction ts generalizing s with
  | nil => exact hs
  | cons t ts ih => exact ih (hs.insert t)

theorem built_ofList (ts : List Task) : Built (ofList ts) := built_insertAll .empty ts

/-! ## Merges of many sets -/

/-- The union with each of some sets, one after another. -/
def mergeAll (s : CompletedTasks) (deltas : List CompletedTasks) : CompletedTasks :=
  deltas.foldl (fun s d => (s.merge d).1) s

/-- Whether no two sets hold different tasks with one id. -/
def Agree (deltas : List CompletedTasks) : Prop :=
  ∀ d ∈ deltas, ∀ e ∈ deltas, ∀ t ∈ d.tasks, ∀ t' ∈ e.tasks, t.id = t'.id → t = t'

instance (deltas : List CompletedTasks) : Decidable (Agree deltas) :=
  inferInstanceAs (Decidable (∀ d ∈ deltas, ∀ e ∈ deltas, ∀ t ∈ d.tasks, ∀ t' ∈ e.tasks, t.id = t'.id → t = t'))

theorem Kept.mergeAll (hs : Kept s) (hdeltas : ∀ d ∈ deltas, Kept d) : Kept (s.mergeAll deltas) := by
  induction deltas generalizing s with
  | nil => exact hs
  | cons d deltas ih =>
    obtain ⟨hd, hdeltas⟩ := List.forall_mem_cons.1 hdeltas
    exact ih (hs.merge hd) hdeltas

/-- What sets that agree add to a set is what is new to it. -/
theorem mem_mergeAll (hs : Kept s) (hdeltas : ∀ d ∈ deltas, Kept d) (hagree : Agree deltas) :
    t ∈ (s.mergeAll deltas).tasks ↔ t ∈ s.tasks ∨ s.IsNew t ∧ ∃ d ∈ deltas, t ∈ d.tasks := by
  induction deltas generalizing s with
  | nil => simp [mergeAll]
  | cons d deltas ih =>
    obtain ⟨hd, hdeltas⟩ := List.forall_mem_cons.1 hdeltas
    have hrest : Agree deltas := fun d hd e he =>
      hagree d (List.mem_cons_of_mem _ hd) e (List.mem_cons_of_mem _ he)
    show t ∈ ((s.merge d).1.mergeAll deltas).tasks ↔ _
    rw [ih (hs.merge hd) hdeltas hrest, mem_merge hs hd, isNew_merge hs hd]
    constructor
    · rintro ((ht | ⟨ht, hnew⟩) | ⟨⟨hnew, -⟩, e, he, ht⟩)
      · exact .inl ht
      · exact .inr ⟨hnew, d, List.mem_cons_self, ht⟩
      · exact .inr ⟨hnew, e, List.mem_cons_of_mem _ he, ht⟩
    · rintro (ht | ⟨hnew, e, he, ht⟩)
      · exact .inl (.inl ht)
      · by_cases hother : d.IsNew t
        · rcases List.mem_cons.1 he with rfl | he
          · exact .inl (.inr ⟨ht, hnew⟩)
          · exact .inr ⟨⟨hnew, hother⟩, e, he, ht⟩
        · -- the first set holds a task with the id of `t`, which is `t` as they agree
          obtain ⟨t', ht', hid⟩ := List.mem_map.1 (not_not.1 hother)
          obtain rfl := hagree d List.mem_cons_self e he t' ht' t ht hid
          exact .inl (.inr ⟨ht', hnew⟩)

theorem same_mergeAll (hs : Kept s) (hdeltas : ∀ d ∈ deltas, Kept d) (hagree : Agree deltas)
    (hperm : deltas.Perm deltas') : (s.mergeAll deltas).Same (s.mergeAll deltas') := by
  have hdeltas' : ∀ d ∈ deltas', Kept d := fun d hd => hdeltas d (hperm.mem_iff.2 hd)
  have hagree' : Agree deltas' := fun d hd e he => hagree d (hperm.mem_iff.2 hd) e (hperm.mem_iff.2 he)
  have hleft := hs.mergeAll hdeltas
  have hright := hs.mergeAll hdeltas'
  have htasks : (s.mergeAll deltas).tasks.Perm (s.mergeAll deltas').tasks := by
    rw [List.perm_ext_iff_of_nodup hleft.nodup.of_map hright.nodup.of_map]
    intro t
    rw [mem_mergeAll hs hdeltas hagree, mem_mergeAll hs hdeltas' hagree']
    simp only [hperm.mem_iff]
  refine ⟨htasks, ?_⟩
  rw [hleft.ids, hright.ids]
  exact htasks.map _

/-! ## Sets that are built -/

/-- However they are built, sets hold each id once and merge as unions by id: what is new is appended and
counted, merging is associative, keeps a set that is merged with itself, has the empty set as identity, and
sets that agree on the ids they share may be merged in any order. -/
theorem merge_laws (hs : Built s) (hu : Built u) (hv : Built v) (hdeltas : ∀ d ∈ deltas, Built d)
    (hagree : Agree deltas) (hperm : deltas.Perm deltas') :
    ((s.tasks.map (·.id)).Nodup ∧ s.ids = s.tasks.map (·.id)) ∧
    ((s.merge u).1.tasks = s.tasks ++ u.tasks.filter (s.IsNew ·) ∧
      (s.merge u).2 = (u.tasks.filter (s.IsNew ·)).length) ∧
    ((s.merge u).1.merge v).1 = (s.merge (u.merge v).1).1 ∧
    s.merge s = (s, 0) ∧ s.merge empty = (s, 0) ∧ (empty.merge s).1 = s ∧
    (s.mergeAll deltas).Same (s.mergeAll deltas') :=
  ⟨⟨hs.kept.nodup, hs.kept.ids⟩, (merge_eq hs.kept hu.kept).2, merge_assoc hs.kept hu.kept hv.kept,
    merge_self hs.kept, merge_empty s, empty_merge hs.kept,
    same_mergeAll hs.kept (fun d hd => (hdeltas d hd).kept) hagree hperm⟩

/-- Two workers tell of one task, and one of them of another too; what was there stays as it was. -/
theorem merge_laws_overlapping :
    let task (id description : String) : Task := ⟨id, description, .frontend, .completed, [], none, none⟩
    let s := ofList [task "task_1" "Create index.html."]
    let u := ofList [task "task_2" "Create style.css.", task "task_1" "Rewrite index.html."]
    let v := ofList [task "task_2" "Create style.css."]
    Built s ∧ Agree [u, v] ∧
      (s.merge u).1.tasks = [task "task_1" "Create index.html.", task "task_2" "Create style.css."] ∧
      (s.merge u).2 = 1 ∧ (s.mergeAll [u, v]).Same (s.mergeAll [v, u]) := by
  intro task s u v
  have hagree : Agree [u, v] := by decide
  have hdeltas : ∀ d ∈ [u, v], Built d := by
    intro d hd
    rcases List.mem_pair.1 hd with rfl | rfl
    · exact built_ofList _
    · exact built_ofList _
  obtain ⟨-, ⟨htasks, hcount⟩, -, -, -, -, hsame⟩ := merge_laws (built_ofList _ : Built s) (built_ofList _ : Built u)
    (built_ofList _ : Built v) hdeltas hagree (List.Perm.swap v u [])
  exact ⟨built_ofList _, hagree, htasks, hcount, hsame⟩

end CompletedTasks

end BuildLoop
