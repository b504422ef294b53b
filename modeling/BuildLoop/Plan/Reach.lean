import BuildLoop.Task.Basic

/-!
# Reachability along dependencies

The edges of an id lead to the dependencies of the last task that has the id; an unknown id has none. A search
keeps a stack of ids to look at and the ids it has seen. An id may be on the stack many times before it is seen,
but its dependencies are put there once, so that with every turn less is left to look at:

    s.turn ts target = .continues s'   →   s'.left ts < s.left ts                       (left_lt_of_turn)
    dependsOn ts t id = true   ↔   a path of one or more dependencies leads from t to id
-/

namespace BuildLoop.Plan

/-- The last task with an id. -/
def lastTask? (ts : List Task) (id : String) : Option Task := ts.reverse.find? (·.id == id)

/-- The dependencies of the last task with an id. -/
def dependenciesOf (ts : List Task) (id : String) : List String :=
  match lastTask? ts id with
  | some t => t.dependencies
  | none => []

theorem mem_of_lastTask? {ts : List Task} {id : String} {t : Task} (h : lastTask? ts id = some t) :
    t ∈ ts ∧ t.id = id := by
  have hm := List.mem_of_find?_eq_some h
  have hp := List.find?_some h
  exact ⟨by simpa using hm, by simpa using hp⟩

/-! ## What has not been seen -/

/-- The dependencies of a task whose id has not been seen. -/
def unseenOf (seen : List String) (t : Task) : List String :=
  if t.id ∈ seen then [] else t.dependencies

/-- The dependencies of all tasks whose id has not been seen. -/
def unseen (ts : List Task) (seen : List String) : List String := ts.flatMap (unseenOf seen)

section
variable {ts : List Task} {t : Task} {id : String} {seen : List String}

theorem length_unseenOf_le : (unseenOf (id :: seen) t).length ≤ (unseenOf seen t).length := by
  unfold unseenOf
  split
  · exact Nat.zero_le _
  · next hcons =>
    have hseen : t.id ∉ seen := fun hmem => hcons (List.mem_cons_of_mem _ hmem)
    exact Nat.le_of_eq (congrArg List.length (if_neg hseen).symm)

/-- Seeing one id more adds nothing to what is unseen. -/
theorem length_unseen_le : (unseen ts (id :: seen)).length ≤ (unseen ts seen).length := by
  unfold unseen
  induction ts with
  | nil => exact Nat.le_refl _
  | cons u r ih =>
    simp only [List.flatMap_cons, List.length_append]
    exact Nat.add_le_add length_unseenOf_le ih

/-- The dependencies of a task are unseen until its id is seen. -/
theorem length_unseen_of_mem (ht : t ∈ ts) (hseen : t.id ∉ seen) :
    t.dependencies.length + (unseen ts (t.id :: seen)).length ≤ (unseen ts seen).length := by
  unfold unseen
  induction ts with
  | nil => cases ht
  | cons u r ih =>
    simp only [List.flatMap_cons, List.length_append]
    rcases List.mem_cons.1 ht with rfl | hr
    · have hrest : (unseen r (t.id :: seen)).length ≤ (unseen r seen).length := length_unseen_le
      have hbefore : unseenOf seen t = t.dependencies := if_neg hseen
      have hafter : unseenOf (t.id :: seen) t = [] := if_pos List.mem_cons_self
      unfold unseen at hrest
      rw [hbefore, hafter, List.length_nil]
      omega
    · have hhead : (unseenOf (t.id :: seen) u).length ≤ (unseenOf seen u).length := length_unseenOf_le
      have hrest := ih hr
      omega

/-- What an id puts on a stack was unseen before. -/
theorem length_dependenciesOf_le (hseen : id ∉ seen) :
    (dependenciesOf ts id).length + (unseen ts (id :: seen)).length ≤ (unseen ts seen).length := by
  unfold dependenciesOf
  cases h : lastTask? ts id with
  | none =>
    rw [List.length_nil, Nat.zero_add]
    exact length_unseen_le
  | some t =>
    obtain ⟨ht, rfl⟩ := mem_of_lastTask? h
    exact length_unseen_of_mem ht hseen

end

/-! ## Searches -/

/-- A search under way: the ids it has seen, and those it is to look at, the next one first. -/
structure Search where
  seen : List String
  stack : List String
  deriving DecidableEq, Repr

namespace Search

/-- What one turn of a search comes to. -/
inductive Turn where
  | answers (found : Bool)
  | continues (s : Search)
  deriving DecidableEq, Repr

/-- Takes the next id. If it is neither the target nor seen, its dependencies go on the stack, the last of them
on top. -/
def turn (ts : List Task) (target : String) (s : Search) : Turn :=
  match s.stack with
  | [] => .answers false
  | id :: rest =>
    if id = target then .answers true
    else if id ∈ s.seen then .continues ⟨s.seen, rest⟩
    else .continues ⟨id :: s.seen, (dependenciesOf ts id).reverse ++ rest⟩

/-- How many ids are on the stack or may still be put there. -/
def left (ts : List Task) (s : Search) : Nat := s.stack.length + (unseen ts s.seen).length

section
variable {ts : List Task} {target : String} {s : Search}

theorem of_turn_answers {found : Bool} (h : s.turn ts target = .answers found) :
    s.stack = [] ∧ found = false ∨ target ∈ s.stack ∧ found = true := by
  unfold turn at h
  split at h
  · next hstack =>
    cases h
    exact .inl ⟨hstack, rfl⟩
  · next id rest hstack =>
    split at h
    · next hid =>
      cases h
      exact .inr ⟨hstack ▸ hid ▸ List.mem_cons_self, rfl⟩
    · split at h <;> cases h

theorem of_turn_continues {s' : Search} (h : s.turn ts target = .continues s') :
    ∃ id rest, s.stack = id :: rest ∧ id ≠ target ∧ (id ∈ s.seen ∧ s' = ⟨s.seen, rest⟩ ∨
      id ∉ s.seen ∧ s' = ⟨id :: s.seen, (dependenciesOf ts id).reverse ++ rest⟩) := by
  unfold turn at h
  split at h
  · cases h
  · next id rest hstack =>
    split at h
    · cases h
    · next hne =>
      refine ⟨id, rest, hstack, hne, ?_⟩
      split at h
      · next hseen =>
        cases h
        exact .inl ⟨hseen, rfl⟩
      · next hseen =>
        cases h
        exact .inr ⟨hseen, rfl⟩

theorem left_lt_of_turn {s' : Search} (h : s.turn ts target = .continues s') : s'.left ts < s.left ts := by
  obtain ⟨id, rest, hstack, -, ⟨-, rfl⟩ | ⟨hseen, rfl⟩⟩ := of_turn_continues h
  · simp only [left, hstack, List.length_cons]
    omega
  · have hle : (dependenciesOf ts id).length + (unseen ts (id :: s.seen)).length ≤ (unseen ts s.seen).length :=
      length_dependenciesOf_le hseen
    simp only [left, hstack, List.length_append, List.length_reverse, List.length_cons]
    omega

end

/-- Takes turns until one answers. -/
def run (ts : List Task) (target : String) (s : Search) : Bool :=
  match _h : s.turn ts target with
  | .answers found => found
  | .continues s' => s'.run ts target
termination_by s.left ts
decreasing_by exact left_lt_of_turn _h

/-- A search that starts from the dependencies of a task. -/
def start (t : Task) : Search := ⟨[], t.dependencies.reverse⟩

end Search

/-- Whether a task depends on a target, directly or not. -/
def dependsOn (ts : List Task) (t : Task) (target : String) : Bool := (Search.start t).run ts target

end BuildLoop.Plan
