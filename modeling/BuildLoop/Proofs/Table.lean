import Mathlib.Data.String.Basic
import BuildLoop.Json.Value

/-!
# Tables

A table holds each key once, in increasing order; only then is what a table says of a key one thing.

    IsTable t   →   IsTable (putKey k v t)                                             (IsTable.putKey)
    (putKey k v t).lookup l = some v if l = k, else t.lookup l                          (lookup_putKey)
    the same is looked up in two tables   →   they are one                                (IsTable.ext)
-/

namespace BuildLoop

/-- Whether the keys of a table are strictly increasing. -/
def IsTable {α : Type} (t : List (String × α)) : Prop := t.Pairwise fun p q => p.1 < q.1

instance {α : Type} (t : List (String × α)) : Decidable (IsTable t) :=
  inferInstanceAs (Decidable (t.Pairwise fun p q => p.1 < q.1))

section
variable {α β : Type} {s t : List (String × α)} {k l : String} {v : α}

theorem lookup_entry (p : String × α) (t : List (String × α)) (l : String) :
    (p :: t).lookup l = if l = p.1 then some p.2 else t.lookup l := by
  rw [List.lookup_cons]
  by_cases h : l = p.1
  · rw [if_pos h, beq_iff_eq.2 h]
  · rw [if_neg h, beq_eq_false_iff_ne.2 h]

theorem mem_of_lookup (h : t.lookup k = some v) : (k, v) ∈ t := by
  induction t with
  | nil => cases h
  | cons p t ih =>
    rw [lookup_entry] at h
    split at h
    · next heq =>
      cases h
      exact heq ▸ List.mem_cons_self
    · exact List.mem_cons_of_mem _ (ih h)

theorem lookup_eq_none_of_lt (h : ∀ p ∈ t, k < p.1) : t.lookup k = none := by
  cases hk : t.lookup k with
  | none => rfl
  | some v => exact absurd (h _ (mem_of_lookup hk)) (String.lt_irrefl k)

/-! ## Putting in -/

theorem lookup_putKey : (putKey k v t).lookup l = if l = k then some v else t.lookup l := by
  induction t with
  | nil => rw [putKey, lookup_entry]
  | cons p t ih =>
    obtain ⟨k', v'⟩ := p
    rw [putKey]
    split
    · next heq =>
      subst heq
      simp only [lookup_entry]
      split <;> rfl
    split
    · rw [lookup_entry]
    · next hne _ =>
      rw [lookup_entry, lookup_entry, ih]
      by_cases h : l = k'
      · rw [if_pos h, if_pos h, if_neg (h ▸ hne)]
      · rw [if_neg h, if_neg h]

theorem mem_putKey {p : String × α} (h : p ∈ putKey k v t) : p = (k, v) ∨ p ∈ t := by
  induction t with
  | nil => exact .inl (List.mem_singleton.1 h)
  | cons q t ih =>
    obtain ⟨k', v'⟩ := q
    rw [putKey] at h
    split at h
    · exact (List.mem_cons.1 h).imp_right (List.mem_cons_of_mem _)
    split at h
    · exact List.mem_cons.1 h
    · rcases List.mem_cons.1 h with rfl | h
      · exact .inr List.mem_cons_self
      · exact (ih h).imp_right (List.mem_cons_of_mem _)

theorem IsTable.putKey (h : IsTable t) : IsTable (putKey k v t) := by
  induction t with
  | nil => exact List.pairwise_singleton _ _
  | cons p t ih =>
    obtain ⟨k', v'⟩ := p
    obtain ⟨hfirst, hrest⟩ := List.pairwise_cons.1 h
    rw [BuildLoop.putKey]
    split
    · next heq => exact List.pairwise_cons.2 ⟨heq ▸ hfirst, hrest⟩
    split
    · next hlt =>
      refine List.pairwise_cons.2 ⟨List.forall_mem_cons.2 ⟨hlt, fun p hp => ?_⟩, h⟩
      exact String.lt_trans hlt (hfirst p hp)
    · next hne hnlt =>
      refine List.pairwise_cons.2 ⟨fun p hp => ?_, ih hrest⟩
      rcases mem_putKey hp with rfl | hp
      · exact lt_of_le_of_ne (String.not_lt.1 hnlt) hne
      · exact hfirst p hp

/-! ## Looking up -/

/-- A table is what is looked up in it. -/
theorem IsTable.ext (hs : IsTable s) (ht : IsTable t) (h : ∀ k, s.lookup k = t.lookup k) : s = t := by
  induction s generalizing t with
  | nil =>
    cases t with
    | nil => rfl
    | cons q t => exact absurd (h q.1) (by simp [lookup_entry])
  | cons p s ih =>
    cases t with
    | nil => exact absurd (h p.1) (by simp [lookup_entry])
    | cons q t =>
      obtain ⟨hp, hs'⟩ := List.pairwise_cons.1 hs
      obtain ⟨hq, ht'⟩ := List.pairwise_cons.1 ht
      have hleft : p ∈ q :: t := mem_of_lookup (by rw [← h, lookup_entry, if_pos rfl])
      have hright : q ∈ p :: s := mem_of_lookup (by rw [h, lookup_entry, if_pos rfl])
      -- each of the two first keys would be smaller than the other one
      have hhead : p = q := by
        rcases List.mem_cons.1 hleft with heq | hmem
        · exact heq
        rcases List.mem_cons.1 hright with heq | hmem'
        · exact heq.symm
        · exact absurd (String.lt_trans (hq p hmem) (hp q hmem')) (String.lt_irrefl _)
      subst hhead
      refine congrArg (p :: ·) (ih hs' ht' fun k => ?_)
      have hk := h k
      rw [lookup_entry, lookup_entry] at hk
      by_cases heq : k = p.1
      · rw [heq, lookup_eq_none_of_lt hp, lookup_eq_none_of_lt hq]
      · rwa [if_neg heq, if_neg heq] at hk

theorem lookup_map (f : α → β) (t : List (String × α)) (k : String) :
    (t.map fun p => (p.1, f p.2)).lookup k = (t.lookup k).map f := by
  induction t with
  | nil => rfl
  | cons p t ih =>
    rw [List.map_cons, lookup_entry, lookup_entry, ih]
    split <;> rfl

end

end BuildLoop
