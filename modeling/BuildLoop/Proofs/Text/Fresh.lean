import Mathlib.Data.List.Nodup
import Mathlib.Data.List.Perm.Subperm
import Mathlib.Logic.Relation
import Mathlib.Order.Bounds.Defs
import BuildLoop.Text.Fresh

/-!
# A fresh name is free

Among one more names than are taken one is free, if the names are different. The first free one is found by
trying one number after the other, which a counter of 32 bits can do as long as it can hold the numbers of
all taken names:

    fresh name taken n ∉ taken        if `name` is injective                       (fresh_notMem)
    fresh name taken n = name k       for some k ≥ n                                (exists_fresh)
    n + taken.length < UInt32.size   →   turns lead from n to the least free k      (exists_turns_fresh)
-/

namespace BuildLoop.Text

open Relation

variable {name : Nat → String} {taken : List String}

/-- Names that end with their number are different. -/
theorem append_toString_injective (s : String) : Function.Injective fun n : Nat => s ++ toString n := by
  intro m n h
  have hnumber : toString m = toString n := (String.append_right_inj s).1 h
  rw [Nat.toString_eq_ofList_toDigits, Nat.toString_eq_ofList_toDigits] at hnumber
  have hdigits : Nat.toDigits 10 m = Nat.toDigits 10 n := String.ofList_injective hnumber
  have hvalue := congrArg (Nat.ofDigitChars 10 · 0) hdigits
  simp only [Nat.ofDigitChars_ten_toDigits] at hvalue
  exact hvalue

/-- All numbers before the one that is found belong to taken names. -/
theorem exists_firstFree (name : Nat → String) (taken : List String) (more n : Nat) :
    ∃ k, n ≤ k ∧ k ≤ n + more ∧ firstFree name taken more n = name k ∧ ∀ i, n ≤ i → i < k → name i ∈ taken := by
  induction more generalizing n with
  | zero => exact ⟨n, Nat.le_refl n, Nat.le_refl n, rfl, fun i hi hlt => by omega⟩
  | succ more ih =>
    rw [firstFree]
    split
    · next htaken =>
      obtain ⟨k, hk, hmore, he, hbefore⟩ := ih (n + 1)
      refine ⟨k, by omega, by omega, he, fun i hi hlt => ?_⟩
      rcases Nat.eq_or_lt_of_le hi with rfl | hi
      · exact List.contains_iff_mem.1 htaken
      · exact hbefore i hi hlt
    · exact ⟨n, Nat.le_refl n, Nat.le_add_right n _, rfl, fun i hi hlt => by omega⟩

theorem exists_fresh (name : Nat → String) (taken : List String) (n : Nat) :
    ∃ k, n ≤ k ∧ fresh name taken n = name k := by
  obtain ⟨k, hk, -, he, -⟩ := exists_firstFree name taken taken.length n
  exact ⟨k, hk, he⟩

/-- If the name that is found is taken, so are all before it. -/
theorem mem_of_firstFree_mem {more n : Nat} (h : firstFree name taken more n ∈ taken) {k : Nat}
    (hk : k ≤ more) : name (n + k) ∈ taken := by
  induction more generalizing n k with
  | zero =>
    obtain rfl : k = 0 := by omega
    exact h
  | succ more ih =>
    rw [firstFree] at h
    split at h
    · next htaken =>
      cases k with
      | zero => exact List.contains_iff_mem.1 htaken
      | succ k =>
        have hmem := ih h (show k ≤ more by omega)
        rwa [show n + 1 + k = n + (k + 1) by omega] at hmem
    · next hfree => exact absurd (List.contains_iff_mem.2 h) hfree

theorem fresh_notMem (hinj : Function.Injective name) (taken : List String) (n : Nat) :
    fresh name taken n ∉ taken := by
  intro h
  have hall : ((List.range (taken.length + 1)).map fun k => name (n + k)) ⊆ taken := by
    intro s hs
    obtain ⟨k, hk, rfl⟩ := List.mem_map.1 hs
    have hlt := List.mem_range.1 hk
    exact mem_of_firstFree_mem h (by omega)
  have hnodup : ((List.range (taken.length + 1)).map fun k => name (n + k)).Nodup := by
    refine List.Nodup.map (fun i j hij => ?_) List.nodup_range
    have hn := hinj hij
    omega
  have hlen := (hnodup.subperm hall).length_le
  rw [List.length_map, List.length_range] at hlen
  omega

/-! ## Trying one number after the other -/

/-- One turn of a search with a counter of 32 bits: the name is taken, and the counter goes on to the next
number without overflow. -/
def Turn (name : Nat → String) (taken : List String) (n m : UInt32) : Prop :=
  name n.toNat ∈ taken ∧ m.toNat = n.toNat + 1

/-- Turns lead over taken names as far as the counter reaches. -/
theorem turns_of_taken {n k : UInt32} (hle : n.toNat ≤ k.toNat)
    (htaken : ∀ i, n.toNat ≤ i → i < k.toNat → name i ∈ taken) : ReflTransGen (Turn name taken) n k := by
  obtain ⟨d, hd⟩ := Nat.exists_eq_add_of_le hle
  induction d generalizing n with
  | zero => exact UInt32.toNat_inj.1 hd ▸ .refl
  | succ d ih =>
    have hlt : n.toNat + 1 < UInt32.size := by
      have hbound := k.toNat_lt_size
      omega
    have hnext : (UInt32.ofNat (n.toNat + 1)).toNat = n.toNat + 1 := UInt32.toNat_ofNat_of_lt' hlt
    refine .head ⟨htaken n.toNat (Nat.le_refl _) (by omega), hnext⟩ (ih (by omega) (fun i hi => ?_) (by omega))
    exact htaken i (by omega)

/-- The fresh name is the least free one, and a counter finds it that can hold the numbers of all taken
names. -/
theorem exists_turns_fresh (hinj : Function.Injective name) {n : UInt32}
    (h : n.toNat + taken.length < UInt32.size) : ∃ k : UInt32, ReflTransGen (Turn name taken) n k ∧
      fresh name taken n.toNat = name k.toNat ∧ IsLeast {k | n.toNat ≤ k ∧ name k ∉ taken} k.toNat := by
  obtain ⟨k, hle, hmore, hk, hbefore⟩ := exists_firstFree name taken taken.length n.toNat
  have hbound : k < UInt32.size := by omega
  have hfree : name k ∉ taken := hk ▸ fresh_notMem hinj taken n.toNat
  refine ⟨UInt32.ofNat k, ?_⟩
  rw [UInt32.toNat_ofNat_of_lt' hbound]
  refine ⟨turns_of_taken ?_ ?_, hk, ⟨hle, hfree⟩, fun i hi => ?_⟩
  · rwa [UInt32.toNat_ofNat_of_lt' hbound]
  · rwa [UInt32.toNat_ofNat_of_lt' hbound]
  · by_contra hlt
    exact hi.2 (hbefore i hi.1 (Nat.lt_of_not_le hlt))

end BuildLoop.Text
