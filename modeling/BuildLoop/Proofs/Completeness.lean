import BuildLoop.Completeness
import BuildLoop.Proofs.Text.Occurs

/-!
# What complaints about files say

A file that is not complete is named in the complaint. What is wrong with it is said in words of this
program, whatever the file holds, unless it is JSON. None of them holds `ul`, as the words for a module
that was not found and for a program that was not started do:

    checkComplete path content = error e   →   e.file = path                        (file_of_checkComplete)
    … and path is no JSON                  →   Terse e.message                     (terse_of_checkComplete)
-/

namespace BuildLoop.Completeness

open Text

/-- Whether a text holds no `ul`. -/
def Terse (s : String) : Prop := ¬ ['u', 'l'] <:+: s.toList

instance (s : String) : Decidable (Terse s) := inferInstanceAs (Decidable (¬ _ <:+: _))

theorem not_infix_toDigits (n : Nat) : ¬ ['u', 'l'] <:+: Nat.toDigits 10 n := by
  refine not_infix_of_mem List.mem_cons_self fun h => ?_
  have hdigit := Nat.isDigit_of_mem_toDigits (by decide) (by decide) h
  exact absurd hdigit (by decide)

/-! ## Documents -/

theorem terse_htmlFault {content message : String} (h : htmlFault? content = some message) :
    Terse message := by
  unfold htmlFault? at h
  simp only at h
  split at h
  · obtain rfl := Option.some.inj h
    decide
  split at h
  · obtain rfl := Option.some.inj h
    decide
  split at h
  · obtain rfl := Option.some.inj h
    decide
  split at h
  · obtain rfl := Option.some.inj h
    unfold Terse
    have hblank : ' ' ∉ ['u', 'l'] := by decide
    simp [infix_append_cons hblank, List.infix_cons_iff, not_infix_toDigits]
  · cases h

/-! ## Brackets -/

theorem terse_pass {c : Char} {line : Nat} {opened : List (Char × Nat)} {e : Imbalance}
    (h : pass c line opened = .error e) : Terse e.message := by
  unfold pass at h
  split at h
  · cases h
  split at h
  · cases h
  split at h
  · obtain rfl := Except.error.inj h
    simp [Terse, inQuotes, List.infix_cons_iff]
  · split at h
    · cases h
    · obtain rfl := Except.error.inj h
      simp [Terse, inQuotes, List.infix_cons_iff, not_infix_toDigits]

theorem terse_checkFrom {f : Family} {line : Nat} {opened : List (Char × Nat)} {s : List Char}
    {e : Imbalance} (h : checkFrom f line opened s = .error e) : Terse e.message := by
  fun_induction checkFrom f line opened s with
  | case1 => cases h
  | case2 =>
    obtain rfl := Except.error.inj h
    simp [Terse, inQuotes, List.infix_cons_iff]
  | case5 | case8 | case10 =>
    obtain rfl := Except.error.inj h
    simp [Terse, List.infix_cons_iff]
  | case12 =>
    obtain rfl := Except.error.inj h
    exact terse_pass ‹_›
  | case3 | case4 | case6 | case7 | case9 | case11 =>
    -- the check goes on behind the character, the comment or the string
    rename_i ih
    exact ih h

/-! ## Complaints -/

variable {path content : String} {e : Incomplete}

theorem terse_fault {ext : String} {line : Option Nat} {message : String} (hext : ext ≠ "json")
    (h : fault? ext content = some (line, message)) : Terse message := by
  unfold fault? at h
  split at h
  · obtain ⟨m, hm, heq⟩ := Option.map_eq_some_iff.1 h
    obtain ⟨-, rfl⟩ := Prod.mk.inj heq
    exact terse_htmlFault hm
  split at h
  · cases h
  split at h
  · cases h
  · next e he =>
    obtain ⟨-, rfl⟩ := Prod.mk.inj (Option.some.inj h)
    exact terse_checkFrom he

theorem file_of_checkComplete (h : checkComplete path content = .error e) : e.file = path := by
  unfold checkComplete at h
  split at h
  · obtain rfl := Except.error.inj h
    rfl
  · split at h
    · obtain rfl := Except.error.inj h
      rfl
    · cases h

theorem terse_of_checkComplete (hpath : extension (lowercase path) ≠ "json")
    (h : checkComplete path content = .error e) : Terse e.message := by
  have hmarkers : ∀ marker ∈ markers, Terse ("contains truncation marker '" ++ marker ++ "'") := by
    decide +kernel
  unfold checkComplete at h
  split at h
  · next marker hmarker =>
    obtain rfl := Except.error.inj h
    exact hmarkers marker (List.mem_of_find?_eq_some hmarker)
  · split at h
    · next line message hfault =>
      obtain rfl := Except.error.inj h
      exact terse_fault hpath hfault
    · cases h

end BuildLoop.Completeness
