import BuildLoop.Text.LetterCase
import Mathlib.Data.Bool.AllAny
import Mathlib.Data.List.Basic

/-!
# What letter case makes of a text

In lower case each ASCII character of a text becomes one character, and every other becomes some
characters which are no ASCII signs; the same holds of capitals. So the signs of a text are where they
were:

    Lowered s (lower s)                                                                   (lowered_lower)
    Lowered (u ++ s) t, u in ASCII   →   t = u.map toLower ++ t',  Lowered s t'            (Lowered.ascii_append)

A sign that has no case ends every word, so what stands before it and what stands behind it are lower-cased
each by itself:

    lower (a ++ '/' :: b) = lower a ++ '/' :: lower b                                      (lower_append)
-/

namespace BuildLoop.Text

/-! ## Images -/

/-- Whether a character is a letter or lies beyond ASCII. -/
def IsMild (c : Char) : Prop := 128 ≤ c.toNat ∨ c.isAlpha = true

instance (c : Char) : Decidable (IsMild c) := inferInstanceAs (Decidable (_ ∨ _))

/-- Whether all images of a run are characters that are letters or lie beyond ASCII. -/
def CaseRun.isMild (r : CaseRun) : Bool :=
  let first := (r.first : Int) + r.shift
  let last := (r.last : Int) + r.shift
  r.first == r.last && decide (IsMild (Char.ofNat first.toNat)) ||
    decide (128 ≤ first ∧ last < 0x110000 ∧ (last < 0xd800 ∨ 0xe000 ≤ first))

theorem toNat_ofNat {n : Nat} (h : n.isValidChar) : (Char.ofNat n).toNat = n := by
  rw [Char.ofNat, dif_pos h]
  rfl

theorem isMild_shiftCase {runs : List CaseRun} (hruns : ∀ r ∈ runs, r.isMild = true) {c : Char}
    (hc : 128 ≤ c.toNat) : IsMild (Char.ofNat (shiftCase runs c.toNat)) := by
  unfold shiftCase
  cases hfind : runs.find? (·.holds c.toNat) with
  | none =>
    refine .inl ?_
    rw [Char.ofNat_toNat]
    exact hc
  | some r =>
    have hmild := hruns r (List.mem_of_find?_eq_some hfind)
    have hholds := List.find?_some hfind
    simp only [CaseRun.holds, Bool.and_eq_true, decide_eq_true_eq] at hholds
    obtain ⟨⟨hfirst, hlast⟩, -⟩ := hholds
    simp only [CaseRun.isMild, Bool.or_eq_true, Bool.and_eq_true, beq_iff_eq, decide_eq_true_eq] at hmild
    rcases hmild with ⟨hone, hmild⟩ | ⟨hlow, hhigh, hgap⟩
    · have heq : r.first = c.toNat := by omega
      rw [heq] at hmild
      exact hmild
    · refine .inl ?_
      have hvalid : ((c.toNat : Int) + r.shift).toNat.isValidChar := by
        unfold Nat.isValidChar
        omega
      simp only [toNat_ofNat hvalid]
      omega

theorem isMild_lowerRuns : ∀ r ∈ lowerRuns, r.isMild = true := by decide +kernel

theorem isMild_upperRuns : ∀ r ∈ upperRuns, r.isMild = true := by decide +kernel

theorem isMild_longCapitals : ∀ p ∈ longCapitals, p.2.length ≤ 3 ∧ ∀ n ∈ p.2, IsMild (Char.ofNat n) := by
  decide

theorem isMild_lowerChar {c d : Char} (hc : 128 ≤ c.toNat) (hd : d ∈ lowerChar c) : IsMild d := by
  unfold lowerChar at hd
  rw [if_neg (by omega)] at hd
  split at hd
  · have hall : ∀ d ∈ ['i', Char.ofNat 0x307], IsMild d := List.all_iff_forall_prop.1 (by decide)
    exact hall d hd
  · obtain rfl := List.mem_singleton.1 hd
    exact isMild_shiftCase isMild_lowerRuns hc

theorem isMild_upperChar {c d : Char} (hc : 128 ≤ c.toNat) (hd : d ∈ upperChar c) : IsMild d := by
  unfold upperChar at hd
  rw [if_neg (by omega)] at hd
  split at hd
  · next cs hfind =>
    obtain ⟨n, hn, rfl⟩ := List.mem_map.1 hd
    exact (isMild_longCapitals _ (List.mem_of_find?_eq_some hfind)).2 n hn
  · obtain rfl := List.mem_singleton.1 hd
    exact isMild_shiftCase isMild_upperRuns hc

theorem length_upperChar (c : Char) : 1 ≤ (upperChar c).length ∧ (upperChar c).length ≤ 3 := by
  have hne : ∀ p ∈ longCapitals, 1 ≤ p.2.length := by decide
  unfold upperChar
  split
  · exact ⟨Nat.le_refl 1, by simp⟩
  · split
    · next cs hfind =>
      have hmem := List.mem_of_find?_eq_some hfind
      rw [List.length_map]
      exact ⟨hne _ hmem, (isMild_longCapitals _ hmem).1⟩
    · exact ⟨Nat.le_refl 1, by simp⟩

theorem toNat_lt_of_isAlphanum {c : Char} (h : c.isAlphanum = true) : c.toNat < 128 := by
  have hcode : c.toNat = c.val.toNat := rfl
  have hupper : 'Z'.val.toNat = 90 := rfl
  have hlower : 'z'.val.toNat = 122 := rfl
  have hdigit : '9'.val.toNat = 57 := rfl
  have hdef : c.isAlphanum = (decide ('A'.val ≤ c.val ∧ c.val ≤ 'Z'.val) ||
      (decide ('a'.val ≤ c.val) && decide (c.val ≤ 'z'.val)) ||
      (decide ('0'.val ≤ c.val) && decide (c.val ≤ '9'.val))) := rfl
  simp only [hdef, Bool.or_eq_true, Bool.and_eq_true, decide_eq_true_eq, UInt32.le_iff_toNat_le] at h
  omega

/-- What holds of each character of ASCII, checked code by code. -/
theorem of_codes {P : Char → Prop} (h : ∀ n < 128, P (Char.ofNat n)) {c : Char} (hc : c.toNat < 128) : P c := by
  have := h c.toNat hc
  rwa [Char.ofNat_toNat] at this

/-! ## Texts in lower case -/

/-- What a text is in lower case, up to what becomes of the characters beyond ASCII. -/
inductive Lowered : List Char → List Char → Prop
  | nil : Lowered [] []
  | ascii {c : Char} {s t : List Char} (hc : c.toNat < 128) (h : Lowered s t) :
    Lowered (c :: s) (c.toLower :: t)
  | beyond {c : Char} {cs s t : List Char} (hc : 128 ≤ c.toNat) (hcs : ∀ d ∈ cs, IsMild d)
    (h : Lowered s t) : Lowered (c :: s) (cs ++ t)

theorem lowerFrom_eq (before acc s : List Char) :
    lowerFrom before acc s = acc.reverse ++ lowerFrom before [] s := by
  induction s generalizing before acc with
  | nil => simp [lowerFrom]
  | cons c r ih =>
    simp only [lowerFrom]
    rw [ih, ih _ (List.reverse _ ++ [])]
    simp

theorem lowered_lower (s : List Char) : Lowered s (lower s) := by
  have hfrom : ∀ before, Lowered s (lowerFrom before [] s) := by
    induction s with
    | nil => exact fun before => .nil
    | cons c r ih =>
      intro before
      simp only [lowerFrom]
      rw [lowerFrom_eq, List.append_nil, List.reverse_reverse]
      by_cases hc : c.toNat < 128
      · rw [if_neg (by omega), lowerChar_of_ascii c hc]
        exact .ascii hc (ih _)
      · refine .beyond (by omega) (fun d hd => ?_) (ih _)
        split at hd
        · -- either sigma lies beyond ASCII
          have hsigma : ∀ b : Bool, IsMild (Char.ofNat (if b then 0x3c2 else 0x3c3)) := by decide
          obtain rfl := List.mem_singleton.1 hd
          exact hsigma _
        · exact isMild_lowerChar (by omega) hd
  exact hfrom []

theorem Lowered.ascii_append {u s t : List Char} (hu : ∀ c ∈ u, c.toNat < 128) (h : Lowered (u ++ s) t) :
    ∃ t', t = u.map Char.toLower ++ t' ∧ Lowered s t' := by
  induction u generalizing t with
  | nil => exact ⟨t, rfl, h⟩
  | cons c u ih =>
    cases h with
    | ascii hc h =>
      obtain ⟨t', rfl, h'⟩ := ih (fun d hd => hu d (List.mem_cons_of_mem _ hd)) h
      exact ⟨t', rfl, h'⟩
    | beyond hc hcs h =>
      have := hu c List.mem_cons_self
      omega

theorem Lowered.append {s u t : List Char} (h : Lowered (s ++ u) t) :
    ∃ t₁ t₂, t = t₁ ++ t₂ ∧ Lowered s t₁ ∧ Lowered u t₂ := by
  induction s generalizing t with
  | nil => exact ⟨[], t, rfl, .nil, h⟩
  | cons c s ih =>
    cases h with
    | ascii hc h =>
      obtain ⟨t₁, t₂, rfl, h₁, h₂⟩ := ih h
      exact ⟨_ :: t₁, t₂, rfl, .ascii hc h₁, h₂⟩
    | beyond hc hcs h =>
      obtain ⟨t₁, t₂, rfl, h₁, h₂⟩ := ih h
      exact ⟨_ ++ t₁, t₂, by simp, .beyond hc hcs h₁, h₂⟩

theorem Lowered.forall {P : Char → Prop} {s t : List Char} (h : Lowered s t)
    (hascii : ∀ c ∈ s, c.toNat < 128 → P c.toLower) (hmild : ∀ c, IsMild c → P c) : ∀ c ∈ t, P c := by
  induction h with
  | nil => simp
  | ascii hc _ ih =>
    rw [List.forall_mem_cons] at hascii ⊢
    exact ⟨hascii.1 hc, ih hascii.2⟩
  | beyond _ hcs _ ih =>
    rw [List.forall_mem_append]
    exact ⟨fun d hd => hmild d (hcs d hd), ih (List.forall_mem_cons.1 hascii).2⟩

/-- A text in ASCII is lower-cased character by character. -/
theorem lower_of_ascii {s : List Char} (hs : ∀ c ∈ s, c.toNat < 128) : lower s = s.map Char.toLower := by
  have h := lowered_lower s
  rw [← List.append_nil s] at h
  obtain ⟨t, ht, hnil⟩ := h.ascii_append hs
  cases hnil
  rw [List.append_nil] at ht
  simpa using ht

/-- Where an ASCII text in lower case begins with marks, the text does. -/
theorem prefix_of_lower {w s : List Char} (hs : ∀ c ∈ s, c.toNat < 128) (hw : w.any Char.isAlpha = false)
    (h : w <+: lower s) : w <+: s := by
  rw [lower_of_ascii hs] at h
  induction w generalizing s with
  | nil => exact List.nil_prefix
  | cons d w ih =>
    cases s with
    | nil => simp at h
    | cons c s =>
      obtain ⟨hs₀, hs⟩ := List.forall_mem_cons.1 hs
      obtain ⟨rfl, hrest⟩ := List.cons_prefix_cons.1 h
      obtain ⟨hw₀, hw⟩ := Bool.or_eq_false_iff.1 hw
      have hc : c.toLower = c :=
        of_codes (P := fun c => c.toLower.isAlpha = false → c.toLower = c) (by decide) hs₀ hw₀
      rw [hc, List.cons_prefix_cons]
      exact ⟨rfl, ih hs hw hrest⟩

/-! ## At signs without a case -/

section
variable {q : Char} (hignorable : isCaseIgnorable q = false) (hcased : isCased q = false)
include hignorable hcased

theorem startsCased_append (s t : List Char) : startsCased (s ++ q :: t) = startsCased s := by
  unfold startsCased
  induction s with
  | nil =>
    rw [List.nil_append, List.dropWhile_cons_of_neg (by simp [hignorable])]
    exact hcased
  | cons c s ih =>
    rw [List.cons_append]
    by_cases hc : isCaseIgnorable c = true
    · rw [List.dropWhile_cons_of_pos hc, List.dropWhile_cons_of_pos hc, ih]
    · rw [List.dropWhile_cons_of_neg hc, List.dropWhile_cons_of_neg hc]

/-- What precedes the sign has no part in what follows it. -/
theorem lowerFrom_behind (before far s : List Char) :
    lowerFrom (before ++ q :: far) [] s = lowerFrom before [] s := by
  induction s generalizing before with
  | nil => rfl
  | cons c r ih =>
    simp only [lowerFrom, startsCased_append hignorable hcased]
    rw [lowerFrom_eq, lowerFrom_eq (c :: before), ← List.cons_append, ih]

/-- What follows the sign has no part in what precedes it. -/
theorem lowerFrom_append (before a b : List Char) :
    lowerFrom before [] (a ++ q :: b) = lowerFrom before [] a ++ lowerFrom (a.reverse ++ before) [] (q :: b) := by
  induction a generalizing before with
  | nil => rfl
  | cons c a ih =>
    rw [List.cons_append, lowerFrom, lowerFrom, lowerFrom_eq, lowerFrom_eq (c :: before) _ a, ih,
      startsCased_append hignorable hcased, List.append_assoc, List.reverse_cons, List.append_assoc]
    rfl

theorem lower_append (hq : q.toNat < 128) (a b : List Char) :
    lower (a ++ q :: b) = lower a ++ q.toLower :: lower b := by
  have hbehind : lowerFrom (q :: (a.reverse ++ [])) [] b = lower b :=
    lowerFrom_behind hignorable hcased [] (a.reverse ++ []) b
  have hsign : lowerFrom (a.reverse ++ []) [] (q :: b) = q.toLower :: lower b := by
    rw [lowerFrom, if_neg (by omega), lowerFrom_eq, hbehind, lowerChar_of_ascii q hq]
    rfl
  unfold lower at hsign ⊢
  rw [lowerFrom_append hignorable hcased, hsign]

end

end BuildLoop.Text
