import BuildLoop.Completeness
import BuildLoop.Proofs.Completeness.Lines
import BuildLoop.Proofs.Completeness.Words
import BuildLoop.Proofs.Text.LetterCase
import BuildLoop.Scaffold.Render

/-!
# Titles in templates

A title is a word of letters, numbers, blanks, hyphens and underscores, and at most 62 of them. So it makes
no difference to the check of a template which title is put in its places:

    ∀ c ∈ (appTitle description).toList, isTitled c                                       (titled_appTitle)
    Block f template   →   checkComplete path (replaced template "__TITLE__" title) = ok  (complete_titled)

A block is lines that are passed by the check and hold no sign of text left out. Stylesheets and scripts are
blocks.
-/

namespace BuildLoop

namespace Text

/-! ## Templates as characters -/

/-- The characters of lines, each with a line feed after it. -/
inductive Spells : List String → List Char → Prop
  | nil : Spells [] []
  | cons {l : String} {cs : List Char} {ls : List String} {s : List Char} (hl : l = String.ofList cs)
    (h : Spells ls s) : Spells (l :: ls) (cs ++ '\n' :: s)

theorem toList_unlines_cons (l : String) (ls : List String) :
    (unlines (l :: ls)).toList = l.toList ++ '\n' :: (unlines ls).toList := by
  unfold unlines
  rw [List.map_cons, String.join_cons, String.toList_append, String.toList_append, List.append_assoc]
  rfl

theorem Spells.toList_unlines {ls : List String} {s : List Char} (h : Spells ls s) : (unlines ls).toList = s := by
  induction h with
  | nil => rfl
  | cons hl _ ih => rw [toList_unlines_cons, ih, hl, String.toList_ofList]

/-- What holds of the characters of lines holds of their text. -/
theorem Spells.of_unlines {P : List Char → Prop} {ls : List String} {s : List Char} (h : Spells ls s)
    (hs : P s) : P (unlines ls).toList := h.toList_unlines ▸ hs

/-- A line that is not the first stands between two others. -/
theorem infix_unlines {l₀ l : String} {ls : List String} (h : l ∈ ls) :
    '\n' :: (l.toList ++ ['\n']) <:+: (unlines (l₀ :: ls)).toList := by
  induction ls generalizing l₀ with
  | nil => cases h
  | cons l₁ ls ih =>
    rw [toList_unlines_cons]
    rcases List.mem_cons.1 h with rfl | h
    · rw [toList_unlines_cons]
      exact ⟨l₀.toList, (unlines ls).toList, by simp⟩
    · exact (ih h).trans ((List.suffix_cons '\n' _).trans (List.suffix_append _ _)).isInfix

theorem sublist_trim (s : List Char) : (trim s).Sublist s := by
  have hend : (trimEnd (trimStart s)).Sublist (trimStart s) := by
    have h := (List.dropWhile_sublist isBlank (l := (trimStart s).reverse)).reverse
    rwa [List.reverse_reverse] at h
  exact hend.trans (List.dropWhile_sublist _)

end Text

open Text

/-! ## Titles -/

namespace Scaffold

/-- Whether a title can hold a character. -/
def isTitled (c : Char) : Bool :=
  decide (128 ≤ c.toNat) || c.isAlphanum || c == ' ' || c == '-' || c == '_'

theorem ne_of_isTitled {c d : Char} (h : isTitled c = true) (hd : isTitled d = false) : c ≠ d := by
  rintro rfl
  rw [h] at hd
  cases hd

theorem isTitled_of_isMild {c : Char} (h : IsMild c) : isTitled c = true := by
  rcases h with h | h
  · simp [isTitled, h]
  · simp [isTitled, Char.isAlphanum, h]

theorem isTitled_of_isTitleChar {c : Char} (h : isTitleChar c = true) : isTitled c = true := by
  by_cases hc : c.toNat < 128
  · rw [isTitleChar, isLetterOrNumber, hasProperty_of_ascii _ _ _ hc] at h
    simp only [isTitled, Bool.or_eq_true] at h ⊢
    tauto
  · exact isTitled_of_isMild (.inl (by omega))

theorem isTitled_upperChar {c d : Char} (h : isTitled c = true) (hd : d ∈ upperChar c) :
    isTitled d = true := by
  by_cases hc : c.toNat < 128
  · have hall : ∀ n < 128, isTitled (Char.ofNat n) = true → isTitled (Char.ofNat n).toUpper = true := by
      decide
    unfold upperChar at hd
    rw [if_pos hc] at hd
    obtain rfl := List.mem_singleton.1 hd
    have := hall c.toNat hc
    rw [Char.ofNat_toNat] at this
    exact this h
  · exact isTitled_of_isMild (isMild_upperChar (by omega) hd)

/-- A title has only such characters, and not many. -/
structure Titled (title : String) : Prop where
  nonempty : title.toList ≠ []
  chars : ∀ c ∈ title.toList, isTitled c = true
  length : title.toList.length ≤ 62

theorem Titled.notMem {title : String} (h : Titled title) {c : Char} (hc : isTitled c = false) : c ∉ title.toList :=
  fun hmem => ne_of_isTitled (h.chars c hmem) hc rfl

theorem titled_appTitle (description : String) : Titled (appTitle description) := by
  unfold appTitle
  simp only
  generalize trim (List.takeWhile (· != ',') _) = raw
  have hsub := sublist_trim ((raw.filter isTitleChar).take 60)
  have hshort : (trim ((raw.filter isTitleChar).take 60)).length ≤ 60 :=
    hsub.length_le.trans (by rw [List.length_take]; exact Nat.min_le_left _ _)
  have hall : ∀ c ∈ trim ((raw.filter isTitleChar).take 60), isTitled c = true := fun c hc =>
    isTitled_of_isTitleChar (List.of_mem_filter (List.mem_of_mem_take (hsub.subset hc)))
  split
  · next c r htrim =>
    rw [htrim] at hall hshort
    constructor
    case nonempty =>
      have hupper := (length_upperChar c).1
      intro hnil
      rw [String.toList_ofList, List.append_eq_nil_iff] at hnil
      rw [hnil.1] at hupper
      cases hupper
    case chars =>
      intro d hd
      rw [String.toList_ofList, List.mem_append] at hd
      rcases hd with hd | hd
      · exact isTitled_upperChar (hall c List.mem_cons_self) hd
      · exact hall d (List.mem_cons_of_mem _ hd)
    case length =>
      have hupper := (length_upperChar c).2
      rw [List.length_cons] at hshort
      rw [String.toList_ofList, List.length_append]
      omega
  · exact ⟨by decide, List.all_iff_forall_prop.1 (by decide), by decide⟩

section
open Completeness

/-- The place of the title in a template. -/
def titlePlace : List Char := ['_', '_', 'T', 'I', 'T', 'L', 'E', '_', '_']

theorem isWord_titlePlace : IsWord titlePlace := ⟨by decide, List.all_iff_forall_prop.1 (by decide)⟩

theorem isQuiet_of_isTitled {c : Char} (h : isTitled c = true) : isQuiet c = true := by
  have hloud : loudChars.all (fun d => !isTitled d) = true := by decide
  rw [isQuiet, Bool.not_eq_true', Bool.eq_false_iff]
  intro hmem
  have hnot := List.all_eq_true.1 hloud c (List.contains_iff_mem.1 hmem)
  rw [h] at hnot
  cases hnot

theorem Titled.isWord {title : String} (h : Titled title) : IsWord title.toList :=
  ⟨h.nonempty, fun c hc => isQuiet_of_isTitled (h.chars c hc)⟩

/-! ## Blocks -/

/-- What may not come together in a template: with the first two of them a marker of text left out could
stand there, with the others once a title is put in its place. -/
def signs : List (List Char) := [['.', ' '], ['[', 't'], ['.', '_'], ['[', '_']]

/-- Lines that are passed by the check and hold no sign of text left out. -/
structure Block (f : Family) (u : List Char) : Prop where
  lines : IsLines u
  passed : Passed f u
  unmarked : ∀ w ∈ signs, ¬ w <:+: u

/-- Whether some characters are lines that are checked, without a sign. -/
def IsBlock (f : Family) (u : List Char) : Prop :=
  u.getLast?.all (· == '\n') = true ∧ (checkFrom f 1 [] u).isOk = true ∧ signs.all (fun w => !occurs w u) = true

instance (f : Family) (u : List Char) : Decidable (IsBlock f u) := inferInstanceAs (Decidable (_ ∧ _))

theorem eq_ok_of_isOk {r : Except Imbalance Unit} (h : r.isOk = true) : r = .ok () := by
  cases r with
  | ok => rfl
  | error e => cases h

section
variable {f : Family} {u v : List Char}

theorem IsBlock.block (h : IsBlock f u) : Block f u := by
  obtain ⟨hend, hcheck, hsigns⟩ := h
  have hlines : IsLines u := by
    obtain rfl | ⟨x, c, rfl⟩ := List.eq_nil_or_concat' u
    · exact .inl rfl
    · rw [List.getLast?_concat, Option.all_some, beq_iff_eq] at hend
      exact .inr ⟨x, by rw [hend]⟩
  refine ⟨hlines, passed_of_lines hlines (eq_ok_of_isOk hcheck), fun w hw hmem => ?_⟩
  have hfree := List.all_eq_true.1 hsigns w hw
  rw [occurs_iff.2 hmem] at hfree
  cases hfree

theorem Block.nil : Block f [] := ⟨.inl rfl, .nil, by decide⟩

theorem Block.feed : Block f ['\n'] :=
  ⟨.inr ⟨[], rfl⟩, fun line _ _ => ⟨line + 1, checkFrom_line⟩, by decide⟩

theorem Block.append (hu : Block f u) (hv : Block f v) : Block f (u ++ v) := by
  refine ⟨hu.lines.append hv.lines, hu.passed.append hv.passed, fun w hw hmem => ?_⟩
  have hfeed : '\n' ∉ w := by
    have hall : signs.all (fun w => !w.contains '\n') = true := by decide
    simpa using List.all_eq_true.1 hall w hw
  obtain rfl | ⟨x, rfl⟩ := hu.lines
  · exact hv.unmarked w hw hmem
  · rw [List.append_assoc] at hmem
    rcases (infix_append_cons hfeed).1 hmem with hmem | hmem
    · exact hu.unmarked w hw (hmem.trans (List.prefix_append x _).isInfix)
    · exact hv.unmarked w hw hmem

end

/-! ## Templates with a title -/

/-- Whether an extension is of a family whose files are checked for brackets. -/
structure IsSource (f : Family) (ext : String) : Prop where
  family : familyOf? ext = some f
  noPage : ¬ (ext = "html" ∨ ext = "htm")
  noData : ext ≠ "json"

theorem complete_source {f : Family} {path content : String} (hext : IsSource f (extension (lowercase path)))
    (hmarker : markers.find? (contains content ·) = none) (hcheck : checkBrackets f content = .ok ()) :
    checkComplete path content = .ok () := by
  have hfault : fault? (extension (lowercase path)) content = none := by
    rw [fault?, if_neg hext.noPage, if_neg hext.noData, hext.family]
    simp only [hcheck]
  rw [checkComplete, hmarker, hfault]

/-- Every marker of text left out holds one of a few beginnings. -/
theorem find?_markers_eq_none {content : String} (hend : ∀ x ∈ ['r', 'e', '-'], ¬ ['.', ' ', x] <:+: content.toList)
    (hcut : ¬ ['[', 't'] <:+: content.toList) : markers.find? (contains content ·) = none := by
  have hall : ∀ m ∈ markers, ['.', ' ', 'r'] <:+: m.toList ∨ ['.', ' ', 'e'] <:+: m.toList ∨
      ['.', ' ', '-'] <:+: m.toList ∨ ['[', 't'] <:+: m.toList := by decide
  rw [List.find?_eq_none]
  intro m hm hholds
  have hwithin := contains_iff.1 hholds
  rcases hall m hm with hmem | hmem | hmem | hmem
  · exact hend _ (by simp) (hmem.trans hwithin)
  · exact hend _ (by simp) (hmem.trans hwithin)
  · exact hend _ (by simp) (hmem.trans hwithin)
  · exact hcut (hmem.trans hwithin)

section
variable {template title : String} {f : Family} (h : Block f template.toList) (htitle : Titled title)

theorem toList_titled :
    (replaced template "__TITLE__" title).toList = replace titlePlace title.toList template.toList := by
  rw [replaced, String.toList_ofList]
  rfl

include h htitle

theorem checkBrackets_titled : checkBrackets f (replaced template "__TITLE__" title) = .ok () := by
  rw [checkBrackets, toList_titled, ← checkFrom_alike (alike_replace isWord_titlePlace htitle.isWord _)]
  exact h.passed.checked 1

theorem unmarked_titled : markers.find? (contains (replaced template "__TITLE__" title) ·) = none := by
  have hfree : ∀ {c d : Char}, [c, d] ∈ signs → [c, '_'] ∈ signs → isTitled c = false →
      ¬ [c, d] <:+: (replaced template "__TITLE__" title).toList := by
    intro c d hd hplace hc
    rw [toList_titled]
    exact not_infix_replace (htitle.notMem hc) (h.unmarked _ hplace)
      (h.unmarked _ hd)
  refine find?_markers_eq_none (fun x _ hmem => ?_) (hfree (by decide) (by decide) (by decide))
  exact hfree (c := '.') (d := ' ') (by decide) (by decide) (by decide) (List.IsInfix.trans ⟨[], [x], rfl⟩ hmem)

/-- A block is complete, whatever title is put in its places. -/
theorem complete_titled {path : String} (hext : IsSource f (extension (lowercase path))) :
    checkComplete path (replaced template "__TITLE__" title) = .ok () :=
  complete_source hext (unmarked_titled h htitle) (checkBrackets_titled h htitle)

omit h in
theorem length_titled {n : Nat} (hn : template.toList.length ≤ n) :
    (replaced template "__TITLE__" title).toList.length ≤ n * 62 := by
  rw [toList_titled]
  exact (length_replace_le isWord_titlePlace.nonempty _).trans
    (Nat.mul_le_mul hn (Nat.max_le.2 ⟨by decide, htitle.length⟩))

end

/-! ## Stylesheets and scripts -/

set_option maxRecDepth 20000 in
theorem isBlock_stylesheet : IsBlock .style Template.stylesheet.toList ∧ Template.stylesheet.toList.length ≤ 5000 := by
  dsimp only [Template.stylesheet]
  apply Spells.of_unlines (P := fun s => IsBlock .style s ∧ s.length ≤ 5000)
  case h => repeat' first | exact Spells.nil | apply Spells.cons rfl
  decide +kernel

set_option maxRecDepth 20000 in
theorem isBlock_localScript :
    IsBlock .script Template.localScript.toList ∧ Template.localScript.toList.length ≤ 5000 := by
  dsimp only [Template.localScript]
  apply Spells.of_unlines (P := fun s => IsBlock .script s ∧ s.length ≤ 5000)
  case h => repeat' first | exact Spells.nil | apply Spells.cons rfl
  decide +kernel

set_option maxRecDepth 20000 in
theorem isBlock_serverScript :
    IsBlock .script Template.serverScript.toList ∧ Template.serverScript.toList.length ≤ 5000 := by
  dsimp only [Template.serverScript]
  apply Spells.of_unlines (P := fun s => IsBlock .script s ∧ s.length ≤ 5000)
  case h => repeat' first | exact Spells.nil | apply Spells.cons rfl
  decide +kernel

theorem isSource_style {ext : String} (h : ext = "css" ∨ ext = "scss") : IsSource .style ext := by
  rcases h with rfl | rfl
  · exact ⟨rfl, by decide, by decide⟩
  · exact ⟨rfl, by decide, by decide⟩

theorem isSource_script : IsSource .script "js" := ⟨rfl, by decide, by decide⟩

theorem isSource_python : IsSource .python "py" := ⟨rfl, by decide, by decide⟩

/-- The script of a page for whatever the page is. -/
theorem isBlock_script (b : Bool) : IsBlock .script (if b then Template.serverScript else Template.localScript).toList ∧
    (if b then Template.serverScript else Template.localScript).toList.length ≤ 5000 := by
  cases b
  · exact isBlock_localScript
  · exact isBlock_serverScript

end

end Scaffold

end BuildLoop
