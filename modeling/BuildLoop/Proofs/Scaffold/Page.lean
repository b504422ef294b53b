import BuildLoop.Proofs.Scaffold.Markup
import BuildLoop.Proofs.Scaffold.Title

/-!
# Pages

A page is a document of markup that links the stylesheets and scripts named for it, whatever its title.
It is complete as long as what it links are paths, even if the name of a stylesheet holds the place of the
scripts. If none does and the links are few, the page is not long and links just what is named for it:

    checkComplete path (html c title) = ok                                             (complete_html)
    Markup (linked c) n (html c title)                                                   (linked_html)
    f ∈ linkedStyles c   →   the link of f stands in html c title                      (link_of_style)
-/

namespace BuildLoop.Scaffold

open Text Completeness

variable {P : List Char → Prop} {s : List Char}

/-! ## Documents -/

/-- Whether a text is markup without links. -/
def isMarkup : List Char → Bool
  | [] => true
  | '<' :: '/' :: c :: s => isInert c && isMarkup s
  | '<' :: c :: s => isInert c && isMarkup s
  | '.' :: c :: s => isJoined c && isMarkup s
  | c :: s => isPlain c && isMarkup s

theorem markup_of_isMarkup (h : isMarkup s = true) : Markup P (s.count '_') s := by
  have keep : ∀ {u s : List Char}, Piece P 0 u → '_' ∉ u → Markup P (s.count '_') s →
      Markup P ((u ++ s).count '_') (u ++ s) := by
    intro u s hu hmark hs
    rw [List.count_append, List.count_eq_zero_of_not_mem hmark]
    exact .cons hu hs
  fun_induction isMarkup s with
  | case1 => exact .nil
  | case2 c s ih =>
    obtain ⟨hc, hs⟩ := Bool.and_eq_true_iff.1 h
    exact keep (u := ['<', '/', c]) (.closing hc) (by simp [(of_isInert hc).2.1.symm]) (ih hs)
  | case3 c s _ ih =>
    obtain ⟨hc, hs⟩ := Bool.and_eq_true_iff.1 h
    exact keep (u := ['<', c]) (.opening hc) (by simp [(of_isInert hc).2.1.symm]) (ih hs)
  | case4 c s ih =>
    obtain ⟨hc, hs⟩ := Bool.and_eq_true_iff.1 h
    exact keep (u := ['.', c]) (.dot hc) (by simp [(of_isJoined hc).2.1.symm]) (ih hs)
  | case5 c s _ _ _ ih =>
    obtain ⟨hc, hs⟩ := Bool.and_eq_true_iff.1 h
    have happend := (Markup.of_plain (P := P) (s := [c]) (by simpa using hc)).append (ih hs)
    rwa [← List.count_append] at happend

/-- How documents begin and end. -/
def documentStart : List Char :=
  ['<', '!', 'D', 'O', 'C', 'T', 'Y', 'P', 'E', ' ', 'h', 't', 'm', 'l', '>', '\n', '<', 'h', 't', 'm', 'l']
def documentEnd : List Char :=
  ['\n', '<', '/', 'b', 'o', 'd', 'y', '>', '\n', '<', '/', 'h', 't', 'm', 'l', '>', '\n']

/-- Whether a text is a document from its start to its end. -/
def IsDocument (s : List Char) : Prop := ∃ x, s = documentStart ++ (x ++ documentEnd)

theorem IsDocument.replace {needle new : List Char} (hneedle : IsPlace needle) (h : IsDocument s) :
    IsDocument (Text.replace needle new s) := by
  obtain ⟨x, rfl⟩ := h
  obtain ⟨v, hv⟩ : ∃ v, needle = v ++ ['_'] := by
    obtain ⟨v, c, rfl⟩ := (List.eq_nil_or_concat' needle).resolve_left hneedle.ne_nil
    have := hneedle.ends
    rw [List.getLast?_concat] at this
    exact ⟨v, by rw [Option.some.inj this]⟩
  rw [replace_markless hneedle (by decide), hv, replace_append_right (by decide)]
  exact ⟨_, rfl⟩

/-- Whether a text is the template of a document. -/
def IsTemplate (s : List Char) : Prop :=
  documentStart <+: s ∧ documentEnd <:+ s.drop 21 ∧ isMarkup s = true ∧ s.count '_' = 16 ∧ s.length ≤ 1200

instance (s : List Char) : Decidable (IsTemplate s) := inferInstanceAs (Decidable (_ ∧ _))

set_option maxRecDepth 20000 in
theorem isTemplate_page : IsTemplate Template.page.toList := by
  dsimp only [Template.page]
  apply Spells.of_unlines
  case h => repeat' first | exact Spells.nil | apply Spells.cons rfl
  decide

/-- The links and the scripts have lines of their own. -/
theorem lines_page : '\n' :: ("__LINKS__".toList ++ ['\n']) <:+: Template.page.toList ∧
    '\n' :: ("__SCRIPTS__".toList ++ ['\n']) <:+: Template.page.toList :=
  ⟨infix_unlines (by decide), infix_unlines (by decide)⟩

theorem IsTemplate.document (h : IsTemplate s) : IsDocument s := by
  obtain ⟨⟨t, rfl⟩, ⟨x, hx⟩, -⟩ := h
  have hdrop : (documentStart ++ t).drop 21 = t := List.drop_left' rfl
  exact ⟨x, by rw [hx, hdrop]⟩

/-! ## Completeness -/

section
variable {n : Nat} {content : String} (hP : ∀ f, P f → IsFilling f) (h : Markup P n content.toList)
include hP h

theorem unmarked_markup : markers.find? (contains content ·) = none := by
  refine find?_markers_eq_none (fun x hx hmem => ?_) (not_infix_of_mem List.mem_cons_self (h.bracket_notMem hP))
  have hblank : x ≠ ' ' := by
    rintro rfl
    simp at hx
  rw [← List.append_nil content.toList] at hmem
  cases List.eq_nil_of_infix_nil (h.unended hP hblank hmem)

omit hP h in
theorem occurs_document (hdocument : IsDocument s) {w : List Char}
    (hw : w <:+: documentStart.map Char.toLower ∨ w <:+: documentEnd.map Char.toLower) :
    occurs w (lower s) = true := by
  obtain ⟨x, rfl⟩ := hdocument
  have hlower := lowered_lower (documentStart ++ (x ++ documentEnd))
  obtain ⟨t, ht, hrest⟩ := hlower.ascii_append (List.all_iff_forall_prop.1 (by decide))
  obtain ⟨t₁, t₂, rfl, -, hend⟩ := hrest.append
  rw [← List.append_nil documentEnd] at hend
  obtain ⟨t₃, rfl, hnil⟩ := hend.ascii_append (List.all_iff_forall_prop.1 (by decide))
  cases hnil
  rw [occurs_iff, ht, List.append_nil]
  rcases hw with hw | hw
  · exact hw.trans (List.prefix_append _ _).isInfix
  · exact hw.trans ((List.suffix_append _ _).trans (List.suffix_append _ _)).isInfix

theorem htmlFault?_eq_none (hdocument : IsDocument content.toList) : htmlFault? content = none := by
  have hexcess : Excess 0 (lower content.toList) := by
    refine h.excess hP (s := []) ?_ fun t ht => ?_
    · rw [List.append_nil]
      exact lowered_lower content.toList
    · cases ht
      rfl
  have hbalanced : count scriptOpened (lower content.toList) = count scriptClosed (lower content.toList) := hexcess.symm
  have hscript : "<script".toList = scriptOpened := rfl
  have hclosed : "</script>".toList = scriptClosed := rfl
  have hhtml := occurs_document hdocument (w := "<html".toList) (by decide)
  have hend := occurs_document hdocument (w := "</html>".toList) (by decide)
  have hbody := occurs_document hdocument (w := "</body>".toList) (by decide)
  unfold htmlFault?
  simp only [hscript, hclosed, hbalanced, hhtml, hend, hbody, Bool.not_true, Bool.and_false,
    Bool.false_eq_true, if_false, ne_eq, not_true_eq_false]

theorem complete_markup {path : String} (hdocument : IsDocument content.toList)
    (hext : extension (lowercase path) = "html" ∨ extension (lowercase path) = "htm") :
    checkComplete path content = .ok () := by
  have hfault : fault? (extension (lowercase path)) content = none := by
    rw [fault?, if_pos hext, htmlFault?_eq_none hP h hdocument]
    rfl
  rw [checkComplete, unmarked_markup hP h, hfault]

end

/-! ## Lines of links -/

section
variable {names : List String} {line : String → String}

theorem markup_lines (h : ∀ f ∈ names, Markup P 0 (line f).toList) :
    Markup P 0 ("\n".intercalate (names.map line)).toList := by
  rw [String.toList_intercalate]
  induction names with
  | nil => exact .nil
  | cons f names ih =>
    have hf := h f List.mem_cons_self
    have hnames := ih fun g hg => h g (List.mem_cons_of_mem _ hg)
    cases names with
    | nil => simpa [List.intercalate] using hf
    | cons g names =>
      rw [List.map_cons, List.map_cons, List.map_cons, List.map_cons, List.intercalate_cons_cons]
      exact (hf.append (.of_plain (s := ['\n']) (List.all_iff_forall_prop.1 (by decide)))).append hnames

theorem length_lines {l : Nat} (h : ∀ f ∈ names, (line f).toList.length ≤ l) :
    ("\n".intercalate (names.map line)).toList.length ≤ names.length * (l + 1) := by
  rw [String.toList_intercalate]
  induction names with
  | nil => simp
  | cons f names ih =>
    have hf := h f List.mem_cons_self
    have hnames := ih fun g hg => h g (List.mem_cons_of_mem _ hg)
    rw [List.length_cons, Nat.add_mul]
    cases names with
    | nil =>
      simp [List.intercalate]
      omega
    | cons g names =>
      rw [List.map_cons, List.map_cons, List.map_cons, List.map_cons, List.intercalate_cons_cons]
      rw [List.map_cons, List.map_cons] at hnames
      simp only [List.length_append]
      have : "\n".toList.length = 1 := rfl
      omega

end

/-- The line that links a stylesheet. -/
def linkLine (f : String) : String := "    <link rel=\"stylesheet\" href=\"" ++ f ++ "\">"

/-- The line that links a script. -/
def scriptLine (f : String) : String := "    <script src=\"" ++ f ++ "\"></script>"

theorem toList_linkLine (f : String) :
    (linkLine f).toList = [' ', ' ', ' ', ' '] ++ (linkStart ++ (f.toList ++ '"' :: linkEnd)) := by
  have hstart : "    <link rel=\"stylesheet\" href=\"".toList = [' ', ' ', ' ', ' '] ++ linkStart := rfl
  have hend : "\">".toList = '"' :: linkEnd := rfl
  unfold linkLine
  simp only [String.toList_append, hstart, hend, List.append_assoc]

theorem toList_scriptLine (f : String) :
    (scriptLine f).toList = [' ', ' ', ' ', ' '] ++ (scriptStart ++ (f.toList ++ '"' :: scriptEnd)) := by
  have hstart : "    <script src=\"".toList = [' ', ' ', ' ', ' '] ++ scriptStart := rfl
  have hend : "\"></script>".toList = '"' :: scriptEnd := rfl
  unfold scriptLine
  simp only [String.toList_append, hstart, hend, List.append_assoc]

theorem markup_indent : Markup P 0 [' ', ' ', ' ', ' '] :=
  Markup.of_plain (s := [' ', ' ', ' ', ' ']) (List.all_iff_forall_prop.1 (by decide))

theorem markup_linkLine {f : String} (hf : P f.toList) : Markup P 0 (linkLine f).toList := by
  rw [toList_linkLine]
  exact markup_indent.append (.of_piece (.link hf))

theorem markup_scriptLine {f : String} (hf : P f.toList) : Markup P 0 (scriptLine f).toList := by
  rw [toList_scriptLine]
  exact markup_indent.append (.of_piece (.script hf))

/-! ## Pages -/

/-- The stylesheets and the scripts that a page links. -/
def linkedStyles (c : Context) : List String := withExtension ".css" (assets c)
def linkedScripts (c : Context) : List String := withExtension ".js" (assets c)

/-- Whether what a page links can be linked, and is not much. -/
structure Linkable (c : Context) : Prop where
  targets : ∀ f ∈ linkedStyles c ++ linkedScripts c, IsTarget f.toList
  short : ∀ f ∈ linkedStyles c ++ linkedScripts c, f.toList.length ≤ 1000
  styles : (linkedStyles c).length ≤ 6
  scripts : (linkedScripts c).length ≤ 6
  /-- The place of the scripts is not found in the link of a stylesheet. -/
  placeless : ∀ f ∈ linkedStyles c, ¬ "__SCRIPTS__".toList <:+: f.toList

/-- Whether a text is what a page links. -/
def IsLinked (c : Context) (f : List Char) : Prop := ∃ g ∈ linkedStyles c ++ linkedScripts c, g.toList = f

theorem isPlain_of_isTitled {c : Char} (h : isTitled c = true) : isPlain c = true := by
  have hne : ∀ d, isTitled d = false → c ≠ d := fun d hd => ne_of_isTitled h hd
  simp [isPlain, hne '<' rfl, hne '[' rfl, hne '.' rfl]

/-- The texts that fill the places of links and of scripts. -/
def linkText (c : Context) : List Char := ("\n".intercalate ((linkedStyles c).map linkLine)).toList
def scriptText (c : Context) : List Char := ("\n".intercalate ((linkedScripts c).map scriptLine)).toList

/-- A page before its scripts are put in. -/
def linkedText (c : Context) (title : String) : List Char :=
  replace "__LINKS__".toList (linkText c) (replace "__TITLE__".toList title.toList Template.page.toList)

theorem toList_html (c : Context) (title : String) :
    (html c title).toList = replace "__SCRIPTS__".toList (scriptText c) (linkedText c title) := by
  unfold html replaced
  simp only [String.toList_ofList]
  rfl

theorem isPlace_title : IsPlace "__TITLE__".toList :=
  ⟨List.all_iff_forall_prop.1 (by decide), by decide, by decide, by decide⟩

theorem isPlace_links : IsPlace "__LINKS__".toList :=
  ⟨List.all_iff_forall_prop.1 (by decide), by decide, by decide, by decide⟩

theorem isPlace_scripts : IsPlace "__SCRIPTS__".toList :=
  ⟨List.all_iff_forall_prop.1 (by decide), by decide, by decide, by decide⟩

/-- Before its scripts are put in, a page is markup that links its stylesheets. The places that a title can
make are few. -/
theorem markup_linkedText (c : Context) {title : String} (ht : Titled title) :
    ∃ p n, 4 * p + n ≤ 248 ∧ Markup (fun f => ∃ g ∈ linkedStyles c, g.toList = f) n (linkedText c title) ∧
      (linkedText c title).length ≤ 1448 + p * (linkText c).length := by
  obtain ⟨-, -, hmarkup, hcount, hlength⟩ := isTemplate_page
  have htitle : Markup (fun _ => False) (title.toList.count '_') title.toList :=
    .of_plain fun c hc => isPlain_of_isTitled (ht.chars c hc)
  have hlinks : Markup (fun f => ∃ g ∈ linkedStyles c, g.toList = f) 0 (linkText c) :=
    markup_lines fun f hf => markup_linkLine ⟨f, hf, rfl⟩
  obtain ⟨p₁, n₁, h₁, hp₁, hn₁, hl₁⟩ := Markup.replace (P := fun _ => False) isPlace_title htitle
    (markup_of_isMarkup hmarkup)
  have h₁ := h₁.mono (Q := fun _ => False) (by rintro f (⟨g, hg, -⟩ | hf) <;> assumption)
  obtain ⟨p₂, n₂, h₂, hp₂, hn₂, hl₂⟩ := Markup.replace isPlace_links hlinks h₁
  have hl₁ := hl₁ fun _ hf => hf.elim
  have hl₂ := hl₂ fun _ hf => hf.elim
  have hmarks := Nat.mul_le_mul_left p₁ (List.count_le_length.trans ht.length : title.toList.count '_' ≤ 62)
  have hwords := Nat.mul_le_mul_left p₁ ht.length
  refine ⟨p₂, n₂, by omega, h₂.mono ?_, ?_⟩
  · rintro f (⟨g, hg, -⟩ | hf)
    · exact hg.elim
    · exact hf
  · unfold linkedText
    omega

section
variable {c : Context} {title : String} (hplaceless : ∀ f ∈ linkedStyles c, ¬ "__SCRIPTS__".toList <:+: f.toList)
include hplaceless

/-- If the name of no stylesheet holds the place of the scripts, a page links just what is named for it. -/
theorem linked_html (ht : Titled title) :
    ∃ p₁ p₂ n, 4 * p₁ + 4 * p₂ ≤ 248 ∧ Markup (IsLinked c) n (html c title).toList ∧
      (html c title).toList.length ≤ 1448 + p₁ * (linkText c).length + p₂ * (scriptText c).length := by
  obtain ⟨p₁, n₁, hn₁, hlinked, hlength⟩ := markup_linkedText c ht
  have hscripts : Markup (fun f => ∃ g ∈ linkedScripts c, g.toList = f) 0 (scriptText c) :=
    markup_lines fun f hf => markup_scriptLine ⟨f, hf, rfl⟩
  have hfree : ∀ f, (∃ g ∈ linkedStyles c, g.toList = f) → ¬ "__SCRIPTS__".toList <:+: f := by
    rintro f ⟨g, hg, rfl⟩
    exact hplaceless g hg
  obtain ⟨p₂, n₂, hpage, hp₂, -, hsize⟩ := Markup.replace isPlace_scripts hscripts hlinked
  rw [← toList_html] at hpage hsize
  refine ⟨p₁, p₂, n₂, by omega, hpage.mono ?_, ?_⟩
  · rintro f (⟨g, hg, rfl⟩ | ⟨g, hg, rfl⟩)
    · rw [replace_eq_self (hfree g hg)]
      obtain ⟨f, hf, rfl⟩ := hg
      exact ⟨f, List.mem_append_left _ hf, rfl⟩
    · exact ⟨g, List.mem_append_right _ hg, rfl⟩
  · have := hsize hfree
    omega

omit hplaceless in
/-- In a page without its scripts the stylesheets are linked in lines of their own. -/
theorem infix_linkedText : linkText c <:+: linkedText c title := by
  have htitled := infix_replace title.toList isPlace_title.ne_nil (by decide) (by decide) lines_page.1
  rw [replace_eq_self (s := "__LINKS__".toList) (not_infix_of_count (c := 'T') (by decide))] at htitled
  have hlinked := infix_replace (linkText c) isPlace_links.ne_nil (by decide) (by decide) htitled
  rw [replace_self isPlace_links.ne_nil] at hlinked
  exact ((List.prefix_append _ _).isInfix.trans (List.suffix_cons '\n' _).isInfix).trans hlinked

omit hplaceless in
theorem infix_html : scriptText c <:+: (html c title).toList := by
  have htitled := infix_replace title.toList isPlace_title.ne_nil (by decide) (by decide) lines_page.2
  rw [replace_eq_self (s := "__SCRIPTS__".toList) (not_infix_of_count (c := 'E') (by decide))] at htitled
  have hlinked := infix_replace (linkText c) isPlace_links.ne_nil (by decide) (by decide) htitled
  rw [replace_eq_self (s := "__SCRIPTS__".toList) (not_infix_of_count (c := 'K') (by decide))] at hlinked
  have hpage := infix_replace (scriptText c) isPlace_scripts.ne_nil (by decide) (by decide) hlinked
  rw [replace_self isPlace_scripts.ne_nil] at hpage
  rw [toList_html]
  exact ((List.prefix_append _ _).isInfix.trans (List.suffix_cons '\n' _).isInfix).trans hpage

/-- Each stylesheet is linked. -/
theorem link_of_style {f : String} (hf : f ∈ linkedStyles c) :
    linkStart ++ (f.toList ++ '"' :: linkEnd) <:+: (html c title).toList := by
  have hline : (linkLine f).toList <:+: linkText c := by
    rw [linkText, String.toList_intercalate]
    exact infix_intercalate (List.mem_map_of_mem (List.mem_map_of_mem hf))
  have htag : linkStart ++ (f.toList ++ '"' :: linkEnd) <:+: linkedText c title := by
    rw [toList_linkLine] at hline
    exact (List.suffix_append _ _).isInfix.trans (hline.trans infix_linkedText)
  have hsplit : linkStart ++ (f.toList ++ '"' :: linkEnd) =
      '<' :: ((linkStart.tail ++ (f.toList ++ ['"'])) ++ ['>']) := by
    have hstart : linkStart = '<' :: linkStart.tail := by decide
    rw [hstart, linkEnd]
    simp
  have hfree : ¬ "__SCRIPTS__".toList <:+: linkStart.tail ++ (f.toList ++ ['"']) := by
    have hstart : linkStart.tail = "link rel=\"stylesheet\" href=".toList ++ ['"'] := by decide
    have hquote : '"' ∉ "__SCRIPTS__".toList := by decide
    rw [hstart, List.append_assoc, List.singleton_append, infix_append_cons hquote, infix_append_cons hquote]
    rintro (hfixed | hname | hnil)
    · exact not_infix_of_mem (c := '_') (by decide) (by decide) hfixed
    · exact hplaceless f hf hname
    · exact not_infix_of_mem (c := '_') (by decide) List.not_mem_nil hnil
  rw [hsplit] at htag ⊢
  have hpage := infix_replace (scriptText c) isPlace_scripts.ne_nil (by decide) (by decide) htag
  rwa [replace_eq_self hfree, ← toList_html] at hpage

omit hplaceless in
/-- Each script is linked. -/
theorem link_of_script {f : String} (hf : f ∈ linkedScripts c) :
    scriptStart ++ (f.toList ++ '"' :: scriptEnd) <:+: (html c title).toList := by
  have hline : (scriptLine f).toList <:+: scriptText c := by
    rw [scriptText, String.toList_intercalate]
    exact infix_intercalate (List.mem_map_of_mem (List.mem_map_of_mem hf))
  rw [toList_scriptLine] at hline
  exact (List.suffix_append _ _).isInfix.trans (hline.trans infix_html)

end

section
variable {c : Context} (h : Linkable c)
include h

theorem Linkable.paths : ∀ f ∈ linkedStyles c ++ linkedScripts c, ∀ d ∈ f.toList, isLinkChar d = true := by
  intro f hf d hd
  rw [isLinkChar, (h.targets f hf).chars d hd, Bool.or_true]

theorem length_linkText : (linkText c).length ≤ 6 * 1036 := by
  refine (length_lines (l := 1035) fun f hf => ?_).trans (Nat.mul_le_mul_right _ h.styles)
  have := h.short f (List.mem_append_left _ hf)
  have hstart : linkStart.length = 29 := rfl
  rw [toList_linkLine]
  simp only [List.length_append, List.length_cons, List.length_nil, hstart, linkEnd]
  omega

theorem length_scriptText : (scriptText c).length ≤ 6 * 1036 := by
  refine (length_lines (l := 1035) fun f hf => ?_).trans (Nat.mul_le_mul_right _ h.scripts)
  have := h.short f (List.mem_append_right _ hf)
  have hstart : scriptStart.length = 13 := rfl
  have hend : scriptEnd.length = 10 := rfl
  rw [toList_scriptLine]
  simp only [List.length_append, List.length_cons, List.length_nil, hstart, hend]
  omega

/-- A page is a document of markup, and not long. -/
theorem markup_html {title : String} (ht : Titled title) :
    ∃ n, Markup (IsLinked c) n (html c title).toList ∧ (html c title).toList.length ≤ 390000 := by
  obtain ⟨p₁, p₂, n, hmarks, hpage, hsize⟩ := linked_html h.placeless ht
  have hlink := Nat.mul_le_mul_left p₁ (length_linkText h)
  have hscript := Nat.mul_le_mul_left p₂ (length_scriptText h)
  exact ⟨n, hpage, by omega⟩

end

/-! ## Complete pages -/

section
variable {c : Context} (hpaths : ∀ f ∈ linkedStyles c ++ linkedScripts c, ∀ d ∈ f.toList, isLinkChar d = true)
include hpaths

/-- A page is markup, though its scripts may stand in the links of stylesheets. -/
theorem filled_html {title : String} (ht : Titled title) :
    ∃ P n, (∀ f, P f → IsFilling f) ∧ Markup P n (html c title).toList := by
  have hfilling : ∀ f, (∃ g ∈ linkedScripts c, g.toList = f) → IsFilling f := by
    rintro f ⟨g, hg, rfl⟩
    exact isFilling_of_chars (hpaths g (List.mem_append_right _ hg))
  have hscripts : Markup (fun f => ∃ g ∈ linkedScripts c, g.toList = f) 0 (scriptText c) :=
    markup_lines fun f hf => markup_scriptLine ⟨f, hf, rfl⟩
  have hstart : scriptText c = [] ∨ ∃ r, scriptText c = ' ' :: ' ' :: r := by
    unfold scriptText
    rw [String.toList_intercalate]
    cases linkedScripts c with
    | nil => exact .inl rfl
    | cons f names =>
      refine .inr ?_
      rw [List.map_cons, List.map_cons, toList_scriptLine]
      cases names with
      | nil => exact ⟨_, rfl⟩
      | cons g names => exact ⟨_, rfl⟩
  obtain ⟨-, n, -, hlinked, -⟩ := markup_linkedText c ht
  obtain ⟨-, n', hpage, -⟩ := Markup.replace isPlace_scripts hscripts hlinked
  rw [← toList_html] at hpage
  refine ⟨_, n', ?_, hpage⟩
  rintro f (⟨g, ⟨style, hstyle, rfl⟩, rfl⟩ | hf)
  · have hpath := hpaths style (List.mem_append_left _ hstyle)
    exact isFilling_replace isPlace_scripts.ne_nil hpath hfilling hscripts hstart
  · exact hfilling f hf

theorem complete_html {title : String} (ht : Titled title) {path : String}
    (hext : extension (lowercase path) = "html" ∨ extension (lowercase path) = "htm") :
    checkComplete path (html c title) = .ok () := by
  obtain ⟨P, n, hP, hmarkup⟩ := filled_html hpaths ht
  refine complete_markup hP hmarkup ?_ hext
  rw [toList_html]
  exact ((isTemplate_page.document.replace isPlace_title).replace isPlace_links).replace isPlace_scripts

end

end BuildLoop.Scaffold
