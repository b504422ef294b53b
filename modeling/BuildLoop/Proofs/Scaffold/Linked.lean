import BuildLoop.Proofs.Scaffold.Asset
import BuildLoop.Proofs.Verification.Assets

/-!
# What a page links is found in it

A page is written with links to the stylesheets and scripts that its description names or that lie beside
it, and a check reads the links of a page back. The two agree, whatever the title of the page is:

    f ∈ referencedAssets (render c)   ↔   f is a stylesheet or script that the page is to link
                                                                                   (referencedAssets_render)

A name goes into a link as the page's directory sees it, and it is read as it stands there: the path of a
file begins neither with a host nor with the page's own directory.
-/

namespace BuildLoop

open Text

/-! ## Paths behind a slash -/

/-- What follows a slash in a path has directories and a name again. -/
theorem Directories.behind {ds n x y : List Char} (h : Directories ds) (hn : '/' ∉ n) (hy : ds ++ n = x ++ '/' :: y) :
    ∃ ds', y = ds' ++ n ∧ Directories ds' := by
  induction h generalizing x with
  | nil =>
    rw [List.nil_append] at hy
    exact absurd (hy ▸ List.mem_append_right x List.mem_cons_self) hn
  | @cons d s _ hall hs ih =>
    have hslash : '/' ∉ d := fun hmem => by cases List.all_eq_true.1 hall _ hmem
    rw [List.append_assoc, List.cons_append] at hy
    obtain ⟨x', rfl, hx⟩ := exists_of_notMem_left hy hslash
    cases x' with
    | nil => exact ⟨s, (List.cons.inj hx).2.symm, hs⟩
    | cons e x' => exact ih (List.cons.inj hx).2

/-- A path begins with a character of a name, or it is the name of an environment file. -/
theorem exists_first {ds n : List Char} (hds : Directories ds) (hn : IsEnvironmentName n ∨ IsPlainName n) :
    ∃ c r, ds ++ n = c :: r ∧ (isNameChar c = true ∨ c = '.' ∧ r.head? = some 'e') := by
  cases hds with
  | nil =>
    rcases hn with ⟨x, rfl, -⟩ | ⟨c, mid, ext, rfl, hc, -⟩
    · exact ⟨'.', _, rfl, .inr ⟨rfl, rfl⟩⟩
    · exact ⟨c, _, rfl, .inl hc⟩
  | @cons d s hne hall _ =>
    obtain ⟨c, d, rfl⟩ := List.exists_cons_of_ne_nil hne
    exact ⟨c, _, rfl, .inl (List.all_eq_true.1 hall c List.mem_cons_self)⟩

namespace Scaffold

open Verification

variable {c : Context} {f g dir : String}

/-! ## Names in links -/

/-- Whether a path is called `f` in a directory: by what follows the directory, or as it is. -/
inductive Relative (dir : String) : String → String → Prop
  | within {f : String} (h : dir ≠ "") : Relative dir (dir ++ "/" ++ f) f
  | elsewhere {f : String} (h : dir = "" ∨ ¬ (dir ++ "/").toList <+: f.toList) : Relative dir f f

/-- A stylesheet or a script, by its extension in any letter case. -/
def IsAssetName (f : String) : Prop := endsWith (lowercase f) ".css" = true ∨ endsWith (lowercase f) ".js" = true

/-- What a page may link: what lies beside it, and what its description names, but for the page itself and
what belongs to the backend. -/
def MayLink (c : Context) (f : String) : Prop :=
  f ∈ c.siblings ∨ ∃ g ∈ mentioned c.description,
    g ≠ c.path ∧ Role.ofPath? g ≠ some .backend ∧ Relative (parentDir c.path) g f

theorem relative_iff : (if dir.isEmpty then g else match after? (dir ++ "/").toList g.toList with
    | some r => String.ofList r
    | none => g) = f ↔ Relative dir g f := by
  constructor
  · rintro rfl
    split
    · next hdir => exact .elsewhere (.inl (String.isEmpty_iff.1 hdir))
    split
    · next hdir _ r hr =>
      have hg : g = dir ++ "/" ++ String.ofList r := by
        rw [← String.toList_inj, eq_of_after? hr, String.toList_append (s := dir ++ "/"), String.toList_ofList]
      have hne : dir ≠ "" := fun h => hdir (String.isEmpty_iff.2 h)
      exact hg ▸ .within hne
    · next _ _ hnone =>
      refine .elsewhere (.inr ?_)
      rintro ⟨r, hr⟩
      rw [← hr, after?_append] at hnone
      cases hnone
  · intro h
    cases h with
    | within hdir =>
      rw [if_neg (by simpa using hdir), String.toList_append (t := f), after?_append]
      exact String.ofList_toList
    | elsewhere h =>
      split
      · rfl
      next hdir =>
      have hnot := h.resolve_left fun h => hdir (String.isEmpty_iff.2 h)
      split
      · next r hr => exact absurd ⟨r, (eq_of_after? hr).symm⟩ hnot
      · rfl

theorem mem_assets_iff : f ∈ assets c ↔ MayLink c f := by
  unfold assets MayLink
  simp only [List.mem_append, List.mem_map, List.mem_filter, Bool.and_eq_true, bne_iff_ne, and_assoc]
  exact or_comm.trans (or_congr_right (exists_congr fun g => and_congr_right fun _ => and_congr_right fun _ =>
    and_congr_right fun _ => relative_iff))

/-- A text that a check takes from a link as it stands there, and as a file of the site. -/
structure IsOwn (f : List Char) : Prop extends IsTarget f where
  hostless : ¬ "//".toList <+: f

theorem isTargetChar_of_isBareChar {d : Char} (h : isBareChar d = true) : isTargetChar d = true := by
  simp only [isBareChar, isNameChar] at h
  simp only [isTargetChar, h, Bool.true_or]

theorem isOwn_path {ds n : List Char} (hds : Directories ds) (hn : IsEnvironmentName n ∨ IsPlainName n) :
    IsOwn (ds ++ n) := by
  obtain ⟨c, r, hf, hc⟩ := exists_first hds hn
  have hfirst : ∀ {d : Char}, isNameChar d = false → ¬ [d, '/'] <+: ds ++ n := by
    rintro d hd ⟨t, ht⟩
    rw [hf] at ht
    obtain ⟨rfl, rfl⟩ := List.cons.inj ht
    rcases hc with hc | ⟨-, hc⟩
    · rw [hc] at hd
      cases hd
    · cases hc
  exact {
    nonempty := by simp [hf]
    chars := by
      rw [List.forall_mem_append]
      refine ⟨fun d hd => ?_, fun d hd => isTargetChar_of_isBareChar ?_⟩
      · rcases hds.chars d hd with hd | rfl
        · exact isTargetChar_of_isBareChar (isBareChar_of_isNameChar hd)
        · rfl
      · exact hn.elim IsEnvironmentName.chars IsPlainName.chars d hd
    here := hfirst rfl
    hostless := hfirst rfl }

/-- A name without directories is a file of the site. -/
theorem isOwn_bare (hne : f ≠ "") (hf : ∀ d ∈ f.toList, isBareChar d = true) : IsOwn f.toList := by
  have hslash : ∀ {w : List Char}, '/' ∈ w → ¬ w <+: f.toList := fun hmem hw => by cases hf _ (hw.subset hmem)
  exact {
    nonempty := by simpa using hne
    chars := fun d hd => isTargetChar_of_isBareChar (hf d hd)
    here := hslash (by decide)
    hostless := hslash (by decide) }

/-- Seen from a directory, a path that a text can name is a file of the site. -/
theorem Relative.isOwn (h : Relative dir g f) (hg : NamedPath g.toList) : IsOwn f.toList := by
  obtain ⟨⟨ds, n, hg, hds, hn⟩, -⟩ := hg
  cases h with
  | within =>
    have hsplit : ds ++ n = dir.toList ++ '/' :: f.toList := by
      rw [← hg]
      simp
    obtain ⟨ds', hf, hds'⟩ := hds.behind (chars_of_name hn).1 hsplit
    exact hf ▸ isOwn_path hds' hn
  | elsewhere => exact hg ▸ isOwn_path hds hn

/-! ## Pages -/

/-- A page is written under the name of one, unless it is named as an environment file. -/
theorem render_html (hext : extension (lowercase (baseName c.path)) = "html" ∨
      extension (lowercase (baseName c.path)) = "htm")
    (hvisible : startsWith (lowercase (baseName c.path)) ".env" = false) :
    render c = .ok (html c (appTitle c.description)) := by
  have hname : ∀ name, extension name ≠ "html" → extension name ≠ "htm" → lowercase (baseName c.path) ≠ name := by
    rintro name hhtml hhtm rfl
    exact hext.elim hhtml hhtm
  have hmanual : extension (lowercase (baseName c.path)) ≠ "md" := by
    rcases hext with hext | hext
    · rw [hext]; decide
    · rw [hext]; decide
  unfold render
  simp only
  rw [if_neg (hname _ (by decide) (by decide)), if_neg (hname _ (by decide) (by decide)), if_neg (by simp [hvisible]),
    if_neg hmanual, if_pos hext]

section
variable (hsiblings : ∀ f ∈ c.siblings, ∀ d ∈ f.toList, isBareChar d = true)
include hsiblings

theorem isOwn_linked (hf : f ∈ linkedStyles c ++ linkedScripts c) : IsOwn f.toList := by
  have hext : ∀ ext, ext ≠ "" → f ∈ withExtension ext (assets c) → IsOwn f.toList := by
    intro ext hne hf
    obtain ⟨hmem, hend⟩ := mem_withExtension.1 hf
    rcases mem_assets_iff.1 hmem with hsibling | ⟨g, hg, -, -, hrelative⟩
    · refine isOwn_bare ?_ (hsiblings f hsibling)
      rintro rfl
      rw [endsWith, List.isSuffixOf_iff_suffix] at hend
      exact hne (String.toList_eq_nil_iff.1 (List.suffix_nil.1 hend))
    · exact hrelative.isOwn (namedPath_of_mentioned hg)
  exact (List.mem_append.1 hf).elim (hext ".css" (by decide)) (hext ".js" (by decide))

/-- The assets of a page are what it may link. -/
theorem referencedAssets_html (hplaceless : ∀ f ∈ linkedStyles c, ¬ "__SCRIPTS__".toList <:+: f.toList)
    {title : String} (ht : Titled title) : f ∈ referencedAssets (html c title) ↔ IsAssetName f ∧ MayLink c f := by
  obtain ⟨-, -, n, -, hmarkup, -⟩ := linked_html hplaceless ht
  have htargets : ∀ g, IsLinked c g → IsTarget g := by
    rintro g ⟨f, hf, rfl⟩
    exact (isOwn_linked hsiblings hf).toIsTarget
  have hlinked : IsLinked c f.toList ↔ f ∈ linkedStyles c ++ linkedScripts c := by
    constructor
    · rintro ⟨g, hg, heq⟩
      rwa [← String.toList_inj.1 heq]
    · exact fun hf => ⟨f, hf, rfl⟩
  have hnames : f ∈ linkedStyles c ++ linkedScripts c ↔ IsAssetName f ∧ MayLink c f := by
    unfold linkedStyles linkedScripts IsAssetName
    rw [List.mem_append, mem_withExtension, mem_withExtension, ← and_or_left, mem_assets_iff, and_comm]
  rw [← hnames, ← hlinked]
  refine ⟨linked_of_mem_assets htargets hmarkup, fun hf => ?_⟩
  have hf := hlinked.1 hf
  have hown := isOwn_linked hsiblings hf
  have hlocal : localAsset? (trim f.toList) = some f := by
    have := localAsset?_target hown.toIsTarget hown.hostless (hnames.1 hf).1
    rwa [String.ofList_toList] at this
  rcases List.mem_append.1 hf with hstyle | hscript
  · exact mem_assets_of_tag htargets hmarkup hown.toIsTarget (.inl rfl) (link_of_style hplaceless hstyle) hlocal
  · exact mem_assets_of_tag htargets hmarkup hown.toIsTarget (.inr rfl) (link_of_script hscript) hlocal

end

/-- The assets that a check reads from a page are the stylesheets and scripts that it may link, whatever its
description and its title. -/
theorem referencedAssets_render
    (hext : extension (lowercase (baseName c.path)) = "html" ∨ extension (lowercase (baseName c.path)) = "htm")
    (hvisible : startsWith (lowercase (baseName c.path)) ".env" = false)
    (hsiblings : ∀ f ∈ c.siblings, ∀ d ∈ f.toList, isBareChar d = true)
    (hplaceless : ∀ f, MayLink c f → endsWith (lowercase f) ".css" = true → contains f "__SCRIPTS__" = false) :
    ∃ body, render c = .ok body ∧ ∀ f, f ∈ referencedAssets body ↔ IsAssetName f ∧ MayLink c f := by
  have hfree : ∀ f ∈ linkedStyles c, ¬ "__SCRIPTS__".toList <:+: f.toList := by
    intro f hf
    obtain ⟨hmem, hend⟩ := mem_withExtension.1 hf
    rw [← contains_iff, hplaceless f (mem_assets_iff.1 hmem) hend]
    exact Bool.false_ne_true
  exact ⟨_, render_html hext hvisible, fun f =>
    referencedAssets_html hsiblings hfree (titled_appTitle c.description)⟩

/-- A page beside the stylesheet of its directory, whose title holds the place of the scripts. -/
def gardenPage : Context where
  path := "web/Garden.HTML"
  description := "An application (My __SCRIPTS__ garden). web/Garden.HTML loads web/js/zoom.js and print.css."
  siblings := ["style.css", "notes.txt"]
  tree := []
  manifest := ""

theorem referencedAssets_gardenPage :
    (∀ f ∈ gardenPage.siblings, ∀ d ∈ f.toList, isBareChar d = true) ∧
      ∃ body, render gardenPage = .ok body ∧ ∀ f, f ∈ referencedAssets body ↔ IsAssetName f ∧ MayLink gardenPage f := by
  have hbare : ∀ f ∈ gardenPage.siblings, f.toList.all isBareChar = true := by decide
  have hsiblings : ∀ f ∈ gardenPage.siblings, ∀ d ∈ f.toList, isBareChar d = true := fun f hf =>
    List.all_eq_true.1 (hbare f hf)
  have hplaceless : ∀ f ∈ assets gardenPage, contains f "__SCRIPTS__" = false := by decide
  exact ⟨hsiblings, referencedAssets_render (.inl (by decide)) (by decide) hsiblings
    fun f hf _ => hplaceless f (mem_assets_iff.2 hf)⟩

/-- A page that is named as an environment file, but for the case of its letters, beside a stylesheet. -/
def shadowedPage : Context where
  path := ".ENV.html"
  description := ""
  siblings := ["style.css"]
  tree := []
  manifest := ""

/-- It is written as an environment file, which links nothing. -/
theorem shadowedPage_unlinked : startsWith (baseName shadowedPage.path) ".env" = false ∧
    (∀ f ∈ shadowedPage.siblings, ∀ d ∈ f.toList, isBareChar d = true) ∧
    ¬ ∃ body, render shadowedPage = .ok body ∧
      ∀ f, f ∈ referencedAssets body ↔ IsAssetName f ∧ MayLink shadowedPage f := by
  have hrender : render shadowedPage = .ok "PORT=8000\nDATABASE_PATH=app.db\n" := by decide
  have hbare : ∀ f ∈ shadowedPage.siblings, f.toList.all isBareChar = true := by decide
  refine ⟨by decide, fun f hf => List.all_eq_true.1 (hbare f hf), ?_⟩
  rintro ⟨body, hbody, hassets⟩
  obtain rfl := Except.ok.inj (hrender.symm.trans hbody)
  have hlinked := (hassets "style.css").2 ⟨.inl (by decide), .inl List.mem_cons_self⟩
  revert hlinked
  decide

end Scaffold

end BuildLoop
