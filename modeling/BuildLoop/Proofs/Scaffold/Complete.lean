import BuildLoop.Proofs.Scaffold.Asset
import BuildLoop.Proofs.Scaffold.Server

/-!
# Every file is complete

A page, a stylesheet, a script or a Python file is written from a template that depends on its path, its
description and what lies beside it. Whatever these are, the file passes the check that is made of it, or it
is refused since it needs a database without a template:

    IsRegular c   →   Answers c (render c)                                              (answers_render)

It is the paths that have to be regular: a bracket in the name of a file would stand in the text. And a page
must not be named as an environment file, in any letter case, since it would be written as one.
-/

namespace BuildLoop.Scaffold

open Text Completeness

variable {c : Context}

/-! ## Paths -/

/-- The extensions of pages. -/
def pageExtensions : List String := ["html", "htm"]

/-- The extensions of the files whose templates are checked for more than markers. -/
def sourceExtensions : List String := pageExtensions ++ ["css", "scss", "js", "py"]

/-- Whether all characters of a path or a name are letters, digits and the signs of paths. -/
def IsSpelled (path : String) : Prop := ∀ d ∈ path.toList, isLinkChar d = true

/-- Whether a file is to be written whose kind can be checked, all names being spelled as names are. -/
structure IsRegular (c : Context) : Prop where
  path : IsSpelled c.path
  siblings : ∀ f ∈ c.siblings, IsSpelled f
  ext : extension (lowercase c.path) ∈ sourceExtensions
  /-- A page has not the name of an environment file. -/
  visible : extension (lowercase c.path) ∈ pageExtensions → startsWith (lowercase (baseName c.path)) ".env" = false

/-- The extension of a path is that of the name in it. -/
theorem extension_baseName {path : String} (hne : extension (lowercase path) ≠ "")
    (hslash : '/' ∉ (extension (lowercase path)).toList) :
    extension (lowercase (baseName path)) = extension (lowercase path) := by
  obtain ⟨-, hself | ⟨dir, hpath⟩⟩ := exists_baseName path
  · rw [← hself]
  have hlower : (lowercase path).toList = lower dir ++ '/' :: lower (baseName path).toList := by
    rw [lowercase, String.toList_ofList, hpath, lower_append (by decide) (by decide) (by decide)]
    rfl
  obtain ⟨a, hsplit, hdot⟩ := exists_extension hne
  have hsign : '/' ∉ '.' :: (extension (lowercase path)).toList := by simpa using hslash
  obtain ⟨b, hname, -⟩ := exists_of_notMem_right (hsplit.symm.trans hlower) hsign
  rw [← String.toList_ofList (l := lower _)] at hname
  rw [lowercase, extension_eq hname hdot, String.ofList_toList]

namespace IsRegular

variable (h : IsRegular c)
include h

theorem ext_baseName : extension (lowercase (baseName c.path)) = extension (lowercase c.path) := by
  have hall : ∀ ext ∈ sourceExtensions, ext ≠ "" ∧ '/' ∉ ext.toList := by decide +kernel
  obtain ⟨hne, hslash⟩ := hall _ h.ext
  exact extension_baseName hne hslash

/-- What a file is called in a module's own sentence is harmless there. -/
theorem isStem : IsStem (stem (lowercase (baseName c.path))) := by
  obtain ⟨hslash, hpath⟩ := exists_baseName c.path
  have hbase : ∀ d ∈ (baseName c.path).toList, isLinkChar d = true := by
    intro d hd
    refine h.path d ?_
    rcases hpath with hself | ⟨dir, hpath⟩
    · rwa [hself]
    · rw [hpath]
      exact List.mem_append_right _ (List.mem_cons_of_mem _ hd)
  have hname : ∀ d ∈ (lowercase (baseName c.path)).toList, isQuiet d = true ∧ d ≠ ' ' := by
    rw [lowercase, String.toList_ofList]
    refine (lowered_lower _).forall (fun d hd hascii => ?_) fun d hd =>
      ⟨isQuiet_of_isTitled (isTitled_of_isMild hd), ?_⟩
    · have hne : d ≠ '/' := fun heq => hslash (heq ▸ hd)
      exact of_codes (P := fun d => isLinkChar d = true → d ≠ '/' → isQuiet d.toLower = true ∧ d.toLower ≠ ' ')
        (by decide) hascii (hbase d hd) hne
    · rintro rfl
      revert hd
      decide
  unfold stem IsStem
  cases hcut : cutAtLast '.' (lowercase (baseName c.path)).toList with
  | none => exact hname
  | some p =>
    simp only [String.toList_ofList]
    intro d hd
    refine hname d ?_
    rw [(cutAtLast_eq_some.1 hcut).1]
    exact List.mem_append_left _ hd

/-- All that a page links is spelled as names are. -/
theorem assets : ∀ f ∈ assets c, IsSpelled f := by
  have hnamed : ∀ f ∈ mentioned c.description, IsSpelled f := by
    intro f hf d hd
    have hchar : isTargetChar d = true := by
      rcases (namedPath_of_mentioned hf).chars d hd with hbare | rfl
      · simp only [isBareChar, isNameChar] at hbare
        simp only [isTargetChar, hbare, Bool.true_or]
      · rfl
    rw [isLinkChar, hchar, Bool.or_true]
  intro f hf
  unfold Scaffold.assets at hf
  rcases List.mem_append.1 hf with hf | hf
  · obtain ⟨g, hg, rfl⟩ := List.mem_map.1 hf
    have hspelled := hnamed g (List.mem_filter.1 hg).1
    split
    · exact hspelled
    split
    · next r hafter =>
      intro d hd
      rw [String.toList_ofList] at hd
      refine hspelled d ?_
      rw [eq_of_after? hafter]
      exact List.mem_append_right _ hd
    · exact hspelled
  · exact h.siblings f hf

end IsRegular

/-! ## Files -/

theorem isSource_of_mem {ext : String} (h : ext ∈ sourceExtensions) (hpage : ext ∉ pageExtensions) :
    ∃ f, IsSource f ext := by
  rcases List.mem_append.1 h with h | h
  · exact absurd h hpage
  simp only [List.mem_cons, List.not_mem_nil, or_false] at h
  rcases h with rfl | rfl | rfl | rfl
  · exact ⟨.style, isSource_style (.inl rfl)⟩
  · exact ⟨.style, isSource_style (.inr rfl)⟩
  · exact ⟨.script, isSource_script⟩
  · exact ⟨.python, isSource_python⟩

/-- Settings are complete as a file of any kind but a page. -/
theorem complete_settings {f : Family} {path : String} (hext : IsSource f (extension (lowercase path))) :
    checkComplete path "PORT=8000\nDATABASE_PATH=app.db\n" = .ok () := by
  refine complete_source hext (by decide) ?_
  cases f with
  | script => exact eq_ok_of_isOk (by decide +kernel)
  | style => exact eq_ok_of_isOk (by decide +kernel)
  | python => exact eq_ok_of_isOk (by decide +kernel)

/-- The file that a template gives is complete, whatever its path, its description and the names beside it
are. -/
theorem answers_render (h : IsRegular c) : Answers c (render c) := by
  have htitle := titled_appTitle c.description
  have hlinked : ∀ f ∈ linkedStyles c ++ linkedScripts c, IsSpelled f := by
    intro f hf
    rcases List.mem_append.1 hf with hf | hf
    · exact h.assets f (mem_withExtension.1 hf).1
    · exact h.assets f (mem_withExtension.1 hf).1
  have hname : ∀ name, extension name ∉ sourceExtensions → lowercase (baseName c.path) ≠ name := by
    rintro name hnot rfl
    rw [h.ext_baseName] at hnot
    exact hnot h.ext
  unfold render
  simp only [h.ext_baseName]
  rw [if_neg (hname _ (by decide)), if_neg (hname _ (by decide))]
  split
  · next henv =>
    have hpage : extension (lowercase c.path) ∉ pageExtensions := fun hpage => by
      rw [h.visible hpage] at henv
      cases henv
    obtain ⟨f, hsource⟩ := isSource_of_mem h.ext hpage
    exact .ok (complete_settings hsource)
  split
  · next hmanual =>
    have hext := h.ext
    rw [hmanual] at hext
    exact absurd hext (by decide)
  split
  · next hpage => exact .ok (complete_html hlinked htitle hpage)
  split
  · next hstyle =>
    obtain ⟨hblock, -⟩ := isBlock_stylesheet
    exact .ok (complete_titled hblock.block htitle (isSource_style hstyle))
  split
  · next hpython => exact answers_python htitle h.isStem hpython
  split
  · next hnode => exact answers_node htitle h.isStem hnode.1
  split
  · next hscript =>
    obtain ⟨hblock, -⟩ := isBlock_script c.usesServer
    have hsource : IsSource .script (extension (lowercase c.path)) := hscript ▸ isSource_script
    exact .ok (complete_titled hblock.block htitle hsource)
  · next hpage hstyle hpython _ hscript =>
    have hall : ∀ ext ∈ sourceExtensions,
        (ext = "html" ∨ ext = "htm") ∨ (ext = "css" ∨ ext = "scss") ∨ ext = "py" ∨ ext = "js" := by decide
    rcases hall _ h.ext with hext | hext | hext | hext
    · exact absurd hext hpage
    · exact absurd hext hstyle
    · exact absurd hext hpython
    · exact absurd hext hscript

/-- A page that links what lies beside it and what its description names. -/
def galleryPage : Context where
  path := "web/Gallery.HTML"
  description := "Create web/Gallery.HTML, which loads web/zoom.js."
  siblings := ["style.css"]
  tree := ["web/style.css"]
  manifest := ""

theorem answers_galleryPage : IsRegular galleryPage ∧ Answers galleryPage (render galleryPage) := by
  have hregular : IsRegular galleryPage := by
    refine ⟨List.all_eq_true.1 (by decide), fun f hf => ?_, by decide, fun _ => by decide⟩
    obtain rfl := List.mem_singleton.1 hf
    exact List.all_eq_true.1 (by decide)
  exact ⟨hregular, answers_render hregular⟩

/-- A page that is named as an environment file, but for the case of its letters. -/
def shoutedPage : Context where
  path := ".ENV.html"
  description := ""
  siblings := []
  tree := []
  manifest := ""

/-- It is written as an environment file, which is no complete page. -/
theorem shoutedPage_incomplete : IsSpelled shoutedPage.path ∧ extension shoutedPage.path = "html" ∧
    startsWith (baseName shoutedPage.path) ".env" = false ∧ ¬ Answers shoutedPage (render shoutedPage) := by
  have hrender : render shoutedPage = .ok "PORT=8000\nDATABASE_PATH=app.db\n" := by decide
  refine ⟨List.all_eq_true.1 (by decide), by decide, by decide, ?_⟩
  rw [hrender]
  rintro (⟨db, -, -, hrefused⟩ | ⟨body, hbody, hcomplete⟩)
  · cases hrefused
  · obtain rfl := Except.ok.inj hbody
    revert hcomplete
    decide

end BuildLoop.Scaffold
