import BuildLoop.Proofs.Scaffold.Page
import BuildLoop.Proofs.Task.Named
import BuildLoop.Proofs.Text.Cut
import BuildLoop.Proofs.Workspace.Flat

/-!
# Files that a page asks for

A page in the root links what its description names and nothing else. What it names without a directory
has a bare name, and the stylesheet or the script of that name can be written: it comes from a template
and is complete.

    f ∈ assets c, no / in f   →   f is a bare name, not of the backend                (bare_of_mem_assets)
    f is linked               →   render gives a complete file for f                       (exists_render)
-/

namespace BuildLoop.Scaffold

open Text

variable {c : Context} {f : String}

/-- The page that a context is about lies in the root, with nothing beside it. -/
structure IsRootPage (c : Context) : Prop where
  path : c.path = "index.html"
  alone : c.siblings = []

/-! ## What a page links -/

theorem mem_assets (hc : IsRootPage c) : f ∈ assets c ↔
    f ∈ mentioned c.description ∧ f ≠ "index.html" ∧ Role.ofPath? f ≠ some .backend := by
  have hdir : (parentDir "index.html").isEmpty = true := by decide
  unfold assets
  simp only [hc.path, hc.alone, hdir, if_true, List.map_id', List.append_nil, List.mem_filter, Bool.and_eq_true,
    bne_iff_ne]

theorem mem_withExtension {ext : String} {names : List String} :
    f ∈ withExtension ext names ↔ f ∈ names ∧ endsWith (lowercase f) ext = true := by
  unfold withExtension
  rw [List.mem_eraseDups, List.mem_filter]

/-- An environment file is the backend's. -/
theorem ofPath?_environment (h : IsEnvironmentName f.toList) : Role.ofPath? f = some .backend := by
  have hchars := h.chars
  obtain ⟨x, hf, -⟩ := h
  have hascii : ∀ c ∈ f.toList, c.toNat < 128 := fun c hc => ascii_of_isBareChar (hchars c hc)
  have hplain : ∀ c ∈ f.toList, isBlank c = false ∧ c ≠ '\\' ∧ c.toLower ≠ '/' := fun c hc =>
    of_codes (P := fun c => isBareChar c = true → isBlank c = false ∧ c ≠ '\\' ∧ c.toLower ≠ '/') (by decide)
      (hascii c hc) (hchars c hc)
  have hnormal : normalizedPath f = ".env".toList ++ x.map Char.toLower := by
    have hslashes : f.toList.map (fun c => if c = '\\' then '/' else c) = f.toList :=
      List.map_congr_left (fun c hc => if_neg (hplain c hc).2.1) |>.trans (List.map_id' _)
    unfold normalizedPath
    rw [trim_eq_self (fun c hc => (hplain c (List.mem_of_mem_head? hc)).1)
      (fun c hc => (hplain c (List.mem_of_mem_getLast? hc)).1), hslashes, lower_of_ascii hascii, hf, List.map_append]
    rfl
  have hslash : '/' ∉ ".env".toList ++ x.map Char.toLower := by
    rw [List.mem_append]
    rintro (hmem | hmem)
    · revert hmem; decide
    · obtain ⟨c, hc, hlower⟩ := List.mem_map.1 hmem
      exact (hplain c (hf ▸ List.mem_append_right _ hc)).2.2 hlower
  have hname : baseName (String.ofList (".env".toList ++ x.map Char.toLower)) =
      String.ofList (".env".toList ++ x.map Char.toLower) := by
    rw [baseName_eq_self, String.toList_ofList]
    exact hslash
  have hhere : dropHere (".env".toList ++ x.map Char.toLower) = ".env".toList ++ x.map Char.toLower := rfl
  have hstart : startsWith (String.ofList (".env".toList ++ x.map Char.toLower)) ".env" = true := by
    unfold startsWith
    exact List.isPrefixOf_iff_prefix.2 ⟨_, String.toList_ofList.symm⟩
  unfold Role.ofPath?
  simp only [hnormal, hhere, hname]
  rw [if_pos (.inr (.inl hstart))]

theorem bare_of_mem_assets (hc : IsRootPage c) (hf : f ∈ assets c) (hslash : '/' ∉ f.toList) :
    BareName f.toList := by
  obtain ⟨hmentioned, -, hrole⟩ := (mem_assets hc).1 hf
  exact (bare_of_mentioned hmentioned hslash).resolve_left fun henv => hrole (ofPath?_environment henv)

/-! ## What is written for it -/

/-- What ends with a full stop and some other characters has them as its extension. -/
theorem extension_of_endsWith {s : String} {ext : List Char} (hext : '.' ∉ ext)
    (h : endsWith s (String.ofList ('.' :: ext)) = true) : extension s = String.ofList ext := by
  unfold endsWith at h
  rw [List.isSuffixOf_iff_suffix, String.toList_ofList] at h
  obtain ⟨a, ha⟩ := h
  exact extension_eq ha.symm hext

/-- A file for the browser as the templates make it: a stylesheet or a script. -/
structure IsAsset (f : String) : Prop where
  bare : BareName f.toList
  ext : extension (lowercase f) = "css" ∨ extension (lowercase f) = "js" ∧ Role.ofPath? f ≠ some .backend

theorem isAsset_of_linked (hc : IsRootPage c) (hf : f ∈ linkedStyles c ++ linkedScripts c)
    (hslash : '/' ∉ f.toList) : IsAsset f := by
  rcases List.mem_append.1 hf with hf | hf
  · obtain ⟨hf, hend⟩ := mem_withExtension.1 hf
    exact ⟨bare_of_mem_assets hc hf hslash, .inl (extension_of_endsWith (by decide) hend)⟩
  · obtain ⟨hf, hend⟩ := mem_withExtension.1 hf
    exact ⟨bare_of_mem_assets hc hf hslash,
      .inr ⟨extension_of_endsWith (by decide) hend, ((mem_assets hc).1 hf).2.2⟩⟩

namespace IsAsset

variable (h : IsAsset f)
include h

theorem slash_notMem : '/' ∉ f.toList := h.bare.notMem (by decide)

theorem isTarget : IsTarget f.toList := by
  obtain ⟨c, r, hf, hc⟩ := h.bare.exists_cons
  refine ⟨by simp [hf], fun d hd => ?_, ?_⟩
  · have hchar := h.bare.chars d hd
    simp only [isBareChar, isNameChar] at hchar
    simp only [isTargetChar, hchar, Bool.true_or]
  · rw [hf]
    rintro hdot
    obtain rfl := (List.cons_prefix_cons.1 hdot).1
    cases hc

theorem visible : f.toList.head? ≠ some '.' := by
  obtain ⟨c, r, hf, hc⟩ := h.bare.exists_cons
  rw [hf]
  rintro hdot
  obtain rfl := Option.some.inj hdot
  cases hc

theorem isFileName (hshort : f.toList.length ≤ 217) : Workspace.IsFileName f where
  nonempty := h.isTarget.nonempty
  plain := fun c hc => ⟨h.bare.ascii c hc, of_codes (P := fun c => isBareChar c = true → c.toNat ≠ 0 ∧ c ≠ '/')
    (by decide) (h.bare.ascii c hc) (h.bare.chars c hc)⟩
  visible := h.visible
  short := hshort

end IsAsset

theorem utf8ByteSize_of_length {s : String} {n : Nat} (h : s.toList.length ≤ n) (hn : 4 * n ≤ 2 * 1024 * 1024) :
    s.utf8ByteSize ≤ 2 * 1024 * 1024 := by
  have hsize := utf8ByteSize_le (s := s) (n := 4) fun c _ => c.utf8Size_le_four
  omega

theorem size_titled {template title : String} (htitle : Titled title) (h : template.toList.length ≤ 5000) :
    (replaced template "__TITLE__" title).utf8ByteSize ≤ 2 * 1024 * 1024 :=
  utf8ByteSize_of_length (length_titled htitle h) (by decide)

theorem not_environment (h : BareName f.toList) : startsWith (lowercase f) ".env" = false := by
  obtain ⟨a, r, hf, ha⟩ := h.exists_cons
  have hlower : a.toLower ≠ '.' := by
    have hascii := h.ascii a (hf ▸ List.mem_cons_self)
    exact of_codes (P := fun a => isNameChar a = true → a.toLower ≠ '.') (by decide) hascii ha
  have hlist : (lowercase f).toList = a.toLower :: r.map Char.toLower := by
    rw [lowercase, String.toList_ofList, lower_of_ascii h.ascii, hf, List.map_cons]
  rw [Bool.eq_false_iff]
  intro hstart
  have hdot : ".env".toList <+: (lowercase f).toList := List.isPrefixOf_iff_prefix.1 hstart
  rw [hlist] at hdot
  exact hlower (List.cons_prefix_cons.1 hdot).1.symm

/-- There is a complete file for whatever a page links. -/
theorem exists_render (h : IsAsset c.path) : ∃ body, render c = .ok body ∧
    checkComplete c.path body = .ok () ∧ body.utf8ByteSize ≤ 2 * 1024 * 1024 := by
  have hbase := baseName_eq_self.2 h.slash_notMem
  have hname : ∀ name, extension name ≠ "css" → extension name ≠ "js" → lowercase c.path ≠ name := by
    rintro name hcss hjs rfl
    exact h.ext.elim hcss fun hext => hjs hext.1
  have htitle := titled_appTitle c.description
  unfold render
  simp only [hbase, not_environment h.bare]
  rw [if_neg (hname _ (by decide) (by decide)), if_neg (hname _ (by decide) (by decide)), if_neg (by simp)]
  rcases h.ext with hcss | ⟨hjs, hrole⟩
  · rw [hcss, if_neg (by decide), if_neg (by decide), if_pos (by decide)]
    have hext : IsSource .style (extension (lowercase c.path)) := isSource_style (.inl hcss)
    obtain ⟨hblock, hlength⟩ := isBlock_stylesheet
    exact ⟨_, rfl, complete_titled hblock.block htitle hext, size_titled htitle hlength⟩
  · rw [hjs, if_neg (by decide), if_neg (by decide), if_neg (by decide), if_neg (by decide),
      if_neg (fun hback => hrole hback.2), if_pos rfl]
    have hext : IsSource .script (extension (lowercase c.path)) := hjs ▸ isSource_script
    obtain ⟨hblock, hlength⟩ := isBlock_script c.usesServer
    exact ⟨_, rfl, complete_titled hblock.block htitle hext, size_titled htitle hlength⟩

theorem render_page (hc : IsRootPage c) : render c = .ok (html c (appTitle c.description)) := by
  have hname : lowercase (baseName "index.html") = "index.html" := by decide
  have hext : extension "index.html" = "html" := by decide
  unfold render
  simp only [hc.path, hname, hext]
  rfl

theorem html_congr {c' : Context} (hassets : assets c = assets c') (title : String) : html c title = html c' title := by
  unfold html
  rw [hassets]

theorem assets_congr {c' : Context} (hc : IsRootPage c) (hc' : IsRootPage c')
    (hdescription : c.description = c'.description) : assets c = assets c' := by
  unfold assets
  simp only [hc.path, hc'.path, hc.alone, hc'.alone, hdescription]

end BuildLoop.Scaffold
