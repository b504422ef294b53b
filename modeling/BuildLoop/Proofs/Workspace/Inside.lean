import BuildLoop.Proofs.Plan.Built
import BuildLoop.Proofs.Task.Named
import BuildLoop.Proofs.Workspace.Confine

/-!
# Paths that stay inside

A path comes into a project by being named in a text or by being listed in an architecture. Three notions of
a path meet here: the pattern that finds it in a text, the check of an architecture, and what a workspace
makes of it. They agree:

    f ∈ mentioned text   →   each name in f is one that a file can have                 (names_of_mentioned)
    f ∈ mentioned text   →   w.resolve fs f = .ok (w.root ++ Files.namesOf f)         (resolve_of_mentioned)
    a.validate = .ok (), path ∈ a.files.paths
      →   w.resolve fs path = .ok (w.root ++ namesIn path)                                 (resolve_of_valid)

The last two hold where the root is a folder and no link lies in the project.
-/

namespace BuildLoop

open Text Pattern Files Workspace

/-! ## Names of a path -/

/-- A name with a character that is no full stop is one that a file can have. -/
theorem isName_of_mem {d : List Char} {c : Char} (hc : c ∈ d) (hdot : c ≠ '.') : IsName (String.ofList d) := by
  have hdots : ∀ name ∈ ["", ".", ".."], ∀ c ∈ name.toList, c = '.' := by simp
  have hne : ∀ name ∈ ["", ".", ".."], String.ofList d ≠ name := by
    rintro name hname rfl
    exact hdot (hdots _ hname c (by rwa [String.toList_ofList]))
  simpa [IsName] using hne

theorem isName_of_chars {d : List Char} (hne : d ≠ []) (hall : d.all isNameChar = true) :
    IsName (String.ofList d) := by
  obtain ⟨c, hc⟩ := List.exists_mem_of_ne_nil d hne
  have hchar := List.all_eq_true.1 hall c hc
  exact isName_of_mem hc fun he => absurd (he ▸ hchar) (by decide)

/-- The last component of a path that a text can name. -/
theorem isName_of_last {n : List Char} (h : IsEnvironmentName n ∨ IsPlainName n) : IsName (String.ofList n) := by
  rcases h with ⟨x, rfl, -⟩ | ⟨c, mid, ext, rfl, hc, -⟩
  · exact isName_of_mem (c := 'e') (List.mem_append_left x (by decide)) (by decide)
  · exact isName_of_mem List.mem_cons_self fun he => absurd (he ▸ hc) (by decide)

theorem Directories.names {ds n : List Char} (h : Directories ds) (hn : '/' ∉ n) :
    ∀ piece ∈ splitAtEach (· == '/') (ds ++ n), piece = n ∨ piece ≠ [] ∧ piece.all isNameChar = true := by
  induction h with
  | nil =>
    have hfree : ∀ c ∈ n, (c == '/') = false := fun c hc => beq_eq_false_iff_ne.2 fun he => hn (by rwa [← he])
    rw [List.nil_append, splitAtEach_of_free hfree]
    exact fun piece hpiece => .inl (List.mem_singleton.1 hpiece)
  | @cons d s hne hall _ ih =>
    have hfree : ∀ c ∈ d, (c == '/') = false := fun c hc => beq_eq_false_iff_ne.2 fun he =>
      absurd (he ▸ List.all_eq_true.1 hall c hc) (by decide)
    rw [List.append_assoc, List.cons_append, splitAtEach_append hfree (beq_self_eq_true '/')]
    exact List.forall_mem_cons.2 ⟨.inr ⟨hne, hall⟩, ih⟩

/-- What a text names has only names that a file can have. -/
theorem names_of_mentioned {text f : String} (h : f ∈ mentioned text) : ∀ n ∈ Files.namesOf f, IsName n := by
  obtain ⟨⟨ds, n, hf, hds, hname⟩, -⟩ := namedPath_of_mentioned h
  intro m hm
  rw [Files.namesOf, hf] at hm
  obtain ⟨piece, hpiece, rfl⟩ := List.mem_map.1 hm
  rcases hds.names (chars_of_name hname).1 piece hpiece with rfl | ⟨hne, hall⟩
  · exact isName_of_last hname
  · exact isName_of_chars hne hall

/-! ## Their places -/

section
variable {w : Workspace} {fs : Files} (hroot : Folder fs w.root) (hfree : LinkFree w.root fs)
include hroot hfree

theorem resolve_of_mentioned {text f : String} (h : f ∈ mentioned text) :
    w.resolve fs f = .ok (w.root ++ Files.namesOf f) := by
  have hnames := names_of_mentioned h
  obtain ⟨hrelative, heq⟩ := of_names hnames
  have hresolve : w.resolve fs f = .ok (w.root ++ namesIn f) :=
    resolve_of_names hroot (hfree.plain _) hrelative (by rw [heq]; exact fun n hn => (hnames n hn).2.2)
  rwa [heq] at hresolve

theorem resolve_of_valid {a : Architecture} {path : String} (ha : a.validate = .ok ()) (h : path ∈ a.files.paths) :
    w.resolve fs path = .ok (w.root ++ namesIn path) ∧ ∀ n ∈ namesIn path, IsName n := by
  obtain ⟨-, -, -, hinside⟩ := Plan.valid_iff.1 ha
  obtain ⟨hrelative, hdown⟩ := of_isRelativeInside (hinside path h)
  exact ⟨resolve_of_names hroot (hfree.plain _) hrelative hdown, fun n hn =>
    ⟨(of_mem_namesIn hn).1, (of_mem_namesIn hn).2, hdown n hn⟩⟩

end

/-- The files of a text are pairwise distinct; they stand in it one after another, and come in the order in
which they are found first. None is the name of a library, in whatever letter case. Each is a relative
path, made of names that files can have. Where no link lies in a project, a workspace takes each of them,
and each path that a valid architecture lists, to the place below its root that the path names. -/
theorem mentioned_inside (text : String) :
    ((mentioned text).Nodup ∧ Strewn ((mentioned text).map String.toList) text.toList ∧
      (∀ f, f ∈ mentioned text ↔ f ∈ candidates text) ∧
      (mentioned text).Pairwise fun f g => (candidates text).idxOf f < (candidates text).idxOf g) ∧
    (∀ f ∈ mentioned text, f ≠ "" ∧ String.ofList (lower f.toList) ∉ libraryNames ∧ isAbsolute f = false ∧
      ∀ n ∈ Files.namesOf f, IsName n) ∧
    ∀ (w : Workspace) (fs : Files), Folder fs w.root → LinkFree w.root fs →
      (∀ f ∈ mentioned text, w.resolve fs f = .ok (w.root ++ Files.namesOf f)) ∧
      ∀ a : Architecture, a.validate = .ok () → ∀ path ∈ a.files.paths,
        w.resolve fs path = .ok (w.root ++ namesIn path) ∧ ∀ n ∈ namesIn path, IsName n := by
  refine ⟨⟨nodup_mentioned text, strewn_mentioned text, fun f => mem_mentioned, ?_⟩, fun f hf => ?_,
    fun w fs hroot hfree => ⟨fun f hf => resolve_of_mentioned hroot hfree hf,
      fun a ha path hpath => resolve_of_valid hroot hfree ha hpath⟩⟩
  · rw [mentioned_eq_foldl]
    exact pairwise_foldl_addPath (candidates text) (fun _ => Iff.rfl) .nil
  · have hnamed := namedPath_of_mentioned hf
    refine ⟨?_, hnamed.foreign, (of_names (names_of_mentioned hf)).1, names_of_mentioned hf⟩
    rintro rfl
    exact hnamed.ne_nil rfl

/-- A project that is opened where nothing was, a text that names a file behind a way up, and a manifest that
lists one with a doubled slash. -/
theorem mentioned_inside_opened :
    let w : Workspace := ⟨["p"], .standard⟩
    let fs := (establish .standard .empty [] "/p").2
    let a : Architecture := ⟨⟨"none", "HTML", "none", []⟩, "", ⟨[], [⟨"./web//page.html", ""⟩], []⟩, ⟨[], []⟩, [], "-", ""⟩
    Folder fs w.root ∧ LinkFree w.root fs ∧ mentioned "Link ../src/app.js to Chart.js." = ["src/app.js"] ∧
      w.resolve fs "src/app.js" = .ok ["p", "src", "app.js"] ∧ a.validate = .ok () ∧
      w.resolve fs "./web//page.html" = .ok ["p", "web", "page.html"] := by
  intro w fs a
  have hmentioned : mentioned "Link ../src/app.js to Chart.js." = ["src/app.js"] := by decide
  have hvalid : a.validate = .ok () := by decide
  obtain ⟨hnamed, hlisted⟩ := (mentioned_inside "Link ../src/app.js to Chart.js.").2.2 w fs folder_establish_empty
    linkFree_establish_empty
  have hnames : Files.namesOf "src/app.js" = ["src", "app.js"] ∧ namesIn "./web//page.html" = ["web", "page.html"] := by
    decide
  refine ⟨folder_establish_empty, linkFree_establish_empty, hmentioned, ?_, hvalid, ?_⟩
  · rw [hnamed _ (by rw [hmentioned]; exact List.mem_cons_self), hnames.1]
    rfl
  · rw [(hlisted a hvalid _ List.mem_cons_self).1, hnames.2]
    rfl

end BuildLoop
