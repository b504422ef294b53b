import BuildLoop.Proofs.Diagnosis.Missing
import BuildLoop.Proofs.Request.Client
import BuildLoop.Proofs.Run.Repair
import BuildLoop.Proofs.Verification.Assets
import BuildLoop.Proofs.Verification.Site
import BuildLoop.Run.Standard

/-!
# Runs of requests without a server

Their plan fills an empty root with a page, its stylesheet, its script and a manual. What the page links
beside these is missing then; each correction makes up for one file of it, so that the run passes if there
are no more of them than corrections:

    the request is quiet and Mendable, the root is empty   →   the run passes           (run_client_passes)
    the overview tells a command in a place outside the root   →   the run is aborted   (run_client_aborts)
    "… when to run 'npm start' in ../app" is aborted                                    (run_client_misled)
-/

namespace BuildLoop.Run

open Text Workspace Worker Design Scaffold Dispatch

variable {w : Workspace} {h : Host} {world : World} {t : Task} {f body request : String}

/-! ## Work from templates -/

/-- The project after a file is written into its root. -/
def wrote (w : Workspace) (world : World) (f body : String) : World :=
  { world with files := world.files.put (w.root ++ [f]) (.file body.toUTF8) }

theorem work_eq {r : Except Failure WorkerReport} {world' : World}
    (hrun : (scaffold w h (milliseconds RunConfig.standard.commandSeconds) t).run world = (r, world')) :
    (standardCrew .standard w h).work t world = (effortOf .standard r, world') := by
  have hby : workBy .standard w h t.role t = scaffold w h (milliseconds RunConfig.standard.commandSeconds) t := rfl
  rw [← hby] at hrun
  exact congrArg (fun done => (effortOf .standard done.1, done.2)) hrun

/-- The work on a task that asks for a file from a template writes the file, or it is refused and
changes nothing. -/
theorem work_cases (hw : w.config = .standard) (hflat : Flat w world.files) (hname : IsFileName f)
    (ht : Asks t f) (hrender : render (contextOf w world.files t f) = .ok body) :
    (checkComplete f body = .ok () ∧ ∃ report,
      (standardCrew .standard w h).work t world = (.ends (.ok report), wrote w world f body)) ∨
    ¬ (body.utf8ByteSize ≤ 2 * 1024 * 1024 ∧ checkComplete f body = .ok ()) ∧
      ∃ e, e.isFatal = false ∧ (standardCrew .standard w h).work t world = (.ends (.error e), world) := by
  rcases hflat.write_cases hw hname body with ⟨hcomplete, hwrite⟩ | ⟨hnot, reason, hwrite⟩
  · obtain ⟨report, hrun⟩ := run_scaffold_of_ok (h := h) ht hrender hwrite
    exact .inl ⟨hcomplete, report, work_eq hrun⟩
  · exact .inr ⟨hnot, .incompleteWrite f reason, rfl, work_eq (run_scaffold_of_error ht hrender hwrite)⟩

/-- What a page links can be written. -/
theorem work_asset (hw : w.config = .standard) (hflat : Flat w world.files) (hname : IsFileName f)
    (hasset : IsAsset f) (ht : Asks t f) : ∃ body report, checkComplete f body = .ok () ∧
      (standardCrew .standard w h).work t world = (.ends (.ok report), wrote w world f body) := by
  obtain ⟨body, hrender, hcomplete, hsize⟩ := exists_render (c := contextOf w world.files t f) hasset
  rcases work_cases (h := h) hw hflat hname ht hrender with ⟨-, report, hwork⟩ | ⟨hnot, -⟩
  · exact ⟨body, report, hcomplete, hwork⟩
  · exact absurd ⟨hsize, hcomplete⟩ hnot

/-! ## Corrections -/

/-- A project with the page of a request, flat as it is from the first file on. -/
structure Site (w : Workspace) (request : String) (fs : Files) : Prop where
  flat : Flat w fs
  page : fs.node? (w.root ++ ["index.html"]) = some (.file (Design.page request).toUTF8)

/-- The files that the page links and that are not there. -/
def absent (w : Workspace) (request : String) (fs : Files) : List String :=
  (linked request).filter fun f => (fs.node? (w.root ++ [f])).isNone

theorem Site.wrote {body f : String} (hsite : Site w request world.files) (hname : IsFileName f)
    (hpage : f ≠ "index.html") (hcomplete : checkComplete f body = .ok ()) :
    Site w request (Run.wrote w world f body).files where
  flat := hsite.flat.put hname hcomplete
  page := by
    refine (Files.node?_put_of_ne ?_ _).trans hsite.page
    simpa using fun h => hpage h.symm

/-- A file that is written is absent no more. -/
theorem length_absent {f : String} (hf : f ∈ absent w request world.files) (body : String) :
    (absent w request (wrote w world f body).files).length < (absent w request world.files).length := by
  have hrest : absent w request (wrote w world f body).files =
      (absent w request world.files).filter fun g => decide (g ≠ f) := by
    unfold absent
    rw [List.filter_filter]
    refine List.filter_congr fun g _ => ?_
    by_cases hg : g = f
    · subst hg
      have hself : (wrote w world g body).files.node? (w.root ++ [g]) = some (.file body.toUTF8) :=
        Files.node?_put_self (by simp) _
      rw [hself]
      simp
    · have hother : (wrote w world f body).files.node? (w.root ++ [g]) = world.files.node? (w.root ++ [g]) :=
        Files.node?_put_of_ne (by simpa using hg) _
      rw [hother]
      simp [hg]
  rw [hrest, List.length_filter_lt_length_iff_exists]
  exact ⟨f, hf, by simp⟩

theorem shape_client (w : Workspace) (fs : Files) :
    Verification.detectShape (clientOnly request) (w.tree fs) = .staticSite "index.html" := by
  have hpages : (clientOnly request).files.paths.filter (fun p => extension p == "html" || extension p == "htm") =
      ["index.html"] := by
    show (["index.html", "style.css", "script.js", "README.md"].filter _) = _
    decide
  have hfind : ["index.html"].find? (baseName · == "index.html") = some "index.html" := by decide
  unfold Verification.detectShape Verification.frontendShape
  simp only [hasBackend_clientOnly, hpages, hfind, Bool.false_eq_true, if_false, Option.some_or]

section
variable (hm : Mendable request)
include hm

theorem linked_of_mem_assets {f : String} (hf : f ∈ Verification.referencedAssets (page request)) :
    f ∈ linked request := by
  have htargets : ∀ g, IsLinked (pageContext request) g → IsTarget g := by
    rintro g ⟨f, hf, rfl⟩
    exact hm.linkable.targets f hf
  obtain ⟨n, hmarkup, -⟩ := markup_html hm.linkable (titled_appTitle (pageTask request))
  obtain ⟨g, hg, hgf⟩ := Verification.linked_of_mem_assets htargets hmarkup hf
  exact String.toList_injective hgf ▸ hg

/-- The check of the site passes, or it finds a file that is absent. -/
theorem check_cases (hsite : Site w request world.files) :
    (Verification.checkSite w world.files "index.html").isPassed = true ∨
    ∃ done f, f ∈ absent w request world.files ∧ (∀ p ∈ done, Diagnosis.Legible p) ∧
      Verification.checkSite w world.files "index.html" =
        Verification.missing Verification.siteCheck (Verification.passedText done) f := by
  have hread := hsite.flat.read_eq Verification.isFileName_page hsite.page
  have hassets : ∀ f ∈ Verification.referencedAssets (page request), IsFileName f := fun f hf =>
    hm.isFileName (linked_of_mem_assets hm hf)
  have hpage : Diagnosis.Legible "index.html" :=
    ⟨by decide, List.all_iff_forall_prop.1 (by decide), by decide, by decide⟩
  rcases Verification.checkSite_of_flat hsite.flat hread hassets with hpassed | ⟨done, f, hf, hdone, hnode, hmissing⟩
  · exact .inl hpassed
  · refine .inr ⟨done, f, List.mem_filter.2 ⟨linked_of_mem_assets hm hf, by simp [hnode]⟩, fun p hp => ?_, hmissing⟩
    rcases hdone p hp with rfl | hp
    · exact hpage
    · exact hm.legible (linked_of_mem_assets hm hp)

end

section
variable (hm : Mendable request) (hquiet : directive? (firstSentence (clientOnly request).overview) = none)
  (hw : w.config = .standard)
include hm hquiet hw

/-- The correction of what the check finds writes the file that is absent. -/
theorem mends_site (h : Host) {done : List String} {f : String} {P : World → Prop}
    (hsite : Site w request world.files) (hf : f ∈ absent w request world.files)
    (hdone : ∀ p ∈ done, Diagnosis.Legible p) (hcheck : Verification.checkSite w world.files "index.html" =
      Verification.missing Verification.siteCheck (Verification.passedText done) f)
    (hP : ∀ body, checkComplete f body = .ok () → P (wrote w world f body)) :
    Mends (standardRoles .standard w h) (clientOnly request) P world := by
  have hlinked := (List.mem_filter.1 hf).1
  have hasset := hm.isAsset hlinked
  refine ⟨_, world, Verification.run_verify_of_site (shape_client w world.files), by rw [hcheck]; rfl,
    fun cycle queue => ?_⟩
  obtain ⟨happroved, hdeps, hasks⟩ := Diagnosis.diagnose_missing hdone hquiet hasset.bare (hm.legible hlinked)
    cycle queue
  obtain ⟨body, report, hcomplete, hwork⟩ := work_asset (h := h) hw hsite.flat (hm.isFileName hlinked) hasset
    hasks.begin
  refine ⟨_, world, .ok report, _, by rw [hcheck]; rfl, happroved, hdeps, hwork, ?_, hP body hcomplete⟩
  intro e he
  cases he

/-- A site can be repaired with as many corrections as files are absent. -/
theorem repairable_site (h : Host) {n : Nat} {world : World} (hsite : Site w request world.files)
    (hn : (absent w request world.files).length ≤ n) :
    Repairable (standardRoles .standard w h) (clientOnly request) n world := by
  have hpasses : (Verification.checkSite w world.files "index.html").isPassed = true →
      Passes (standardRoles .standard w h) (clientOnly request) world := fun hpassed =>
    ⟨_, world, Verification.run_verify_of_site (shape_client w world.files), hpassed⟩
  induction n generalizing world with
  | zero =>
    rcases check_cases hm hsite with hpassed | ⟨done, f, hf, -⟩
    · exact hpasses hpassed
    · rw [List.eq_nil_of_length_eq_zero (Nat.le_zero.1 hn)] at hf
      cases hf
  | succ n ih =>
    rcases check_cases hm hsite with hpassed | ⟨done, f, hf, hdone, hcheck⟩
    · exact .inl (hpasses hpassed)
    · refine .inr (mends_site hm hquiet hw h hsite hf hdone hcheck fun body hcomplete => ?_)
      have hlinked := (List.mem_filter.1 hf).1
      have hpage : f ≠ "index.html" := by
        rintro rfl
        have hnode := (List.mem_filter.1 hf).2
        rw [hsite.page] at hnode
        cases hnode
      have hless := length_absent hf body
      refine ih (hsite.wrote (hm.isFileName hlinked) hpage hcomplete) (by omega) fun hpassed => ?_
      exact ⟨_, _, Verification.run_verify_of_site (shape_client w _), hpassed⟩

end

/-! ## The first batch -/

theorem isAsset_style : IsAsset "style.css" where
  bare := ⟨⟨'s', "tyle".toList, "css".toList, by decide, by decide, by decide, by decide⟩, by decide⟩
  ext := .inl (by decide)

theorem isAsset_script : IsAsset "script.js" where
  bare := ⟨⟨'s', "cript".toList, "js".toList, by decide, by decide, by decide, by decide⟩, by decide⟩
  ext := .inr ⟨by decide, by decide⟩

/-- The page of an empty project links what its task names. -/
theorem render_client (hempty : Empty w world.files) (ht : t.description = pageTask request) :
    render (contextOf w world.files t "index.html") = .ok (page request) := by
  have hpage : IsRootPage (contextOf w world.files t "index.html") := by
    refine ⟨rfl, ?_⟩
    have hdir : (dirName? "index.html").getD "." = "." := by decide
    unfold contextOf
    simp only [hdir, hempty.list_eq, List.filter_nil]
  have hassets := assets_congr hpage (isRootPage_pageContext request) ht
  rw [render_page hpage, html_congr hassets]
  exact congrArg (fun d => Except.ok (html (pageContext request) (appTitle d))) ht

theorem complete_page (hm : Mendable request) : checkComplete "index.html" (page request) = .ok () ∧
    (page request).utf8ByteSize ≤ 2 * 1024 * 1024 := by
  have htitle := titled_appTitle (pageTask request)
  obtain ⟨n, -, hlength⟩ := markup_html hm.linkable htitle
  exact ⟨complete_html hm.linkable.paths htitle (.inl (by decide)), utf8ByteSize_of_length hlength (by decide)⟩

theorem exists_render_manual (w : Workspace) (fs : Files) (t : Task) :
    ∃ body, render (contextOf w fs t "README.md") = .ok body := by
  have hname : lowercase (baseName "README.md") = "readme.md" := by decide
  have hext : extension "readme.md" = "md" := by decide
  unfold render contextOf
  simp only [hname, hext]
  exact ⟨_, rfl⟩

/-- Whether a file is there. -/
def Present (w : Workspace) (f : String) (fs : Files) : Prop := fs.node? (w.root ++ [f]) ≠ none

theorem present_wrote (w : Workspace) (world : World) (f body : String) :
    Present w f (wrote w world f body).files := by
  have hself : (wrote w world f body).files.node? (w.root ++ [f]) = some (.file body.toUTF8) :=
    Files.node?_put_self (by simp) _
  unfold Present
  rw [hself]
  exact Option.some_ne_none _

theorem Present.wrote {g : String} (hg : Present w g world.files) (f body : String) :
    Present w g (Run.wrote w world f body).files := by
  by_cases hsame : g = f
  · exact hsame ▸ present_wrote w world f body
  · have hother : (Run.wrote w world f body).files.node? (w.root ++ [g]) = world.files.node? (w.root ++ [g]) :=
      Files.node?_put_of_ne (by simpa using hsame) _
    unfold Present
    rw [hother]
    exact hg

theorem length_absent_le (hstyle : Present w "style.css" world.files) (hscript : Present w "script.js" world.files) :
    (absent w request world.files).length ≤ (furtherAssets request).length := by
  unfold absent furtherAssets
  rw [← List.countP_eq_length_filter, ← List.countP_eq_length_filter]
  refine List.countP_mono_left fun f _ hnone => ?_
  rw [← Bool.not_eq_false, not_isFurther]
  intro hnamed
  rw [Option.isNone_iff_eq_none] at hnone
  simp only [List.mem_cons, List.not_mem_nil, or_false] at hnamed
  rcases hnamed with rfl | rfl
  · exact hstyle hnone
  · exact hscript hnone

section
variable (hw : w.config = .standard) (h : Host) (hsite : Site w request world.files)
include hw hsite

/-- An asset of the plan is there once its task is done. -/
theorem exists_work_asset (hname : IsFileName f) (hasset : IsAsset f) (hpage : f ≠ "index.html") (ht : Asks t f) :
    ∃ report world', (standardCrew .standard w h).work t world = (.ends (.ok report), world') ∧
      Site w request world'.files ∧ Present w f world'.files ∧
      ∀ g, Present w g world.files → Present w g world'.files := by
  obtain ⟨body, report, hcomplete, hwork⟩ := work_asset (h := h) hw hsite.flat hname hasset ht
  exact ⟨report, _, hwork, hsite.wrote hname hpage hcomplete, present_wrote w world f body,
    fun g hg => hg.wrote f body⟩

/-- The manual may be refused. -/
theorem exists_work_manual (ht : Asks t "README.md") :
    ∃ r world', (standardCrew .standard w h).work t world = (.ends r, world') ∧
      (∀ e, r = .error e → e.isFatal = false) ∧ Site w request world'.files ∧
      ∀ g, Present w g world.files → Present w g world'.files := by
  have hname : IsFileName "README.md" :=
    ⟨by decide, List.all_iff_forall_prop.1 (by decide), by decide, by decide⟩
  obtain ⟨body, hrender⟩ := exists_render_manual w world.files t
  rcases work_cases (h := h) hw hsite.flat hname ht hrender with ⟨hcomplete, report, hwork⟩ | ⟨-, e, he, hwork⟩
  · exact ⟨_, _, hwork, fun e he => (by cases he), hsite.wrote hname (by decide) hcomplete,
      fun g hg => hg.wrote _ _⟩
  · exact ⟨_, _, hwork, fun e' he' => Except.error.inj he' ▸ he, hsite, fun g hg => hg⟩

end

section
variable (hm : Mendable request) (hquiet : directive? (firstSentence (clientOnly request).overview) = none)
  (hw : w.config = .standard)
include hm hquiet hw

/-- The first batch leaves the page and the assets that every page has. -/
theorem exists_relay (h : Host) (hempty : Empty w world.files) :
    ∃ world', Relay (standardCrew .standard w h) (clientTasks request) world world' ∧
      Site w request world'.files ∧ (absent w request world'.files).length ≤ 5 := by
  have hasks := fun f hf n deps => (asks_clientTask hquiet (f := f) hf n deps).begin
  obtain ⟨hcomplete, hsize⟩ := complete_page hm
  obtain ⟨-, report₁, hwork₁⟩ := (work_cases (h := h) hw hempty.flat Verification.isFileName_page
    (hasks pageFile (by decide) 1 []) (render_client hempty (description_page request))).resolve_right
      fun hrefused => hrefused.1 ⟨hsize, hcomplete⟩
  have hsite₁ : Site w request (wrote w world "index.html" (page request)).files :=
    ⟨hempty.flat.put Verification.isFileName_page hcomplete, Files.node?_put_self (by simp) _⟩
  obtain ⟨report₂, world₂, hwork₂, hsite₂, hstyle, -⟩ := exists_work_asset hw h hsite₁
    (isAsset_style.isFileName (by decide)) isAsset_style (by decide) (hasks styleFile (by decide) 2 ["task_1"])
  obtain ⟨report₃, world₃, hwork₃, hsite₃, hscript, hkept₃⟩ := exists_work_asset hw h hsite₂
    (isAsset_script.isFileName (by decide)) isAsset_script (by decide) (hasks scriptFile (by decide) 3 ["task_2"])
  obtain ⟨r₄, world₄, hwork₄, hr₄, hsite₄, hkept₄⟩ := exists_work_manual hw h hsite₃
    (hasks manualFile (by decide) 4 ["task_3"])
  exact ⟨world₄, .cons hwork₁ (.cons hwork₂ (.cons hwork₃ (.last hwork₄ hr₄))), hsite₄,
    (length_absent_le (hkept₄ _ (hkept₃ _ hstyle)) (hkept₄ _ hscript)).trans hm.few⟩

end

/-! ## Whole runs -/

theorem design_of_client (hclient : (RequestProfile.classify request).needsBackend = false) :
    design request = clientOnly request := by
  unfold RequestProfile.needsBackend at hclient
  rw [Option.isSome_eq_false_iff, Option.isNone_iff_eq_none] at hclient
  unfold design
  simp only [hclient]

theorem normalized_client (request : String) : (clientOnly request).normalized = clientOnly request := by
  have hstack : (clientOnly request).stack.normalized = (clientOnly request).stack := by
    have hclosed : (⟨noLayer, vanilla, noLayer, ["No build process", "No npm/pip packages"]⟩ : TechStack).normalized =
        ⟨noLayer, vanilla, noLayer, ["No build process", "No npm/pip packages"]⟩ := by
      decide
    exact hclosed
  unfold Architecture.normalized
  rw [hstack]

section
variable (w : Workspace) (h : Host) (world : World)

theorem run_resolve_client (hblank : isBlankText request = false) (hdesign : design request = clientOnly request) :
    (resolve (standardRoles .standard w h) request).run world = (.ok (clientOnly request), world) := by
  have harchitect : ((standardRoles .standard w h).architect request).run world =
      (.ok (clientOnly request), world) := by
    show (resolveByRule request, world) = _
    unfold resolveByRule
    rw [hblank, if_neg (by decide), hdesign]
  unfold resolve
  rw [hblank, if_neg (by decide)]
  show ((standardRoles .standard w h).architect request >>= _).run world = _
  rw [run_bind_ok harchitect, normalized_client, (plannable_clientOnly request).valid]
  rfl

theorem run_plan_client (request : String) :
    (plan (standardRoles .standard w h) (clientOnly request)).run world = (.ok (clientTasks request), world) := by
  obtain ⟨hbuild, hcheck, -⟩ := build_clientOnly request
  have hplanner : ((standardRoles .standard w h).planner (clientOnly request)).run world =
      (.ok (clientTasks request), world) := by
    show (Plan.build (clientOnly request), world) = _
    rw [hbuild]
  unfold plan
  rw [run_bind_ok hplanner, hcheck]
  rfl

end

/-- A request without a server that tells no command and whose assets can be made up for is built. -/
theorem run_client_passes (w : Workspace) (h : Host) (runId request : String) (world : World)
    (hblank : isBlankText request = false) (hclient : (RequestProfile.classify request).needsBackend = false)
    (hquiet : directive? (firstSentence (design request).overview) = none) (hm : Mendable request)
    (hw : w.config = .standard) (hempty : Empty w world.files) :
    (runStandard .standard w h runId request world).1.outcome = .passed := by
  have hdesign := design_of_client hclient
  rw [hdesign] at hquiet
  obtain ⟨world', hrelay, hsite, habsent⟩ := exists_relay hm hquiet hw h hempty
  obtain ⟨-, -, summary, happroved⟩ := build_clientOnly request
  exact run_of_repairable (run_resolve_client w h world hblank hdesign) (run_plan_client w h world request) happroved
    (row_clientTasks request) hrelay (repairable_site hm hquiet hw h hsite habsent) (by decide)

/-- A request is not built whose overview tells a command in a place outside the project. -/
theorem run_client_aborts (w : Workspace) (h : Host) (runId : String) {request command dir p : String} {world : World}
    (hblank : isBlankText request = false) (hclient : (RequestProfile.classify request).needsBackend = false)
    (hdirective : directive? (pageTask request) = some (command, dir))
    (houtside : w.resolve world.files dir = .error (.path p)) :
    (runStandard .standard w h runId request world).1.outcome = .aborted := by
  have hdescription : (clientTask request 1 pageFile []).begin.description = pageTask request :=
    description_page request
  have hwork := work_eq (run_scaffold_of_unresolved (h := h) (hdescription ▸ hdirective) houtside)
  obtain ⟨-, -, summary, happroved⟩ := build_clientOnly request
  exact run_of_fatal (run_resolve_client w h world hblank (design_of_client hclient))
    (run_plan_client w h world request) happroved (row_clientTasks request) rfl hwork rfl

/-- How the run of a request without a server ends in an empty project. It passes if the overview tells no
command and the further assets of the page can be made up for, in particular if the summary has neither a
full stop nor a quote; it is aborted if the overview tells a command in a place outside the project. -/
theorem run_client_ends {w : Workspace} {world : World} {request : String} (h : Host) (runId : String)
    (hblank : isBlankText request = false) (hclient : (RequestProfile.classify request).needsBackend = false)
    (hw : w.config = .standard) (hempty : Empty w world.files) :
    let report := (runStandard .standard w h runId request world).1
    (directive? (firstSentence (design request).overview) = none → Mendable request → report.outcome = .passed) ∧
    ('.' ∉ (summary request).toList → '\'' ∉ (summary request).toList → report.outcome = .passed) ∧
    ∀ command dir p, directive? (pageTask request) = some (command, dir) →
      w.resolve world.files dir = .error (.path p) → report.outcome = .aborted := by
  have hpasses := run_client_passes w h runId request world hblank hclient
  refine ⟨fun hquiet hm => hpasses hquiet hm hw hempty, fun hstop hquote => ?_, fun command dir p => ?_⟩
  · have hnone : directive? (summary request) = none := by
      rw [← Option.not_isSome_iff_eq_none, isSome_directive?]
      exact not_directs hquote
    have hquiet := (reports_clientOnly request).directive_eq_none hnone
    rw [← design_of_client hclient] at hquiet
    exact hpasses hquiet (mendable_of_summary hstop) hw hempty
  · exact run_client_aborts w h runId hblank hclient

/-- A project that is only a directory. -/
def bareSite : Files := ⟨[(["p"], .directory)]⟩

theorem empty_bareSite : Empty ⟨["p"], .standard⟩ bareSite where
  folder := (Files.folder_nil _).child ⟨by decide, by decide, by decide⟩ rfl
  room := by decide
  nothing := by
    intro q hq
    have hnot : ["p"] ++ q ≠ ["p"] := by simpa using hq
    rw [Files.node?_of_ne (by simp), bareSite, List.lookup_cons, beq_eq_false_iff_ne.2 hnot]
    rfl

theorem run_client_ends_calculator :
    let request := "simple calculator, HTML/CSS/JS only"
    let h : Host := ⟨fun _ _ files => (.refused "", files), fun _ _ => .unreachable "", fun _ => none⟩
    isBlankText request = false ∧ (RequestProfile.classify request).needsBackend = false ∧
      Empty ⟨["p"], .standard⟩ bareSite ∧
      (runStandard .standard ⟨["p"], .standard⟩ h "run_1" request ⟨bareSite, [], []⟩).1.outcome = .passed := by
  intro request h
  have hblank : isBlankText request = false := by decide
  have hclient : (RequestProfile.classify request).needsBackend = false := by decide
  have hempty : Empty ⟨["p"], .standard⟩ (⟨bareSite, [], []⟩ : World).files := empty_bareSite
  have hends := run_client_ends h "run_1" hblank hclient rfl hempty
  have hsummary : '.' ∉ (summary request).toList ∧ '\'' ∉ (summary request).toList := by decide
  exact ⟨hblank, hclient, empty_bareSite, hends.2.1 hsummary.1 hsummary.2⟩

/-- A request that quotes a command is not built. -/
theorem run_client_misled :
    let request := "A static page that says when to run 'npm start' in ../app"
    let h : Host := ⟨fun _ _ files => (.refused "", files), fun _ _ => .unreachable "", fun _ => none⟩
    isBlankText request = false ∧ (RequestProfile.classify request).needsBackend = false ∧
      Empty ⟨["p"], .standard⟩ bareSite ∧
      (runStandard .standard ⟨["p"], .standard⟩ h "run_1" request ⟨bareSite, [], []⟩).1.outcome = .aborted := by
  intro request h
  have hblank : isBlankText request = false := by decide
  have hclient : (RequestProfile.classify request).needsBackend = false := by decide
  have hsentence : (firstSentence (clientOnly request).overview).toList =
      "A pure client-side application (A static page that says when to run 'npm start' in ../app).".toList := by
    decide +kernel
  have hdirective : directive? (pageTask request) = some ("npm start", "../app") := by
    unfold directive?
    rw [toList_pageTask, hsentence]
    decide +kernel
  have houtside : Workspace.resolve ⟨["p"], .standard⟩ bareSite "../app" = .error (.path "../app") := by
    decide
  exact ⟨hblank, hclient, empty_bareSite, run_client_aborts _ h "run_1" hblank hclient hdirective houtside⟩

end BuildLoop.Run
