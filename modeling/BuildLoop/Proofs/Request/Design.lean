import BuildLoop.Proofs.Plan.Built
import BuildLoop.Request.Design

/-!
# Designs by rule can be planned

The files of a design depend on the framework and on whether there is a database, and on nothing else
that the request says. Its own words come into descriptions only after the path of a file and a stop,
where they change nothing:

    Plannable (clientOnly request)                                            (plannable_clientOnly)
    Plannable (fullStack request p f)                                          (plannable_fullStack)
    the paths of a design are known beforehand, whatever it is the design of          (paths_design)
-/

namespace BuildLoop

open Text Plan

namespace Design

variable {request : String} {p : RequestProfile} {f : Framework}

/-! ## Files -/

/-- The paths of designs. -/
def knownPaths : List String :=
  ["backend/requirements.txt", "backend/package.json", "backend/database.py", "backend/database.js",
    "backend/models.py", "backend/models.js", "backend/main.py", "backend/server.js",
    "frontend/index.html", "frontend/style.css", "frontend/app.js", "index.html", "style.css",
    "script.js", "README.md"]

theorem nodup_knownPaths : knownPaths.Nodup := by decide

theorem settles_creation : ∀ path ∈ knownPaths, Settles (creation path) path := by decide +kernel

theorem isRelativeInside_of_mem : ∀ path ∈ knownPaths, isRelativeInside path = true := by decide +kernel

theorem paths_clientOnly : (clientOnly request).files.paths.Sublist knownPaths := by
  have hpaths : (clientOnly request).files.paths = ["index.html", "style.css", "script.js", "README.md"] :=
    rfl
  rw [hpaths]
  decide

/-- The paths of an application with a server. -/
def fullPaths (f : Framework) (hasDatabase : Bool) : List String :=
  let ext := if f.isPython then "py" else "js"
  [if f.isPython then "backend/requirements.txt" else "backend/package.json"] ++
    (if hasDatabase then ["backend/database." ++ ext] else []) ++
    ["backend/models." ++ ext, if f.isPython then "backend/main.py" else "backend/server.js",
      "frontend/index.html", "frontend/style.css", "frontend/app.js", "README.md"]

theorem paths_fullStack_eq : (fullStack request p f).files.paths = fullPaths f p.database.isSome := by
  unfold fullStack
  cases p.database <;> cases f <;> rfl

theorem paths_fullStack : (fullStack request p f).files.paths.Sublist knownPaths := by
  rw [paths_fullStack_eq]
  cases f <;> cases p.database.isSome <;> decide

/-! ## Backends -/

theorem hasBackend_clientOnly : (clientOnly request).hasBackend = false := by
  have hlayer : isNoLayer noLayer = true := by decide
  exact congrArg (!·) hlayer

theorem hasBackend_fullStack : (fullStack request p f).hasBackend = true := by
  have hlayer : isNoLayer f.label = false := by cases f <;> decide
  exact congrArg (!·) hlayer

theorem served_clientOnly : Served (clientOnly request) := by
  have hroles : ∀ e ∈ sectionEntries (clientOnly "").files,
      (Role.ofPath? e.1.path).getD (sectionRole false e.2) = .frontend := by decide +kernel
  intro e he hrole
  simp only [place, hasBackend_clientOnly] at hrole
  rw [hroles e he] at hrole
  cases hrole

/-! ## Packages -/

/-- The file that declares the server's packages. -/
def packageFile (f : Framework) : String :=
  if f.isPython then "backend/requirements.txt" else "backend/package.json"

theorem eq_packageFile_of_mem : ∀ path ∈ knownPaths, (installCommand? path).isSome = true →
    path = packageFile .fastApi ∨ path = packageFile .express := by decide +kernel

theorem not_packageFile {path : String} (h : path ∈ (clientOnly request).files.paths) :
    (installCommand? path).isSome = false := by
  have hall : ∀ path ∈ (clientOnly "").files.paths,
      ¬ (path = packageFile .fastApi ∨ path = packageFile .express) := by decide
  exact Bool.eq_false_iff.2 fun hc => hall path h (eq_packageFile_of_mem path (paths_clientOnly.subset h) hc)

theorem eq_packageFile {path : String} (h : path ∈ (fullStack request p f).files.paths)
    (hc : (installCommand? path).isSome = true) : path = packageFile f := by
  have hall : ∀ hasDatabase, ∀ path ∈ fullPaths f hasDatabase,
      path = packageFile .fastApi ∨ path = packageFile .express → path = packageFile f := by
    cases f <;> decide
  have hpackages := eq_packageFile_of_mem path (paths_fullStack.subset h) hc
  rw [paths_fullStack_eq] at h
  exact hall _ path h hpackages

theorem settles_declaration (f : Framework) :
    Settles (declaration f.label (packageFile f)) (packageFile f) := by
  cases f <;> decide +kernel

theorem exists_backend_fullStack :
    ∃ e ∈ sectionEntries (fullStack request p f).files,
      (place (fullStack request p f) e).role = .backend := by
  have hrole : Role.ofPath? (packageFile f) = some .backend := by cases f <;> decide
  obtain ⟨purpose, hmem⟩ : ∃ purpose, (⟨packageFile f, purpose⟩, some .backend) ∈
      sectionEntries (fullStack request p f).files := by
    cases f <;> exact ⟨_, List.mem_cons_self⟩
  refine ⟨_, hmem, ?_⟩
  simp only [place, hrole, Option.getD_some]

/-! ## Plans -/

theorem plannable_clientOnly (request : String) : Plannable (clientOnly request) := by
  have hmem : ∀ path ∈ (clientOnly request).files.paths, path ∈ knownPaths := fun path h =>
    paths_clientOnly.subset h
  have hflow : isBlankText (clientOnly request).dataFlow = false := by
    rw [clientOnly, isBlankText_append, not_blank_of_letter 'U' rfl (by decide), Bool.false_and]
  constructor
  case valid =>
    exact valid_iff.2 ⟨by simp [clientOnly, FileStructure.entries], hflow, .inr rfl, fun path h =>
      isRelativeInside_of_mem path (hmem path h)⟩
  case served => exact served_clientOnly
  case distinct => exact paths_clientOnly.nodup nodup_knownPaths
  case created => exact fun path h => settles_creation path (hmem path h)
  case declared =>
    intro path h hsome
    rw [not_packageFile h] at hsome
    cases hsome

theorem plannable_fullStack (request : String) (p : RequestProfile) (f : Framework) :
    Plannable (fullStack request p f) := by
  have hmem : ∀ path ∈ (fullStack request p f).files.paths, path ∈ knownPaths := fun path h =>
    paths_fullStack.subset h
  have hflow : isBlankText (fullStack request p f).dataFlow = false := by
    simp only [fullStack, isBlankText_append, not_blank_of_letter 'U' rfl (by decide), Bool.false_and]
  constructor
  case valid =>
    exact valid_iff.2 ⟨by simp [fullStack, FileStructure.entries], hflow, .inl hasBackend_fullStack,
      fun path h => isRelativeInside_of_mem path (hmem path h)⟩
  case served => exact fun _ _ _ => hasBackend_fullStack
  case distinct => exact paths_fullStack.nodup nodup_knownPaths
  case created => exact fun path h => settles_creation path (hmem path h)
  case declared =>
    intro path h hsome
    rw [eq_packageFile h hsome]
    exact settles_declaration f

end Design

section
variable (request : String)

/-- A design is for the browser alone or has a server. -/
theorem design_cases {P : Architecture → Prop} (hclient : P (Design.clientOnly request))
    (hfull : ∀ f, P (Design.fullStack request (RequestProfile.classify request) f)) : P (design request) := by
  unfold design
  simp only
  cases (RequestProfile.classify request).framework with
  | none => exact hclient
  | some f => exact hfull f

theorem plannable_design : Plannable (design request) :=
  design_cases request (Design.plannable_clientOnly request) (Design.plannable_fullStack request _)

theorem paths_design : (design request).files.paths.Sublist Design.knownPaths :=
  design_cases request (P := fun a => a.files.paths.Sublist Design.knownPaths) Design.paths_clientOnly
    fun _ => Design.paths_fullStack

end

/-- Whatever a request says, its design is valid and is planned: the plan is built, checked and
approved, each task names the file of the manifest that it is for first, and there is work for the
backend exactly if the request needs one. -/
theorem design_planned (request : String) :
    (design request).validate = .ok () ∧
    ∃ fs, schedule (design request) = .ok fs ∧
      (fs.map (·.entry)).Perm (design request).files.entries ∧
      build (design request) = .ok (tasksFrom (design request) .start fs) ∧
      checkOrder (design request) (tasksFrom (design request) .start fs) = .ok () ∧
      (∃ s, Plan.validate (tasksFrom (design request) .start fs) = .approved s) ∧
      (∀ f ∈ fs, ∀ c, ∀ t ∈ fileTasks (design request) c f, t.primaryFile? = some f.entry.path) ∧
      ((∃ t ∈ tasksFrom (design request) .start fs, t.role = .backend) ↔
        (RequestProfile.classify request).needsBackend = true) := by
  obtain ⟨hplannable, hbackend⟩ : Plannable (design request) ∧
      ((∃ e ∈ sectionEntries (design request).files, (place (design request) e).role = .backend) ↔
        (RequestProfile.classify request).needsBackend = true) := by
    unfold design RequestProfile.needsBackend
    simp only
    cases hframework : (RequestProfile.classify request).framework with
    | none =>
      refine ⟨Design.plannable_clientOnly request, ?_⟩
      have hserved : Served (Design.clientOnly request) := Design.served_clientOnly
      have hnone : (Design.clientOnly request).hasBackend = false := Design.hasBackend_clientOnly
      refine ⟨fun ⟨e, he, hrole⟩ => ?_, fun h => (by cases h)⟩
      rw [hserved e he hrole] at hnone
      cases hnone
    | some f => exact ⟨Design.plannable_fullStack request _ f, by simpa using Design.exists_backend_fullStack⟩
  obtain ⟨fs, hs, hd, hbuild, hcheck, happroved⟩ := hplannable.planned
  exact ⟨hplannable.valid, fs, hs, perm_schedule hs, hbuild, hcheck, happroved, hd.about,
    (exists_backend_tasksFrom hs).trans hbackend⟩

end BuildLoop
