import BuildLoop.Proofs.Plan.Echo
import BuildLoop.Proofs.Request.Design
import BuildLoop.Worker.Scaffolding

/-!
# Directives in the plans of designs

A design says of its request one thing only: the summary, in brackets in the overview. Its plan repeats
the first sentence of the overview in descriptions, quotes and all. So an install tells its own command
and its own directory whatever the request says, and the task of a file tells a command exactly if its
description repeats the overview and the words of the request are a directive:

    Quiet (clientOnly request), Quiet (fullStack request p f)           (quiet_clientOnly, quiet_fullStack)
    directive? (summary request) = none   →   no file's task tells a command       (design_directives)
    design "… run 'npm install lodash' in frontend"   has a task for index.html that tells the command
                                                                                   (design_directed)
-/

namespace BuildLoop

open Text Plan Worker

namespace Design

variable {request : String} {p : RequestProfile} {f : Framework}

/-! ## Overviews -/

/-- An overview as designs write it: the summary in brackets between words without quotes. -/
structure Reports (request overview : String) : Prop where
  framed : ∃ c o w, overview.toList = (c :: o) ++ '(' :: ((summary request).toList ++ ')' :: (w ++ ['.'])) ∧
    isBlank c = false ∧ '.' ∉ c :: o ∧ '\'' ∉ c :: o ∧ '\'' ∉ w

namespace Reports

variable {overview : String} (h : Reports request overview)
include h

theorem sentence : ∃ o y z, (firstSentence overview).toList = o ++ '(' :: (y ++ ['.']) ∧ '\'' ∉ o ∧
    (y ++ ['.']) <+: (summary request).toList ++ ')' :: z ∧ '\'' ∉ z := by
  obtain ⟨c, o, w, htext, hc, hstop, ho, hw⟩ := h.framed
  have htext' : overview.toList =
      (c :: o) ++ '(' :: (((summary request).toList ++ ')' :: w) ++ ['.']) := by simpa using htext
  obtain ⟨y, hsentence, hprefix⟩ := exists_firstSentence hc htext' (by simpa using hstop)
  exact ⟨c :: o, y, w ++ ['.'], hsentence, ho, by simpa using hprefix, by simpa using hw⟩

/-- The first sentence holds no directive unless the summary does. -/
theorem directive_eq_none (hnone : directive? (summary request) = none) :
    directive? (firstSentence overview) = none := by
  obtain ⟨o, y, z, hsentence, ho, ⟨r, hprefix⟩, hz⟩ := h.sentence
  rw [← Option.not_isSome_iff_eq_none, isSome_directive?] at hnone ⊢
  intro hdirects
  rw [hsentence, directs_append ho (by decide) (by decide)] at hdirects
  have hwhole : Directs ((summary request).toList ++ ')' :: z) := hprefix ▸ hdirects.append
  exact hnone (directs_of_not_path hz (by decide) (by decide) hwhole)

end Reports

theorem unquoted_label (f : Framework) : unquoted f.label = true := by cases f <;> decide

theorem reports_clientOnly (request : String) : Reports request (clientOnly request).overview := by
  have hlead : "A pure client-side application (".toList =
      'A' :: " pure client-side application ".toList ++ ['('] := by decide
  have hend : "). All logic runs in the browser; there is no server, no API and no database.".toList =
      ')' :: (". All logic runs in the browser; there is no server, no API and no database".toList ++ ['.']) := by
    rw [String.toList_ofList, String.toList_ofList]
    rfl
  have hw : unquoted ". All logic runs in the browser; there is no server, no API and no database" = true :=
    unquoted_literal rfl (by decide)
  refine ⟨'A', " pure client-side application ".toList, _, ?_, by decide, by decide, by decide,
    unquoted_iff.1 hw⟩
  simp only [clientOnly, String.toList_append, hlead, hend, List.append_assoc, List.cons_append,
    List.nil_append]

theorem reports_fullStack (request : String) (hdatabase : ∀ db ∈ p.database, unquoted db = true) :
    Reports request (fullStack request p f).overview := by
  have hlead : "A full-stack application (".toList =
      'A' :: " full-stack application ".toList ++ ['('] := by decide
  have hnext : "). A ".toList = ')' :: ". A ".toList := by decide
  have hend : "; a vanilla HTML/CSS/JS frontend calls it with fetch().".toList =
      "; a vanilla HTML/CSS/JS frontend calls it with fetch()".toList ++ ['.'] := by
    rw [String.toList_ofList, String.toList_ofList]
    rfl
  have hbacked : unquoted (withDatabase " backed by " p.database) = true := by
    cases hdb : p.database with
    | none => decide
    | some db => simp +decide only [withDatabase, unquoted_append, hdatabase db hdb]
  have hw : unquoted (". A " ++ f.label ++ " backend exposes a JSON API" ++
      withDatabase " backed by " p.database ++
      "; a vanilla HTML/CSS/JS frontend calls it with fetch()") = true := by
    simp only [unquoted_append, Bool.and_eq_true, unquoted_label, hbacked, and_true]
    and_intros <;> exact unquoted_literal rfl (by decide)
  refine ⟨'A', " full-stack application ".toList, _, ?_, by decide, by decide, by decide,
    unquoted_iff.1 hw⟩
  simp only [fullStack, String.toList_append, hlead, hnext, hend, List.append_assoc, List.cons_append,
    List.nil_append]

/-! ## Words without quotes -/

theorem unquoted_of_mem_knownPaths : ∀ path ∈ knownPaths, unquoted path = true := by decide +kernel

theorem unquoted_of_mem_serverPackages : ∀ s ∈ serverPackages p f, unquoted s = true := by
  have hframework : ∀ s ∈ frameworkPackages f, unquoted s = true := by cases f <;> decide
  have hdatabase : ∀ s ∈ databasePackages f.isPython p.database, unquoted s = true := by
    unfold databasePackages
    split <;> cases f.isPython <;> decide
  have haccounts : ∀ s ∈ (if p.auth then [if f.isPython then "passlib[bcrypt]" else "bcryptjs"] else []),
      unquoted s = true := by
    cases p.auth <;> cases f.isPython <;> decide
  have hupload : ∀ s ∈ (if p.hasFeature "upload" && f == .fastApi then ["python-multipart"] else []),
      unquoted s = true := by
    split <;> decide
  unfold serverPackages
  simp only [List.forall_mem_append]
  exact ⟨⟨⟨hframework, hdatabase⟩, haccounts⟩, hupload⟩

theorem unquoted_of_mem_serverEndpoints :
    ∀ e ∈ serverEndpoints p, unquoted e.method = true ∧ unquoted e.path = true := by
  unfold serverEndpoints
  simp only [List.forall_mem_append]
  refine ⟨⟨by decide, ?_⟩, ?_⟩
  · cases p.auth <;> decide
  · split <;> decide

theorem quiet_clientOnly (request : String) : Quiet (clientOnly request) := by
  obtain ⟨o, y, z, hsentence, ho, -⟩ := (reports_clientOnly request).sentence
  have hentries : ∀ e ∈ (clientOnly "").files.entries, unquoted e.path = true ∧ unquoted e.purpose = true := by
    decide +kernel
  have hlayer : unquoted noLayer = true := by decide
  have hvanilla : unquoted vanilla = true := by decide
  exact ⟨hlayer, hvanilla, hlayer, by simp [clientOnly], by simp [clientOnly], hentries, o, y, hsentence, ho⟩

theorem quiet_fullStack (request : String) (hdatabase : ∀ db ∈ p.database, unquoted db = true) :
    Quiet (fullStack request p f) := by
  obtain ⟨o, y, z, hsentence, ho, -⟩ := (reports_fullStack (f := f) request hdatabase).sentence
  have hpath : ∀ e ∈ (fullStack request p f).files.entries, unquoted e.path = true := fun e he =>
    unquoted_of_mem_knownPaths _ (paths_fullStack.subset (List.mem_map_of_mem he))
  have hvanilla : unquoted vanilla = true := by decide
  have hstored : unquoted (p.database.getD noLayer) = true := by
    cases hdb : p.database with
    | none => decide
    | some db => exact hdatabase db hdb
  have hpurpose : ∀ e ∈ (fullStack request p f).files.entries, unquoted e.purpose = true := by
    have hserver : ∀ e ∈ serverFiles f p.database, unquoted e.purpose = true := by
      have hpackages : ∀ e ∈ (if f.isPython then
          [⟨"backend/requirements.txt", "Python dependencies"⟩]
          else [⟨"backend/package.json", "Node.js dependencies and scripts"⟩] : List FileEntry),
          unquoted e.purpose = true := by
        cases f.isPython <;> decide
      unfold serverFiles
      simp only [List.forall_mem_append]
      refine ⟨⟨hpackages, fun e he => ?_⟩, by cases f.isPython <;> decide⟩
      obtain ⟨db, hdb, rfl⟩ := List.mem_map.1 he
      simp +decide only [unquoted_append, hdatabase db (Option.mem_toList.1 hdb)]
    unfold fullStack FileStructure.entries
    simp only [List.forall_mem_append]
    exact ⟨⟨hserver, by decide⟩, by decide⟩
  exact ⟨unquoted_label f, hvanilla, hstored, unquoted_of_mem_serverPackages,
    unquoted_of_mem_serverEndpoints, fun e he => ⟨hpath e he, hpurpose e he⟩, o, y, hsentence, ho⟩

/-! ## Installs -/

theorem directive_installText_fullStack {path command : String}
    (h : path ∈ (fullStack request p f).files.paths) (hc : installCommand? path = some command) :
    directive? (installText (fullStack request p f) path command) = some (command, parentDir path) := by
  have hall : ∀ f : Framework, ∀ command ∈ installCommand? (packageFile f),
      directive? (installText (fullStack "" ⟨false, false, false, [], none, none⟩ f) (packageFile f) command) =
        some (command, parentDir (packageFile f)) := by
    -- the text is read part by part, as its bytes are slow to read
    intro f
    unfold directive? installText
    simp only [String.toList_append]
    repeat rw [String.toList_ofList]
    cases f <;> decide +kernel
  obtain rfl := eq_packageFile h (Option.isSome_of_mem hc)
  exact hall f command hc

end Design

/-! ## Plans -/

section
variable (request : String)

theorem unquoted_database : ∀ db ∈ (RequestProfile.classify request).database, unquoted db = true := by
  have hchosen : ∀ text stores, ∀ db ∈ RequestProfile.chooseDatabase text stores, unquoted db = true := by
    intro text stores
    unfold RequestProfile.chooseDatabase
    repeat' split
    all_goals decide
  intro db hdb
  unfold RequestProfile.classify at hdb
  simp only at hdb
  split at hdb
  · exact hchosen _ _ db hdb
  · cases hdb

theorem quiet_design : Quiet (design request) :=
  design_cases request (Design.quiet_clientOnly request)
    fun _ => Design.quiet_fullStack request (unquoted_database request)

theorem reports_design : Design.Reports request (design request).overview :=
  design_cases request (P := fun a => Design.Reports request a.overview) (Design.reports_clientOnly request)
    fun _ => Design.reports_fullStack request (unquoted_database request)

theorem directive_installText_design {path command : String} (h : path ∈ (design request).files.paths)
    (hc : installCommand? path = some command) :
    directive? (installText (design request) path command) = some (command, parentDir path) := by
  revert h
  refine design_cases request (P := fun a => path ∈ a.files.paths →
    directive? (installText a path command) = some (command, parentDir path)) (fun h => ?_)
    fun f h => Design.directive_installText_fullStack h hc
  have hnot := Design.not_packageFile h
  rw [hc] at hnot
  cases hnot

/-- Whatever a request says, each task of its plan installs the packages of a file, with the command
and in the directory that the planner chose, or is the task of a file. This holds a directive only if
its description repeats the overview and the first sentence of the overview holds one, which comes from
the words of the request in it; if these hold none, the worker writes the file. -/
theorem design_directives :
    ∃ fs, schedule (design request) = .ok fs ∧
      build (design request) = .ok (tasksFrom (design request) .start fs) ∧
      ∀ t ∈ tasksFrom (design request) .start fs, ∃ f ∈ fs,
        (∃ command, f.install = some command ∧
          t.description = installText (design request) f.entry.path command ∧
          directive? t.description = some (command, parentDir f.entry.path)) ∨
        (t.description = fileText (design request) f ∧
          (directive? t.description).isSome =
            (repeatsOverview f && (directive? (firstSentence (design request).overview)).isSome) ∧
          (directive? (Design.summary request) = none →
            ∀ w h milliseconds, scaffold w h milliseconds t = writeScaffold w t)) := by
  obtain ⟨fs, hs, -, hbuild, -⟩ := (plannable_design request).planned
  refine ⟨fs, hs, hbuild, fun t ht => ?_⟩
  obtain ⟨f, hf, c, ht⟩ := exists_of_mem_tasksFrom ht
  have hentry : f.entry ∈ (design request).files.entries :=
    (perm_schedule hs).mem_iff.1 (List.mem_map_of_mem hf)
  refine ⟨f, hf, ?_⟩
  unfold fileTasks at ht
  rcases List.mem_cons.1 ht with rfl | ht
  · have hsome := isSome_directive_fileText (quiet_design request) (f := f)
      ((quiet_design request).entries _ hentry)
    refine .inr ⟨rfl, hsome, fun hnone w h milliseconds => ?_⟩
    rw [(reports_design request).directive_eq_none hnone, Option.isSome_none, Bool.and_false] at hsome
    have hdirective : directive? (fileText (design request) f) = none := by simpa using hsome
    unfold scaffold
    simp only [Task.new, hdirective]
  · obtain ⟨command, hcommand, rfl⟩ := List.mem_map.1 ht
    have hinstall : f.install = some command := Option.mem_toList.1 hcommand
    obtain ⟨e, -, rfl⟩ := exists_place hs hf
    exact .inl ⟨command, hinstall, rfl,
      directive_installText_design request (List.mem_map_of_mem hentry) hinstall⟩

end

/-- A request that quotes a command. -/
def quotingRequest : String := "A static page that says when to run 'npm install lodash' in frontend"

/-- The task of its page, which should write the file, tells the quoted command. -/
theorem design_directed : ∃ ts, build (design quotingRequest) = .ok ts ∧
    ∃ t ∈ ts, t.primaryFile? = some "index.html" ∧ (directive? t.description).isSome = true := by
  have hframework : (RequestProfile.classify quotingRequest).framework = none := by decide
  have hdesign : design quotingRequest = Design.clientOnly quotingRequest := by
    unfold design
    simp only [hframework]
  rw [hdesign]
  have hsentence : (firstSentence (Design.clientOnly quotingRequest).overview).toList =
      "A pure client-side application (A static page that says when to run ".toList ++
        '\'' :: ("npm install lodash".toList ++ '\'' :: " in frontend).".toList) := by decide +kernel
  have hleads : Leads "A pure client-side application (A static page that says when to run ".toList :=
    ⟨"A pure client-side application (A static page that says when to ".toList, "run".toList, [' '],
      by decide, by decide, .inl (by unfold Folded; decide), by unfold IsGap; decide⟩
  have hfollows : Follows " in frontend).".toList :=
    ⟨[' '], "in".toList, [' '], 'f', "rontend).".toList, by decide, by unfold IsGap; decide,
      by unfold Folded; decide, by unfold IsGap; decide, by decide⟩
  have hdirects : (directive? (firstSentence (Design.clientOnly quotingRequest).overview)).isSome = true :=
    isSome_directive?.2 ⟨_, _, _, hsentence, hleads, by decide, hfollows⟩
  obtain ⟨fs, hs, hd, hbuild, -⟩ := (Design.plannable_clientOnly quotingRequest).planned
  obtain ⟨e, he, hpath⟩ : ∃ e ∈ sectionEntries (Design.clientOnly quotingRequest).files,
    e.1.path = "index.html" := ⟨_, .head _, rfl⟩
  have hpage : place (Design.clientOnly quotingRequest) e ∈ fs :=
    (perm_place hs).mem_iff.2 (List.mem_map_of_mem he)
  have hrepeats : repeatsOverview (place (Design.clientOnly quotingRequest) e) = true := by
    have hphase : Phase.ofFile? "index.html" = some .frontendStructure := by decide
    simp [repeatsOverview, place, hpath, hphase]
  obtain ⟨c, hc⟩ := exists_fileTasks_subset (a := Design.clientOnly quotingRequest) (c := .start) hpage
  refine ⟨_, hbuild, _, hc List.mem_cons_self, ?_, ?_⟩
  · rw [hd.about _ hpage c _ List.mem_cons_self]
    exact congrArg some hpath
  · have hentry := (Design.quiet_clientOnly quotingRequest).entries (place _ e).entry
      ((perm_schedule hs).mem_iff.1 (List.mem_map_of_mem hpage))
    refine (isSome_directive_fileText (Design.quiet_clientOnly quotingRequest) hentry).trans ?_
    rw [hrepeats, hdirects, Bool.and_self]

end BuildLoop
