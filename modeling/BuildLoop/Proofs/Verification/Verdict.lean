import BuildLoop.Proofs.Run.Step
import BuildLoop.Proofs.Verification.Entry
import BuildLoop.Proofs.Verification.Site

/-!
# What a verification answers

One check is made of a project. It starts at most one program and answers that the project passed exactly if it
is in order, unless the command is refused: then nothing has happened and there is no report.

    Judged w (detectShape a (w.tree world.files)) world ((verify w h ms a).run world)       (judged_verify)
-/

namespace BuildLoop.Verification

open Text Command

variable {w : Workspace} {h : Host} {fs : Files} {world : World} {shape : ProjectShape} {entry : String}
  {milliseconds : Nat}

/-- Whether a file can be read and is complete. -/
def Sound (w : Workspace) (fs : Files) (path : String) : Prop :=
  ∃ content, w.read fs path = .ok content ∧ checkComplete path content = .ok ()

/-- Whether a project is in order, given what was started for its check: all files of a site are sound, and the
check of any other project has ended with nothing fatal in its output. -/
inductive InOrder (w : Workspace) (fs : Files) : ProjectShape → List (Call × Reply) → Prop
  | site {entry html : String} (hread : w.read fs entry = .ok html) (hcomplete : checkComplete entry html = .ok ())
      (hassets : ∀ asset ∈ referencedAssets html, Sound w fs (assetPath (splitDir entry).1 asset)) :
      InOrder w fs (.staticSite entry) []
  | program {shape : ProjectShape} {entry : String} {call : Call} {code : Option Int} {out err : ByteArray}
      (hentry : checkedEntry? shape = some entry) (hleads : w.leads fs entry = true)
      (hcommand : split (checkCommand shape (splitDir entry).2) = .ok (call.program :: call.args))
      (hdirectory : w.resolve fs (splitDir entry).1 = .ok call.directory)
      (houtput : classifyOutput (CommandOutput.mk code (decodeLossy out) (decodeLossy err)).combined = none) :
      InOrder w fs shape [(call, .ends code out err)]

/-- Whether the command that checks a project is refused, although its entry is there. -/
def Refused (w : Workspace) (fs : Files) (shape : ProjectShape) : Prop :=
  ∃ entry, checkedEntry? shape = some entry ∧ w.leads fs entry = true ∧
    (¬ HasPlace w fs (splitDir entry).1 ∨ Refuses (checkCommand shape (splitDir entry).2))

/-- What a verification answers. -/
structure Judged (w : Workspace) (shape : ProjectShape) (world : World)
    (result : Except Failure VerificationReport × World) : Prop where
  /-- There is no report exactly if the command is refused, -/
  refused : (∃ e, result.1 = .error e) ↔ Refused w world.files shape
  /-- and then nothing has happened. -/
  unchanged : Refused w world.files shape → result.2 = world
  /-- At most one program is started, and the report says whether the project is in order. -/
  started : ∃ made, made.length ≤ 1 ∧ result.2.calls = world.calls ++ made ∧ ∀ r, result.1 = .ok r →
    (r.status = .passed ∨ r.status = .failed) ∧ (r.isPassed = true ↔ InOrder w world.files shape made)

/-- A report that is right, where nothing is refused. -/
theorem judged_of_report {world' : World} {r : VerificationReport} {made : List (Call × Reply)}
    (hnot : ¬ Refused w world.files shape) (hfew : made.length ≤ 1) (hcalls : world'.calls = world.calls ++ made)
    (hstatus : r.status = .passed ∨ r.status = .failed)
    (hpassed : r.isPassed = true ↔ InOrder w world.files shape made) :
    Judged w shape world (.ok r, world') where
  refused := ⟨fun ⟨e, he⟩ => (by cases he), fun h => absurd h hnot⟩
  unchanged h := absurd h hnot
  started := by
    refine ⟨made, hfew, hcalls, fun r' hr' => ?_⟩
    obtain rfl := Except.ok.inj hr'
    exact ⟨hstatus, hpassed⟩

/-! ## Sites -/

theorem isPassed_checkFiles {files : List String} {logs : String} :
    (checkFiles w fs logs files).isPassed = true ↔ ∀ path ∈ files, Sound w fs path := by
  induction files generalizing logs with
  | nil => simp [checkFiles, VerificationReport.passed, VerificationReport.isPassed]
  | cons path files ih =>
    rw [checkFiles, List.forall_mem_cons]
    cases hread : w.read fs path with
    | error e =>
      refine ⟨fun h => (by cases h), ?_⟩
      rintro ⟨⟨content, hcontent, -⟩, -⟩
      cases hread.symm.trans hcontent
    | ok content =>
      simp only
      cases hcheck : checkComplete path content with
      | error e =>
        refine ⟨fun h => (by cases h), ?_⟩
        rintro ⟨⟨content', hcontent, hcomplete⟩, -⟩
        cases hread.symm.trans hcontent
        cases hcheck.symm.trans hcomplete
      | ok u =>
        simp only
        rw [ih]
        exact ⟨fun h => ⟨⟨content, hread, hcheck⟩, h⟩, fun h => h.2⟩

theorem status_checkFiles (files : List String) (logs : String) :
    (checkFiles w fs logs files).status = .passed ∨ (checkFiles w fs logs files).status = .failed := by
  induction files generalizing logs with
  | nil => exact .inl rfl
  | cons path files ih =>
    rw [checkFiles]
    split
    · exact .inr rfl
    · split
      · exact .inr rfl
      · exact ih _

theorem isPassed_checkSite : (checkSite w fs entry).isPassed = true ↔ InOrder w fs (.staticSite entry) [] := by
  rw [checkSite, isPassed_checkFiles, siteFiles]
  constructor
  · intro h
    cases hread : w.read fs entry with
    | error e =>
      rw [hread] at h
      obtain ⟨content, hcontent, -⟩ := h entry (by simp)
      cases hread.symm.trans hcontent
    | ok html =>
      rw [hread] at h
      simp only [List.forall_mem_cons, List.forall_mem_map] at h
      obtain ⟨⟨content, hcontent, hcomplete⟩, hassets⟩ := h
      cases hread.symm.trans hcontent
      exact .site hread hcomplete hassets
  · intro h
    cases h with
    | site hread hcomplete hassets =>
      rw [hread]
      simp only [List.forall_mem_cons, List.forall_mem_map]
      exact ⟨⟨_, hread, hcomplete⟩, hassets⟩

/-! ## Programs -/

/-- A start is refused and leaves no trace, or it is recorded. -/
theorem start_cases (h : Host) (world : World) (call : Call) :
    (∃ reason, world.start h call = (.refused reason, world)) ∨ ∃ reply world',
      world.start h call = (reply, world') ∧ (∀ reason, reply ≠ .refused reason) ∧
        world'.calls = world.calls ++ [(call, reply)] := by
  unfold World.start
  split
  · exact .inl ⟨_, rfl⟩
  · exact .inl ⟨_, rfl⟩
  · next reply files hnot _ hprogram =>
    split
    · exact .inl ⟨_, rfl⟩
    · exact .inr ⟨reply, _, rfl, fun reason he => hnot reason he, rfl⟩

theorem run_checkProgram_of_absent (hleads : w.leads world.files entry = false) :
    (checkProgram w h shape entry milliseconds).run world = (.ok (missing shape.checkName "" entry), world) := by
  have hget : (get : Act World World).run world = (.ok world, world) := rfl
  unfold checkProgram
  simp only
  rw [Run.run_bind_ok hget]
  simp only [hleads]
  rfl

/-- The answer of a check of a program whose command has been run. -/
def answerOf (check command : String) : Except Failure CommandOutput → Except Failure VerificationReport
  | .ok output => .ok (outputReport check command output.combined)
  | .error e =>
    match failureReport? check command e with
    | some report => .ok report
    | none => .error e

/-- Where the entry is there, the answer is made of what the run of the command answers. -/
theorem run_checkProgram (hleads : w.leads world.files entry = true) :
    (checkProgram w h shape entry milliseconds).run world =
      let command := checkCommand shape (splitDir entry).2
      let run := w.run h world command (splitDir entry).1 milliseconds
      (answerOf shape.checkName command run.1, run.2) := by
  have hget : (get : Act World World).run world = (.ok world, world) := rfl
  unfold checkProgram
  simp only
  rw [Run.run_bind_ok hget]
  simp only [hleads, Bool.not_true, Bool.false_eq_true, if_false]
  generalize splitDir entry = parts
  obtain ⟨dir, name⟩ := parts
  have hrunning : (w.running h (checkCommand shape name) dir milliseconds).run world =
    w.run h world (checkCommand shape name) dir milliseconds := rfl
  cases hrun : w.run h world (checkCommand shape name) dir milliseconds with
  | mk r world' =>
    rw [hrun] at hrunning
    cases r with
    | ok output =>
      refine Run.run_tryCatch_ok ?_
      rw [Run.run_bind_ok hrunning]
      rfl
    | error e =>
      refine (Run.run_tryCatch_error (Run.run_bind_error hrunning)).trans ?_
      simp only [answerOf]
      cases failureReport? shape.checkName (checkCommand shape name) e with
      | none => rfl
      | some report => rfl

theorem of_outputReport (check command logs : String) :
    ((outputReport check command logs).status = .passed ∨ (outputReport check command logs).status = .failed) ∧
      ((outputReport check command logs).isPassed = true ↔ classifyOutput logs = none) := by
  unfold outputReport
  cases classifyOutput logs with
  | none => exact ⟨.inl rfl, fun _ => rfl, fun _ => rfl⟩
  | some found => exact ⟨.inr rfl, fun h => (by cases h), fun h => (by cases h)⟩

/-- A command that may run makes a report: of its output if it has ended, and that the check failed if its program
did not start or did not end. -/
theorem answer_cases (h : Host) (world : World) (check command : String) (call : Call) (milliseconds : Nat) :
    let run := world.runProgram h (call.program :: call.args) call.directory milliseconds
    ∃ r made, answerOf check command run.1 = .ok r ∧ run.2.calls = world.calls ++ made ∧ made.length ≤ 1 ∧
      (r.status = .failed ∧ (∀ c code out err, made ≠ [(c, .ends code out err)]) ∨
        ∃ code out err, made = [(call, .ends code out err)] ∧
          r = outputReport check command (CommandOutput.mk code (decodeLossy out) (decodeLossy err)).combined) := by
  unfold World.runProgram
  rcases start_cases h world call with ⟨reason, hstart⟩ | ⟨reply, world', hstart, hreply, hcalls⟩
  · simp only [hstart]
    exact ⟨_, [], rfl, (List.append_nil _).symm, by simp, .inl ⟨rfl, by simp⟩⟩
  · cases reply with
    | refused reason => exact absurd rfl (hreply reason)
    | hangs =>
      simp only [hstart]
      exact ⟨_, [(call, .hangs)], rfl, hcalls, by simp, .inl ⟨rfl, by simp⟩⟩
    | ends code out err =>
      simp only [hstart]
      exact ⟨_, [(call, .ends code out err)], rfl, hcalls, by simp, .inr ⟨code, out, err, rfl, rfl⟩⟩

section
variable (hentry : checkedEntry? shape = some entry)
include hentry

/-- A check is refused exactly if its entry is there and its command may not run. -/
theorem refused_iff : Refused w fs shape ↔ w.leads fs entry = true ∧
    ¬ ∃ r, w.permitted fs (checkCommand shape (splitDir entry).2) (splitDir entry).1 = .ok r := by
  rw [permitted_iff, not_and_or, not_not]
  constructor
  · rintro ⟨entry', hentry', hleads, hrefuses⟩
    obtain rfl := Option.some.inj (hentry.symm.trans hentry')
    exact ⟨hleads, hrefuses⟩
  · rintro ⟨hleads, hrefuses⟩
    exact ⟨entry, hentry, hleads, hrefuses⟩

/-- What the check of a project in order has started. -/
theorem InOrder.ends {made : List (Call × Reply)} (h : InOrder w fs shape made) :
    w.leads fs entry = true ∧ ∃ call code out err, made = [(call, .ends code out err)] ∧
      classifyOutput (CommandOutput.mk code (decodeLossy out) (decodeLossy err)).combined = none := by
  cases h with
  | site => cases hentry
  | program hentry' hleads _ _ houtput =>
    obtain rfl := Option.some.inj (hentry.symm.trans hentry')
    exact ⟨hleads, _, _, _, _, rfl, houtput⟩

theorem judged_of_absent (hleads : w.leads world.files entry = false) :
    Judged w shape world ((checkProgram w h shape entry milliseconds).run world) := by
  rw [run_checkProgram_of_absent hleads]
  have hnot : ¬ Refused w world.files shape := by
    rw [refused_iff hentry, hleads]
    simp
  have hdisorder : ¬ InOrder w world.files shape [] := fun h => by
    obtain ⟨hthere, -⟩ := h.ends hentry
    cases hleads.symm.trans hthere
  exact judged_of_report hnot (by simp) (List.append_nil _).symm (.inr rfl)
    ⟨fun h => (by cases h), fun h => absurd h hdisorder⟩

variable (hleads : w.leads world.files entry = true)
include hleads

theorem judged_of_refused {e : Failure}
    (hpermitted : w.permitted world.files (checkCommand shape (splitDir entry).2) (splitDir entry).1 = .error e) :
    Judged w shape world ((checkProgram w h shape entry milliseconds).run world) := by
  have hrefused : Refused w world.files shape := by
    rw [refused_iff hentry, hpermitted]
    exact ⟨hleads, fun ⟨r, hr⟩ => (by cases hr)⟩
  have hrun : w.run h world (checkCommand shape (splitDir entry).2) (splitDir entry).1 milliseconds =
      (.error e, world) := by
    unfold Workspace.run
    rw [hpermitted]
  rw [run_checkProgram hleads]
  simp only [hrun, answerOf, failureReport?_of_permitted hpermitted]
  exact ⟨⟨fun _ => hrefused, fun _ => ⟨e, rfl⟩⟩, fun _ => rfl, [], by simp, (List.append_nil _).symm,
    fun r hr => (by cases hr)⟩

theorem judged_of_permitted {argv : List String} {d : Path}
    (hpermitted : w.permitted world.files (checkCommand shape (splitDir entry).2) (splitDir entry).1 = .ok (argv, d)) :
    Judged w shape world ((checkProgram w h shape entry milliseconds).run world) := by
  have hnot : ¬ Refused w world.files shape := by
    rw [refused_iff hentry, hpermitted]
    exact fun h => h.2 ⟨_, rfl⟩
  obtain ⟨hresolve, -, hsplit, -⟩ := permitted_eq_ok.1 hpermitted
  obtain ⟨program, args, rfl, -⟩ := Workspace.startable_of_permitted hpermitted
  have hrun : w.run h world (checkCommand shape (splitDir entry).2) (splitDir entry).1 milliseconds =
      world.runProgram h (program :: args) d milliseconds := by
    unfold Workspace.run
    rw [hpermitted]
  obtain ⟨r, made, hanswer, hcalls, hfew, hreport⟩ :=
    answer_cases h world shape.checkName (checkCommand shape (splitDir entry).2) ⟨program, args, d⟩ milliseconds
  rw [run_checkProgram hleads]
  simp only [hrun, hanswer]
  rcases hreport with ⟨hfailed, hends⟩ | ⟨code, out, err, rfl, hr⟩
  · have hnotPassed : ¬ r.isPassed = true := by
      rw [VerificationReport.isPassed, hfailed]
      decide
    have hdisorder : ¬ InOrder w world.files shape made := fun h => by
      obtain ⟨-, call, code, out, err, hmade, -⟩ := h.ends hentry
      exact hends call code out err hmade
    exact judged_of_report hnot hfew hcalls (.inr hfailed) (iff_of_false hnotPassed hdisorder)
  · -- a substitution would evaluate the report
    rw [hr]
    obtain ⟨hstatus, hpassed⟩ :=
      of_outputReport shape.checkName (checkCommand shape (splitDir entry).2)
        (CommandOutput.mk code (decodeLossy out) (decodeLossy err)).combined
    refine judged_of_report hnot hfew hcalls hstatus (hpassed.trans ⟨fun h => ?_, fun h => ?_⟩)
    · exact .program hentry hleads hsplit hresolve h
    · obtain ⟨-, call, code', out', err', hmade, houtput⟩ := h.ends hentry
      simp only [List.cons.injEq, Prod.mk.injEq, Reply.ends.injEq, and_true] at hmade
      obtain ⟨-, rfl, rfl, rfl⟩ := hmade
      exact houtput

omit hleads in
theorem judged_checkProgram : Judged w shape world ((checkProgram w h shape entry milliseconds).run world) := by
  cases hleads : w.leads world.files entry with
  | false => exact judged_of_absent hentry hleads
  | true =>
    cases hpermitted : w.permitted world.files (checkCommand shape (splitDir entry).2) (splitDir entry).1 with
    | error e => exact judged_of_refused hentry hleads hpermitted
    | ok r => exact judged_of_permitted hentry hleads hpermitted

end

/-! ## All projects -/

theorem judged_checkSite : Judged w (.staticSite entry) world (.ok (checkSite w world.files entry), world) := by
  have hnot : ¬ Refused w world.files (.staticSite entry) := fun ⟨_, hentry, _⟩ => (by cases hentry)
  exact judged_of_report hnot (by simp) (List.append_nil _).symm (status_checkFiles _ _) isPassed_checkSite

/-- A project without an entry is not in order. -/
theorem judged_unknown (check logs file : String) : Judged w .unknown world (.ok (missing check logs file), world) := by
  have hnot : ¬ Refused w world.files .unknown := fun ⟨_, hentry, _⟩ => (by cases hentry)
  have horder : (missing check logs file).isPassed = true ↔ InOrder w world.files .unknown [] :=
    ⟨fun h => (by cases h), fun h => (by cases h)⟩
  exact judged_of_report hnot (by simp) (List.append_nil _).symm (.inr rfl) horder

theorem run_verify_of_entry {a : Architecture} (hshape : detectShape a (w.tree world.files) = shape)
    (hentry : checkedEntry? shape = some entry) :
    (verify w h milliseconds a).run world = (checkProgram w h shape entry milliseconds).run world := by
  have hget : (get : Act World World).run world = (.ok world, world) := rfl
  unfold verify
  rw [Run.run_bind_ok hget]
  simp only [hshape]
  cases shape with
  | staticSite | unknown => cases hentry
  | pythonServer | pythonScript | nodeServer | nodeScript =>
    obtain rfl := Option.some.inj hentry
    rfl

theorem judged_verify (w : Workspace) (h : Host) (milliseconds : Nat) (a : Architecture) (world : World) :
    Judged w (detectShape a (w.tree world.files)) world ((verify w h milliseconds a).run world) := by
  cases hentry : checkedEntry? (detectShape a (w.tree world.files)) with
  | some entry =>
    rw [run_verify_of_entry rfl hentry]
    exact judged_checkProgram hentry
  | none =>
    cases hshape : detectShape a (w.tree world.files) with
    | staticSite e =>
      rw [run_verify_of_site hshape]
      exact judged_checkSite
    | unknown =>
      have hget : (get : Act World World).run world = (.ok world, world) := rfl
      unfold verify
      rw [Run.run_bind_ok hget]
      simp only [hshape]
      exact judged_unknown _ _ _
    | pythonServer | pythonScript | nodeServer | nodeScript =>
      rw [hshape] at hentry
      cases hentry

/-- Where the tree is as file trees are and no link lies in it, only the name of an entry can refuse its check. -/
theorem not_refused {a : Architecture} (ha : a.validate = .ok ()) (hroot : ∀ n ∈ w.root, Files.IsName n)
    (hfree : Files.LinkFree w.root fs) (hnamed : Named fs)
    (hharmless : ∀ entry, checkedEntry? (detectShape a (w.tree fs)) = some entry → Harmless (baseName entry)) :
    ¬ Refused w fs (detectShape a (w.tree fs)) := by
  rintro ⟨entry, hentry, hleads, hrefuses⟩
  obtain ⟨-, -, -, hdeclared⟩ := Plan.valid_iff.1 ha
  obtain ⟨hscript, hmem⟩ := of_detectShape hentry
  have hinside : isRelativeInside entry = true := by
    rcases List.mem_append.1 hmem with hmem | hmem
    · exact hdeclared entry hmem
    · exact isRelativeInside_of_mem_tree hnamed hmem hscript
  rcases hrefuses with hplace | hrefuses
  · exact hplace (hasPlace_of_leads hroot hfree hinside hscript hleads)
  · obtain ⟨s, ext, hname, -⟩ := exists_name_of_isScript hscript
    have hdot : '.' ∈ (baseName entry).toList := by simp [hname]
    exact not_refuses (hharmless entry hentry) hdot hrefuses

/-- Whatever the project, its programs and the accepted architecture are, a verification starts at most one program
and reports whether the project is in order, unless it is refused. Where no link lies in the project, only the name
of an entry can refuse it. -/
theorem verify_reports {a : Architecture} (ha : a.validate = .ok ()) (w : Workspace) (h : Host) (milliseconds : Nat)
    (world : World) :
    Judged w (detectShape a (w.tree world.files)) world ((verify w h milliseconds a).run world) ∧
    ((∀ n ∈ w.root, Files.IsName n) → Files.LinkFree w.root world.files → Named world.files →
      (∀ entry, checkedEntry? (detectShape a (w.tree world.files)) = some entry → Harmless (baseName entry)) →
      ∃ r, ((verify w h milliseconds a).run world).1 = .ok r) := by
  have hjudged := judged_verify w h milliseconds a world
  refine ⟨hjudged, fun hroot hfree hnamed hharmless => ?_⟩
  have hnot := not_refused ha hroot hfree hnamed hharmless
  cases hresult : ((verify w h milliseconds a).run world).1 with
  | ok r => exact ⟨r, rfl⟩
  | error e => exact absurd (hjudged.refused.1 ⟨e, hresult⟩) hnot

/-! ## A server with one file -/

/-- A server whose only file has a name. -/
def apiServer (name : String) : Architecture where
  stack := ⟨"Flask", "HTML/CSS/JavaScript (Vanilla)", "none", []⟩
  overview := "A tiny app. It has parts."
  files := ⟨[⟨"backend/api/" ++ name, "purpose"⟩], [⟨"index.html", "purpose"⟩], []⟩
  dependencies := ⟨[], []⟩
  endpoints := []
  dataFlow := "a -> b"
  instructions := ""

/-- A project that holds this file alone. -/
def apiFiles (name : String) : Files := ⟨[(["p"], .directory), (["p", "backend"], .directory),
  (["p", "backend", "api"], .directory), (["p", "backend", "api", name], .file "1".toUTF8)]⟩

/-- The workspace of the project. -/
def apiSpace : Workspace := ⟨["p"], .standard⟩

theorem folder_apiFiles (name : String) : Files.Folder (apiFiles name) ["p", "backend", "api"] := by
  have hroot : Files.Folder (apiFiles name) [] :=
    ⟨by simp, Files.plain_nil _, Files.locate_nil _, Files.node?_nil _⟩
  have hp : Files.Folder (apiFiles name) ["p"] := hroot.child ⟨by decide, by decide, by decide⟩ rfl
  have hbackend : Files.Folder (apiFiles name) ["p", "backend"] := hp.child ⟨by decide, by decide, by decide⟩ rfl
  exact hbackend.child ⟨by decide, by decide, by decide⟩ rfl

theorem place_apiFiles (name : String) : apiSpace.resolve (apiFiles name) "backend/api" = .ok ["p", "backend", "api"] ∧
    (apiFiles name).isDirectory ["p", "backend", "api"] = true := by
  have hrelative : Workspace.isAbsolute "backend/api" = false := by decide
  have hclimb : Workspace.climb ["p"] (Workspace.namesIn "backend/api") = some ["p", "backend", "api"] := by decide
  have hnearest : Workspace.nearest (apiFiles name) ["api", "backend", "p"] = ["p", "backend", "api"] :=
    Workspace.nearest_of_locate (folder_apiFiles name).located
  refine ⟨?_, (folder_apiFiles name).isDirectory⟩
  unfold Workspace.resolve
  simp [apiSpace, hrelative, hclimb, hnearest]

theorem leads_apiFiles {name : String} (hroom : Files.Room ["p", "backend", "api"] name)
    (hrelative : Workspace.isAbsolute ("backend/api/" ++ name) = false)
    (hclimb : Workspace.climb ["p"] (Workspace.namesIn ("backend/api/" ++ name)) = some ["p", "backend", "api", name]) :
    apiSpace.leads (apiFiles name) ("backend/api/" ++ name) = true := by
  have hnode : (apiFiles name).node? (["p", "backend", "api"] ++ [name]) = some (.file "1".toUTF8) := by
    simp [apiFiles, Files.node?, List.lookup_cons]
  have hlocate : (apiFiles name).locate ["p", "backend", "api", name] = .ok ["p", "backend", "api", name] :=
    (folder_apiFiles name).locate_of_file hroom hnode
  have hnearest : Workspace.nearest (apiFiles name) [name, "api", "backend", "p"] = ["p", "backend", "api", name] :=
    Workspace.nearest_of_locate hlocate
  unfold Workspace.leads Workspace.resolve Files.leads
  simp [apiSpace, hrelative, hclimb, hnearest, hlocate]

/-- A host whose programs end at once and say nothing. -/
def quietHost : Host :=
  ⟨fun _ _ files => (.ends (some 0) .empty .empty, files), fun _ _ => .unreachable "", fun _ => none⟩

/-- The call that checks whether a module can be imported. -/
def importCall : Call := ⟨"python3", ["-c", "import ab"], ["p", "backend", "api"]⟩

theorem start_importCall (files : Files) : World.start quietHost ⟨files, [], []⟩ importCall =
    (.ends (some 0) .empty .empty, ⟨files, [(importCall, .ends (some 0) .empty .empty)], []⟩) := by
  have hfault : importCall.fault? files = none := by
    have hslash : importCall.program.contains '/' = false := by
      rw [String.contains_char_eq]
      decide
    unfold Call.fault?
    simp only [hslash]
    rfl
  have hlong : importCall.isTooLong = false := by decide
  unfold World.start
  simp only [hfault, quietHost, hlong]
  rfl

theorem calls_importable :
    let world : World := ⟨apiFiles "ab.py", [], []⟩
    ((verify apiSpace quietHost 5000 (apiServer "ab.py")).run world).2.calls =
      [(importCall, .ends (some 0) .empty .empty)] := by
  intro world
  have hleads : apiSpace.leads world.files "backend/api/ab.py" = true :=
    leads_apiFiles ⟨by decide, by decide, by decide⟩ (by decide) (by decide)
  have hshape : detectShape (apiServer "ab.py") (apiSpace.tree world.files) = .pythonServer "backend/api/ab.py" := by
    decide
  have hparts : splitDir "backend/api/ab.py" = ("backend/api", "ab.py") := by decide
  have hcommand : checkCommand (.pythonServer "backend/api/ab.py") "ab.py" = "python3 -c \"import ab\"" := by decide
  have hpermitted : apiSpace.permitted world.files "python3 -c \"import ab\"" "backend/api" =
      .ok (["python3", "-c", "import ab"], ["p", "backend", "api"]) :=
    permitted_eq_ok.2 ⟨(place_apiFiles "ab.py").1, (place_apiFiles "ab.py").2, rfl, rfl⟩
  have hstart : World.start quietHost world ⟨"python3", ["-c", "import ab"], ["p", "backend", "api"]⟩ = _ :=
    start_importCall (apiFiles "ab.py")
  rw [run_verify_of_entry hshape rfl, run_checkProgram hleads]
  simp only [hparts, hcommand, Workspace.run, hpermitted, World.runProgram, hstart]

theorem linkFree_apiFiles (name : String) : Files.LinkFree apiSpace.root (apiFiles name) := by
  intro q t hlink
  exfalso
  by_cases hnil : q = []
  · rw [hnil, Files.node?_nil] at hlink
    cases hlink
  · rw [Files.node?_of_ne hnil] at hlink
    obtain ⟨before, after, hentries, -⟩ := List.lookup_eq_some_iff.1 hlink
    have hmem : (q, Node.link t) ∈ (apiFiles name).entries := by rw [hentries]; simp
    simp [apiFiles] at hmem

/-- A server that can be imported passes. -/
theorem verify_reports_importable :
    let a := apiServer "ab.py"
    let world : World := ⟨apiFiles "ab.py", [], []⟩
    a.validate = .ok () ∧ Files.LinkFree apiSpace.root world.files ∧ Named world.files ∧ Harmless "ab.py" ∧
      ∃ r, ((verify apiSpace quietHost 5000 a).run world).1 = .ok r ∧ r.isPassed = true := by
  intro a world
  have hvalid : a.validate = .ok () := by decide
  have hshape : detectShape a (apiSpace.tree world.files) = .pythonServer "backend/api/ab.py" := by decide
  have hfree : Files.LinkFree apiSpace.root world.files := linkFree_apiFiles "ab.py"
  have hnamed : Named world.files := by
    have hall : ∀ p ∈ [["p"], ["p", "backend"], ["p", "backend", "api"], ["p", "backend", "api", "ab.py"]],
        ∀ n ∈ p, Files.IsName n ∧ '/' ∉ n.toList := by decide
    exact fun e he => hall e.1 (List.mem_map_of_mem (f := (·.1)) he)
  have hharmless : Harmless "ab.py" := ⟨⟨by decide, List.forall_iff_forall_mem.1 (by decide)⟩, by decide⟩
  have hentries : ∀ entry, checkedEntry? (detectShape a (apiSpace.tree world.files)) = some entry →
      Harmless (baseName entry) := by
    intro entry hentry
    rw [hshape] at hentry
    obtain rfl := Option.some.inj hentry
    exact hharmless
  obtain ⟨hjudged, hreports⟩ := verify_reports hvalid apiSpace quietHost 5000 world
  obtain ⟨r, hr⟩ := hreports (by decide) hfree hnamed hentries
  obtain ⟨made, -, hcalls, hreport⟩ := hjudged.started
  have hmade : made = [(importCall, .ends (some 0) .empty .empty)] := hcalls.symm.trans calls_importable
  have horder : InOrder apiSpace world.files (.pythonServer "backend/api/ab.py") made :=
    hmade ▸ .program rfl (leads_apiFiles ⟨by decide, by decide, by decide⟩ (by decide) (by decide)) rfl
      (place_apiFiles "ab.py").1 (by decide +kernel)
  exact ⟨hvalid, hfree, hnamed, hharmless, r, hr, (hreport r hr).2.2 (hshape ▸ horder)⟩

/-- A name with a quote in it refuses the check. -/
theorem verify_unquoted :
    let a := apiServer "a'b.py"
    let world : World := ⟨apiFiles "a'b.py", [], []⟩
    a.validate = .ok () ∧ apiSpace.leads world.files "backend/api/a'b.py" = true ∧
      (verify apiSpace quietHost 5000 a).run world =
        (.error (.commandRejected "python3 -m py_compile a'b.py" "unterminated quote"), world) := by
  intro a world
  have hleads : apiSpace.leads world.files "backend/api/a'b.py" = true :=
    leads_apiFiles ⟨by decide, by decide, by decide⟩ (by decide) (by decide)
  have hshape : detectShape a (apiSpace.tree world.files) = .pythonServer "backend/api/a'b.py" := by decide
  have hparts : splitDir "backend/api/a'b.py" = ("backend/api", "a'b.py") := by decide
  have hcommand : checkCommand (.pythonServer "backend/api/a'b.py") "a'b.py" = "python3 -m py_compile a'b.py" := by
    decide
  have hsplit : split "python3 -m py_compile a'b.py" =
    .error (.commandRejected "python3 -m py_compile a'b.py" "unterminated quote") := rfl
  have hrun : apiSpace.run quietHost world "python3 -m py_compile a'b.py" "backend/api" 5000 =
      (.error (.commandRejected "python3 -m py_compile a'b.py" "unterminated quote"), world) := by
    obtain ⟨hresolve, hdirectory⟩ := place_apiFiles "a'b.py"
    have hpermitted : apiSpace.permitted world.files "python3 -m py_compile a'b.py" "backend/api" =
        .error (.commandRejected "python3 -m py_compile a'b.py" "unterminated quote") := by
      unfold Workspace.permitted
      simp only [world, hresolve, hdirectory, hsplit, bind, Except.bind, if_true]
    unfold Workspace.run
    rw [hpermitted]
  refine ⟨by decide, hleads, ?_⟩
  rw [run_verify_of_entry hshape rfl, run_checkProgram hleads]
  simp only [hparts, hcommand, hrun]
  rfl

end BuildLoop.Verification
