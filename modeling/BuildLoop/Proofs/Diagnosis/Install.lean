import BuildLoop.Diagnosis.Correction
import BuildLoop.Proofs.Command.Line
import BuildLoop.Proofs.Diagnosis.Finding
import BuildLoop.Proofs.Task.Named
import BuildLoop.Proofs.Worker.Directive

/-!
# Corrections that install a package

A Python module that is missing and is no file of the manifest is corrected by a task that says which
command to run, where, and in which manifest to list the package. What the task says is read back as it
was meant, whatever the module, the logs and the manifest:

    the directive of the task   = (pip install p, the directory of the manifest)
    its command, split          = [pip, install, p]
    the first file of the task  = the manifest in that directory                          (reads_install)
-/

namespace BuildLoop.Diagnosis

open Text Pattern Worker

/-! ## Packages -/

/-- Whether a name is one of a package: letters, digits, underscores and hyphens. -/
structure IsPackage (p : String) : Prop where
  nonempty : p ≠ ""
  chars : ∀ c ∈ p.toList, isNameChar c = true

theorem chars_of_find_pythonModule {s : List Char} {m : Match} (h : find pythonModule s = some m) :
    ∀ c ∈ (groupText m 1).toList, c.isAlphanum = true ∨ c = '_' ∨ c = '.' := by
  obtain ⟨u, b, -, hmatch⟩ := exists_of_find h
  obtain ⟨_, _, rfl, -, hmatch⟩ := exists_of_run_seq (numbers_chars _) hmatch
  obtain ⟨module, _, rfl, hmodule, hmatch⟩ :=
    exists_of_run_plain (p := atLeastOne fun c => c.isAlphanum || c == '_' || c == '.') rfl hmatch
  obtain ⟨_, rest, rfl, -, hmatch⟩ := exists_of_run_plain (numbers_chars _) hmatch
  obtain rfl := Option.some.inj hmatch
  intro c hc
  have hc : c ∈ module := by simpa [groupText, Match.group?, upTo_append_self] using hc
  simpa [or_assoc] using List.all_eq_true.1 (takes_atLeastOne.1 hmodule).2 c hc

theorem isPackage_pipPackage {module : String} (hroot : moduleRoot module ≠ "")
    (hchars : ∀ c ∈ module.toList, c.isAlphanum = true ∨ c = '_' ∨ c = '.') : IsPackage (pipPackage module) := by
  unfold pipPackage
  cases hlookup : renamedPackages.lookup (moduleRoot module) with
  | some p =>
    have hknown : ∀ x ∈ renamedPackages, x.2 ≠ "" ∧ x.2.toList.all isNameChar = true := by decide +kernel
    obtain ⟨before, after, hsplit, -⟩ := List.lookup_eq_some_iff.1 hlookup
    have hmem : (moduleRoot module, p) ∈ renamedPackages := by simp [hsplit]
    exact ⟨(hknown _ hmem).1, List.all_eq_true.1 (hknown _ hmem).2⟩
  | none =>
    refine ⟨hroot, fun c hc => ?_⟩
    rw [Option.getD_none, moduleRoot, String.toList_ofList] at hc
    have hdot : c ≠ '.' := by simpa using List.all_eq_true.1 List.all_takeWhile c hc
    rcases hchars c (List.takeWhile_subset _ hc) with h | rfl | rfl
    · simp [isNameChar, h]
    · decide
    · exact absurd rfl hdot

/-! ## What the task says -/

/-- What a task says the command is to be run in. -/
def place (dir : String) : String := if dir = "" then "the project root" else dir ++ "/"

/-- The manifest in a directory. -/
def listing (dir : String) : String :=
  if dir = "" then "requirements.txt" else dir ++ "/requirements.txt"

/-- The directory in which the packages of a design are listed. -/
def installDir (a : Architecture) : String := (manifestDir? a "requirements.txt").getD "backend"

/-- Whether a directory is the root or a path of names. -/
def IsDirectory (dir : String) : Prop := dir = "" ∨ Directories (dir.toList ++ ['/'])

variable {a : Architecture} {p dir : String}

theorem toList_installText (a : Architecture) (p : String) : (installText a false p).toList =
    "Install missing Python dependency ".toList ++ '\'' :: (p.toList ++ '\'' :: (" by running ".toList ++
      '\'' :: (("pip install " ++ p).toList ++ '\'' :: (" in ".toList ++ ((place (installDir a)).toList ++
        ' ' :: ("and add it to".toList ++ ' ' :: ((listing (installDir a)).toList ++ ['.']))))))) := by
  unfold installText place listing installDir
  by_cases hdir : (manifestDir? a "requirements.txt").getD "backend" = ""
  · simp [hdir]
  · simp [hdir]

theorem IsPackage.notMem (hp : IsPackage p) {c : Char} (hc : isNameChar c = false) : c ∉ p.toList := fun hmem => by
  rw [hp.chars c hmem] at hc
  cases hc

/-- A package ends with a character of a name. -/
theorem IsPackage.exists_last (hp : IsPackage p) : ∃ r c, p.toList = r ++ [c] ∧ isNameChar c = true := by
  have hne : p.toList ≠ [] := fun h => hp.nonempty (String.toList_eq_nil_iff.1 h)
  obtain ⟨r, c, hlast⟩ := (List.eq_nil_or_concat' p.toList).resolve_left hne
  exact ⟨r, c, hlast, hp.chars c (by simp [hlast])⟩

theorem isPathChar_of_isBareChar {c : Char} (h : isBareChar c = true ∨ c = '/') : isPathChar c = true := by
  rcases h with h | rfl
  · simp only [isBareChar, isNameChar, Bool.or_eq_true, beq_iff_eq] at h
    rcases h with ((h | rfl) | rfl) | rfl
    · simp [isPathChar, h]
    all_goals decide
  · decide

theorem IsDirectory.chars (h : IsDirectory dir) : ∀ c ∈ dir.toList, isNameChar c = true ∨ c = '/' := by
  intro c hc
  rcases h with rfl | h
  · cases hc
  · exact h.chars c (List.mem_append_left _ hc)

/-- What is said of a directory beside its names. -/
theorem IsDirectory.notMem (h : IsDirectory dir) {c : Char} (hname : isNameChar c = false) (hslash : c ≠ '/') :
    (c ∉ "the project root".toList → c ∉ (place dir).toList) ∧
      (c ∉ "/requirements.txt".toList → c ∉ (listing dir).toList) := by
  have hdir : c ∉ dir.toList := fun hmem => by
    rcases h.chars c hmem with hc | hc
    · rw [hname] at hc
      cases hc
    · exact hslash hc
  constructor
  · intro hroot
    unfold place
    split
    · exact hroot
    · simp [hdir, hslash]
  · intro hlisting
    unfold listing
    split
    · exact fun hmem => hlisting (List.mem_cons_of_mem '/' hmem)
    · rw [String.toList_append, List.mem_append, not_or]
      exact ⟨hdir, hlisting⟩

theorem IsDirectory.isBlank_eq_false (h : IsDirectory dir) (r : List Char) :
    ∀ c ∈ ((place dir).toList ++ r).head?, isBlank c = false := by
  unfold place
  split
  · intro c hc
    obtain rfl := Option.some.inj hc
    decide
  · next hne =>
    obtain ⟨d, s, hd⟩ := List.exists_cons_of_ne_nil fun h => hne (String.toList_eq_nil_iff.1 h)
    have hchar := h.chars d (by simp [hd])
    intro c hc
    rw [String.toList_append, hd] at hc
    obtain rfl := Option.some.inj hc
    rcases hchar with hname | rfl
    · exact isBlank_of_isBareChar (isBareChar_of_isNameChar hname)
    · decide

theorem isPlace_install (h : IsDirectory dir) (r : List Char) :
    IsPlace (place dir).toList (' ' :: r) ∧ directiveDir (place dir).toList = (if dir = "" then "." else dir) := by
  unfold place
  by_cases hne : dir = ""
  · rw [if_pos hne, if_pos hne]
    exact ⟨isPlace_root, directiveDir_root⟩
  · rw [if_neg hne, if_neg hne, String.toList_append]
    obtain ⟨d, c, hd, hc⟩ := (h.resolve_left hne).exists_last.resolve_left (by simp)
    have hdir : dir.toList = d ++ [c] := (List.append_inj' hd rfl).1
    constructor
    · refine isPlace_path (List.all_eq_true.2 fun c hc => ?_) (by simp)
      exact isPathChar_of_isBareChar (((h.resolve_left hne).chars c hc).imp_left isBareChar_of_isNameChar)
    · have hslash : c ≠ '/' := by
        rintro rfl
        cases hc
      rw [hdir]
      exact (directiveDir_slash hslash).trans (by rw [← hdir, String.ofList_toList])

/-- Neither what stands in front of the package leads to a command nor the package does. -/
theorem directive?_installText (hp : IsPackage p) (hdir : IsDirectory (installDir a)) :
    directive? (installText a false p) =
      some ("pip install " ++ p, if installDir a = "" then "." else installDir a) := by
  obtain ⟨hplace, hmeant⟩ := isPlace_install hdir
    ("and add it to".toList ++ ' ' :: ((listing (installDir a)).toList ++ ['.']))
  have htext := toList_installText a p
  have hp' : '\'' ∉ p.toList := hp.notMem (by decide)
  have hcommand : '\'' ∉ ("pip install " ++ p).toList := by simp [hp']
  obtain ⟨hquoteless, hquoteless'⟩ := hdir.notMem (c := '\'') (by decide) (by decide)
  have hquote : '\'' ∉ " in ".toList ++ ((place (installDir a)).toList ++ ' ' :: ("and add it to".toList ++ ' ' ::
      ((listing (installDir a)).toList ++ ['.']))) := by
    simp [hquoteless (by decide), hquoteless' (by decide)]
  have hlead : Leads ("Install missing Python dependency ".toList ++
      '\'' :: (p.toList ++ '\'' :: " by running ".toList)) := by
    refine ⟨("Install missing Python dependency ".toList ++ '\'' :: (p.toList ++ '\'' :: " by".toList)) ++ [' '],
      "running".toList, [' '], by simp, ?_, .inr (sameFolded_self _), by decide, by decide⟩
    rw [List.getLast?_concat]
    decide
  have hsome : Directs (installText a false p).toList := by
    rw [htext]
    exact ⟨_, ("pip install " ++ p).toList, _, by simp, hlead, ⟨by simp, hcommand⟩, hplace.names.follows⟩
  obtain ⟨⟨c, d⟩, hread⟩ := Option.isSome_iff_exists.1 (isSome_directive?.2 hsome)
  obtain ⟨command, dir, htells, rfl, rfl⟩ := tells_of_directive? hread
  rw [htext] at htells
  obtain ⟨r, e, hlast, he⟩ := hp.exists_last
  have hblank : isBlank e = false := isBlank_of_isBareChar (isBareChar_of_isNameChar he)
  obtain ⟨rfl, hnames⟩ := htells.second_quotation (by decide) hp' (by decide) hcommand hquote
    (fun h => by
      have := h.ends (x := "Install missing Python dependenc".toList) (c := 'y') (by decide)
      revert this
      decide)
    (fun h => by
      rw [hlast, ← List.cons_append, ← List.append_assoc] at h
      rw [h.isBlank] at hblank
      cases hblank)
  have htrim : trim ("pip install " ++ p).toList = ("pip install " ++ p).toList := by
    refine trim_eq_self (fun c hc => ?_) fun c hc => ?_
    · obtain rfl : 'p' = c := by simpa using hc
      decide
    · have hend : ("pip install " ++ p).toList = ("pip install ".toList ++ r) ++ [e] := by
        rw [String.toList_append, hlast, List.append_assoc]
      rw [hend, List.getLast?_concat] at hc
      obtain rfl := Option.some.inj hc
      exact hblank
  rw [hread, hnames.eq_of_place hplace (hdir.isBlank_eq_false _), hmeant, htrim, String.ofList_toList]

/-- The command that a task tells is split into its three words. -/
theorem split_install (hp : IsPackage p) : Command.split ("pip install " ++ p) = .ok ["pip", "install", p] := by
  have hplain : ∀ w ∈ ["pip", "install", p], Command.IsPlain w := by
    have hword : ∀ w ∈ ["pip", "install"], Command.IsPlain w := by
      intro w hw
      have hchars : ∀ w ∈ ["pip", "install"], w ≠ "" ∧
          (w.toList.all fun c => decide (isBlank c = false ∧ c ≠ '\'' ∧ c ≠ '"')) = true := by decide
      exact ⟨(hchars w hw).1, List.all_iff_forall_prop.1 (hchars w hw).2⟩
    have hpackage : Command.IsPlain p := by
      refine ⟨hp.nonempty, fun c hc => ⟨isBlank_of_isBareChar (isBareChar_of_isNameChar (hp.chars c hc)), ?_, ?_⟩⟩
      · rintro rfl
        exact hp.notMem (by decide) hc
      · rintro rfl
        exact hp.notMem (by decide) hc
    intro w hw
    rcases List.mem_append.1 (show w ∈ ["pip", "install"] ++ [p] from hw) with hw | hw
    · exact hword w hw
    · exact List.mem_singleton.1 hw ▸ hpackage
  have hline : "pip install " ++ p = " ".intercalate ["pip", "install", p] := by
    simp [String.intercalate_cons_cons, ← String.append_assoc]
  rw [hline, Command.split_intercalate hplain (by simp)]

/-- The manifest in a directory is a file that a text can name. -/
theorem namedPath_listing (h : IsDirectory dir) : NamedPath (listing dir).toList := by
  have hname : IsPlainName "requirements.txt".toList :=
    ⟨'r', "equirements".toList, "txt".toList, by decide, by decide, by decide, by decide⟩
  obtain ⟨ds, hds, hlisting⟩ : ∃ ds, Directories ds ∧ (listing dir).toList = ds ++ "requirements.txt".toList := by
    unfold listing
    by_cases hne : dir = ""
    · exact ⟨[], .nil, by rw [if_pos hne, List.nil_append]⟩
    · refine ⟨dir.toList ++ ['/'], h.resolve_left hne, ?_⟩
      rw [if_neg hne, String.toList_append, List.append_assoc]
      rfl
  rw [hlisting]
  refine ⟨⟨ds, _, rfl, hds, .inr hname⟩, fun hmem => ?_⟩
  have hascii : ∀ c ∈ ds ++ "requirements.txt".toList, c.toNat < 128 := by
    rw [List.forall_mem_append]
    refine ⟨fun c hc => ?_, List.all_iff_forall_prop.1 (by decide)⟩
    rcases hds.chars c hc with hc | rfl
    · exact ascii_of_isBareChar (isBareChar_of_isNameChar hc)
    · decide
  have hnone : ∀ w ∈ libraryNames, ¬ "requirements.txt".toList <:+ w.toList := by decide
  rw [lower_of_ascii hascii, List.map_append] at hmem
  exact hnone _ hmem ⟨ds.map Char.toLower, by simp⟩

/-- The manifest is the first file that the task names. -/
theorem mentioned_installText (hp : IsPackage p) (hdir : IsDirectory (installDir a)) :
    (mentioned (installText a false p)).head? = some (listing (installDir a)) := by
  obtain ⟨words, hwords, hdot⟩ : ∃ words, (installText a false p).toList =
      words ++ ' ' :: ((listing (installDir a)).toList ++ ['.']) ∧ '.' ∉ words := by
    refine ⟨"Install missing Python dependency ".toList ++ '\'' :: (p.toList ++ '\'' :: (" by running ".toList ++
      '\'' :: (("pip install " ++ p).toList ++ '\'' :: (" in ".toList ++ ((place (installDir a)).toList ++
        ' ' :: "and add it to".toList))))), by simp [toList_installText], ?_⟩
    have hp' : '.' ∉ p.toList := hp.notMem (by decide)
    have hplace := (hdir.notMem (c := '.') (by decide) (by decide)).1 (by decide)
    simp [hp', hplace]
  have hnone : (findAll filePattern (words ++ [' '])).map Match.found = [] := by
    rw [List.map_eq_nil_iff]
    refine findAllFrom_eq_nil fun x c y h => ?_
    have hmem : '.' ∈ words ++ [' '] := by simp [h]
    simp [hdot] at hmem
  rw [mentioned_eq, hwords, mentionedIn_path (namedPath_listing hdir) (.inr ⟨[], rfl, by simp⟩) hnone,
    String.ofList_toList]

/-! ## What is read off the task -/

/-- A Python module that logs name, that has a root, and whose root is no file of the manifest is corrected by
a task whose directive installs the package in the directory of the manifest of packages, in the root if
that is where the manifest stands, and in `backend` if there is none; the command is split into its words, and
the first file that the task names is the manifest in that directory. -/
theorem reads_install {logs : String} {m : Match} (hm : find pythonModule logs.toList = some m)
    (hroot : moduleRoot (groupText m 1) ≠ "")
    (hforeign : ∀ path ∈ a.files.paths, baseName path ≠ moduleRoot (groupText m 1) ++ ".py")
    (hdir : ∀ dir, manifestDir? a "requirements.txt" = some dir → IsDirectory dir)
    (cycle : Nat) (taken : List String) :
    let package := pipPackage (groupText m 1)
    let dir := (manifestDir? a "requirements.txt").getD "backend"
    let t := (diagnose logs a cycle taken).task
    directive? t.description = some ("pip install " ++ package, if dir = "" then "." else dir) ∧
      Command.split ("pip install " ++ package) = .ok ["pip", "install", package] ∧
      t.primaryFile? = some (if dir = "" then "requirements.txt" else dir ++ "/requirements.txt") := by
  intro package dir t
  have hp : IsPackage package := isPackage_pipPackage hroot (chars_of_find_pythonModule hm)
  have hplace : IsDirectory (installDir a) := by
    unfold installDir
    cases hfound : manifestDir? a "requirements.txt" with
    | some dir => exact hdir dir hfound
    | none => exact .inr (.cons (d := "backend".toList) (by decide) (by decide) .nil)
  have hdescription : t.description = installText a false package := by
    have hnone : a.files.paths.find? (baseName · == moduleRoot (groupText m 1) ++ ".py") = none :=
      List.find?_eq_none.2 fun path hpath => by simpa using hforeign path hpath
    have hfinding : analyze logs a = ⟨.missingDependency, (projectFrame? a logs).map (·.1), none,
        "No module named '" ++ groupText m 1 ++ "'", some package⟩ := by
      rw [analyze_of_pythonModule hm, pythonFinding, hnone]
    have hpython : startsWith ("No module named '" ++ groupText m 1 ++ "'") "Cannot find module" = false := by
      rw [startsWith, String.toList_append, String.toList_append]
      rfl
    show describe (analyze logs a) a = _
    rw [hfinding, describe]
    simp only [hpython, Option.getD_some]
  rw [Task.primaryFile?, Task.files, hdescription]
  exact ⟨directive?_installText hp hplace, split_install hp, mentioned_installText hp hplace⟩

/-- A service whose packages are listed two directories down. -/
def nestedService : Architecture where
  stack := ⟨"Flask", "none", "SQLite", []⟩
  overview := "A service."
  files := ⟨[⟨"srv/api/main.py", "Server"⟩, ⟨"srv/api/requirements.txt", "Packages"⟩], [], []⟩
  dependencies := ⟨[], []⟩
  endpoints := []
  dataFlow := "Requests are answered."
  instructions := ""

theorem reads_install_nested :
    let t := (diagnose "ModuleNotFoundError: No module named 'yaml.nodes'" nestedService 1 []).task
    directive? t.description = some ("pip install pyyaml", "srv/api") ∧
      Command.split "pip install pyyaml" = .ok ["pip", "install", "pyyaml"] ∧
      t.primaryFile? = some "srv/api/requirements.txt" := by
  have hm : find pythonModule "ModuleNotFoundError: No module named 'yaml.nodes'".toList =
      some ⟨some ' ', "No module named 'yaml.nodes'".toList, [(1, "yaml.nodes".toList)], ⟨some '\'', []⟩⟩ := by rfl
  have hdir : manifestDir? nestedService "requirements.txt" = some "srv/api" := by decide
  exact reads_install hm (by decide) (by decide) (fun dir h => by
    obtain rfl := Option.some.inj (hdir.symm.trans h)
    exact .inr (.cons (d := "srv".toList) (by decide) (by decide)
      (.cons (d := "api".toList) (by decide) (by decide) .nil))) 1 []

end BuildLoop.Diagnosis
