import BuildLoop.Plan.Description
import BuildLoop.Proofs.Plan.Approval
import BuildLoop.Proofs.Plan.Queue
import BuildLoop.Proofs.Task.Mentions
import BuildLoop.Proofs.Task.Named

/-!
# Built plans are approved

The description of a file's task begins with the file's path and a character that no path has, and so
does what an install text says once it has named the manifest. So the first file they name is found
before anything else is said, and nothing that is said later, be it the request's own words, can change
it:

    fileText a f = "Create " ++ f.entry.path ++ a stop ++ …                       (opens_fileText)
    installText a path command = "Install the " ++ … ++ path ++ a stop ++ …        (opens_installText)
    Opens start text, Settles start path   →   path is the first file of text    (Opens.head?_mentioned)
    Settles (words ++ path) path   ↔   NamedPath path,   if words name no file             (settles_iff)

A schedule orders files by phase and its plan lets every task wait for earlier ones only. So a plan is
approved as soon as each of its tasks is about its own file, and each file is scheduled once:

    schedule a = ok fs, Directed a fs   →   Approvable (tasksFrom a .start fs)    (approvable_tasksFrom)

For that it is enough that the path is the first file of each opening           (directed_of_settles)
-/

namespace BuildLoop.Plan

/-! ## What descriptions begin with -/

section

open Text

/-- Whether a text begins with some characters and a stop after them. -/
def Opens (start : List Char) (text : String) : Prop :=
  ∃ b t, isPathStop b = true ∧ text.toList = start ++ b :: t

/-- Whether the first file named by some characters is known, whichever stop comes and whatever
follows. -/
def Settles (start : List Char) (path : String) : Prop :=
  (mentionedIn (start ++ [' '])).head? = some path

instance (start : List Char) (path : String) : Decidable (Settles start path) :=
  inferInstanceAs (Decidable ((mentionedIn _).head? = some path))

/-- Whether some words end with a blank and name no file. -/
def IsOpening (words : List Char) : Prop :=
  words.getLast? = some ' ' ∧ (Pattern.findAll filePattern words).map Pattern.Match.found = []

instance (words : List Char) : Decidable (IsOpening words) :=
  inferInstanceAs (Decidable (_ ∧ _))

/-- Behind such words a path is the first file exactly if a text can name it. -/
theorem settles_iff {words : List Char} {path : String} (h : IsOpening words) :
    Settles (words ++ path.toList) path ↔ NamedPath path.toList := by
  obtain ⟨hblank, hnone⟩ := h
  obtain ⟨before, rfl⟩ := List.getLast?_eq_some_iff.1 hblank
  constructor
  · intro hsettles
    have hmem : path ∈ mentioned (String.ofList (before ++ [' '] ++ path.toList ++ [' '])) := by
      rw [mentioned_eq, String.toList_ofList]
      exact List.mem_of_mem_head? hsettles
    exact namedPath_of_mentioned hmem
  · intro hnamed
    have hfirst := mentionedIn_path hnamed (isClosing_blank []) hnone
    rw [String.ofList_toList] at hfirst
    unfold Settles
    rwa [List.append_assoc, List.append_assoc, List.singleton_append]

theorem Opens.head?_mentioned {start : List Char} {text path : String} (h : Opens start text)
    (hpath : Settles start path) : (mentioned text).head? = some path := by
  obtain ⟨b, t, hb, htext⟩ := h
  exact BuildLoop.head?_mentioned isPathStop_blank hb htext hpath

theorem opens_append (head : String) {s : String} {b : Char} {t : List Char}
    (hs : s = String.ofList (b :: t)) (hb : isPathStop b = true) (rest : String) :
    Opens head.toList (head ++ (s ++ rest)) := by
  refine ⟨b, t ++ rest.toList, hb, ?_⟩
  rw [String.toList_append, String.toList_append, hs, String.toList_ofList, List.cons_append]

/-- A text that begins with some words, a path and a stop. -/
theorem opens_named (words path : String) {s : String} {b : Char} {t : List Char}
    (hs : s = String.ofList (b :: t)) (hb : isPathStop b = true) (rest : String) :
    Opens (words ++ path).toList (words ++ (path ++ (s ++ rest))) := by
  have h := opens_append (words ++ path) hs hb rest
  rwa [String.append_assoc] at h

/-! ## Files -/

theorem isBlankText_append (s t : String) :
    isBlankText (s ++ t) = (isBlankText s && isBlankText t) := by
  unfold isBlankText
  rw [String.toList_append, List.all_append]

theorem not_blank_of_letter (c : Char) {s : String} {t : List Char} (hs : s = String.ofList (c :: t))
    (hc : isBlank c = false) : isBlankText s = false := by
  rw [isBlankText, hs, String.toList_ofList, List.all_cons, hc, Bool.false_and]

/-- The creation of a file. -/
def creation (path : String) : List Char := "Create ".toList ++ path.toList

theorem opens_creation (path : String) {s : String} {b : Char} {t : List Char}
    (hs : s = String.ofList (b :: t)) (hb : isPathStop b = true) (rest : String) :
    Opens (creation path) ("Create " ++ (path ++ (s ++ rest))) := by
  have h := opens_named "Create " path hs hb rest
  rwa [String.toList_append] at h

theorem opens_blank (path : String) {s : String} {t : List Char} (hs : s = String.ofList (' ' :: t))
    (rest : String) : Opens (creation path) ("Create " ++ (path ++ (s ++ rest))) :=
  opens_creation path hs isPathStop_blank rest

theorem not_blank_of_opens {path text : String} (h : Opens (creation path) text) :
    isBlankText text = false := by
  obtain ⟨b, t, -, htext⟩ := h
  unfold creation at htext
  have hcreate : isBlankText "Create " = false := not_blank_of_letter 'C' rfl (by decide)
  have hsplit : isBlankText text = (isBlankText "Create " && (path.toList ++ b :: t).all isBlank) := by
    rw [isBlankText, htext, List.append_assoc, List.all_append, isBlankText]
  rw [hsplit, hcreate, Bool.false_and]

/-- Whatever the file, its description opens with it. -/
theorem opens_fileText (a : Architecture) (f : PlannedFile) :
    Opens (creation f.entry.path) (fileText a f) := by
  have hother : Opens (creation f.entry.path) (otherText a f) := by
    unfold otherText
    simp only [String.append_assoc]
    exact opens_blank _ rfl _
  unfold fileText
  simp only
  split
  · unfold requirementsText
    simp only [String.append_assoc]
    exact opens_blank _ rfl _
  · split
    · unfold packageText
      simp only [String.append_assoc]
      exact opens_blank _ rfl _
    · split
      · unfold readmeText
        simp only [String.append_assoc]
        exact opens_blank _ rfl _
      · split
        · split
          · unfold databaseText
            simp only [String.append_assoc]
            exact opens_blank _ rfl _
          · split
            · unfold modelsText
              simp only [String.append_assoc]
              exact opens_blank _ rfl _
            · exact hother
        · unfold serverText
          simp only [String.append_assoc]
          exact opens_creation _ rfl isPathStop_comma _
        · unfold pageText
          simp only [String.append_assoc]
          exact opens_blank _ rfl _
        · unfold styleText
          simp only [String.append_assoc]
          exact opens_blank _ rfl _
        · unfold scriptText
          simp only [String.append_assoc]
          exact opens_blank _ rfl _
        · exact hother

/-! ## Installs -/

/-- What an install text says up to the manifest. -/
def declaration (backend path : String) : List Char :=
  "Install the ".toList ++ (backend.toList ++ (" dependencies declared in ".toList ++ path.toList))

theorem opens_installText (a : Architecture) (path command : String) :
    Opens (declaration a.stack.backend path) (installText a path command) := by
  have h : ∀ rest, Opens _ (("Install the " ++ a.stack.backend ++ " dependencies declared in " ++ path) ++
    (" by running '" ++ rest)) := fun rest => opens_append _ (b := ' ') rfl isPathStop_blank rest
  unfold installText declaration
  simp only [String.append_assoc, String.toList_append] at h ⊢
  exact h _

end

open Text Relation

variable {a : Architecture} {fs : List PlannedFile}

/-! ## What tasks are about -/

/-- Whether each file is scheduled once, and its tasks name it first. -/
structure Directed (a : Architecture) (fs : List PlannedFile) : Prop where
  distinct : (fs.map (·.entry.path)).Nodup
  about : ∀ f ∈ fs, ∀ c, ∀ t ∈ fileTasks a c f, t.primaryFile? = some f.entry.path

theorem directed_of_settles (hn : (fs.map (·.entry.path)).Nodup)
    (hfile : ∀ f ∈ fs, Settles (creation f.entry.path) f.entry.path)
    (hinstall : ∀ f ∈ fs, f.install.isSome →
      Settles (declaration a.stack.backend f.entry.path) f.entry.path) : Directed a fs := by
  refine ⟨hn, fun f hf c t ht => ?_⟩
  unfold fileTasks at ht
  rcases List.mem_cons.1 ht with rfl | ht
  · exact (opens_fileText a f).head?_mentioned (hfile f hf)
  · obtain ⟨command, hcommand, rfl⟩ := List.mem_map.1 ht
    have hsome : f.install.isSome := Option.isSome_of_mem (Option.mem_toList.1 hcommand)
    exact (opens_installText a _ command).head?_mentioned (hinstall f hf hsome)

/-! ## Approval -/

theorem isBlankText_taskId (n : Nat) : isBlankText (taskId n) = false := by
  have htask : isBlankText "task_" = false := not_blank_of_letter 't' rfl (by decide)
  rw [taskId, isBlankText_append, htask, Bool.false_and]

theorem isBlankText_installText (a : Architecture) (path command : String) :
    isBlankText (installText a path command) = false := by
  have hinstall : isBlankText "Install the " = false := not_blank_of_letter 'I' rfl (by decide)
  unfold installText
  simp only [isBlankText_append, hinstall, Bool.false_and]

theorem sound_of_mem_fileTasks {c : Chains} {f : PlannedFile} {t : Task} (h : t ∈ fileTasks a c f) :
    Sound t := by
  unfold fileTasks at h
  rcases List.mem_cons.1 h with rfl | h
  · exact ⟨isBlankText_taskId _, not_blank_of_opens (opens_fileText a f), rfl⟩
  · obtain ⟨command, -, rfl⟩ := List.mem_map.1 h
    exact ⟨isBlankText_taskId _, isBlankText_installText a _ command, rfl⟩

/-- An install depends on the file that it is about. -/
theorem pairwise_requires {c : Chains} {f : PlannedFile} {ts : List Task}
    (hsub : fileTasks a c f ⊆ ts) :
    (fileTasks a c f).Pairwise fun t u => TransGen (Requires ts) u.id t.id := by
  unfold fileTasks at hsub ⊢
  cases hinstall : f.install with
  | none => exact List.pairwise_singleton _ _
  | some command =>
    rw [hinstall] at hsub
    refine List.pairwise_pair.2 (.single ⟨_, hsub (.tail _ (.head _)), rfl, ?_⟩)
    exact List.mem_singleton.2 rfl

section
variable (hs : schedule a = .ok fs) (hd : Directed a fs)
include hs hd

theorem owned_of_schedule {f : PlannedFile} (hf : f ∈ fs) {c : Chains} {t : Task}
    (ht : t ∈ fileTasks a c f) : Owned t := by
  intro file hfile role hrole
  rw [hd.about f hf c t ht] at hfile
  obtain rfl := Option.some.inj hfile
  exact .inr ((role_of_schedule hs hf hrole).symm.trans (role_of_mem_fileTasks ht).symm)

theorem phase_of_mem_fileTasks {f : PlannedFile} (hf : f ∈ fs) {c : Chains} {t : Task}
    (ht : t ∈ fileTasks a c f) {p : Phase} (hp : Phase.ofTask? t = some p) : p = f.phase := by
  unfold Phase.ofTask? at hp
  rw [hd.about f hf c t ht, Option.bind_some] at hp
  exact (phase_of_schedule hs hf hp).symm

/-- The plan of a schedule whose tasks are about their files keeps all rules. -/
theorem approvable_tasksFrom (hne : fs ≠ []) : Approvable (tasksFrom a .start fs) := by
  have hordered : (tasksFrom a .start fs).Pairwise fun t u =>
      ∀ p q, Phase.ofTask? t = some p → Phase.ofTask? u = some q → p.rank ≤ q.rank := by
    refine pairwise_tasksFrom (fun c f hf _ => ?_) (fun f hf g hg hle c c' t ht u hu p q hp hq => ?_)
      (pairwise_schedule hs)
    · refine List.pairwise_of_forall_mem_list fun t ht u hu p q hp hq => ?_
      rw [phase_of_mem_fileTasks hs hd hf ht hp, phase_of_mem_fileTasks hs hd hf hu hq]
    · rw [phase_of_mem_fileTasks hs hd hf ht hp, phase_of_mem_fileTasks hs hd hg hu hq]
      exact hle
  have hchained : (tasksFrom a .start fs).Pairwise fun t u => ∀ file, t.primaryFile? = some file →
      u.primaryFile? = some file → TransGen (Requires (tasksFrom a .start fs)) u.id t.id := by
    refine pairwise_tasksFrom (fun c f hf hsub => ?_)
      (fun f hf g hg hne c c' t ht u hu file htf huf => ?_) (List.pairwise_map.1 hd.distinct)
    · exact (pairwise_requires hsub).imp fun h _ _ _ => h
    · rw [hd.about f hf c t ht] at htf
      rw [hd.about g hg c' u hu] at huf
      exact absurd (Option.some.inj (htf.trans huf.symm)) hne
  have hcheck := (checkOrder_eq_ok.1 (checkOrder_tasksFrom hs hne)).2.1
  refine ⟨tasksFrom_ne_nil hne, fun t ht => ?_, nodup_tasksFrom a .start fs, fun i t ht d hdep => ?_,
    fun t ht => ?_, hordered.imp fun h _ _ => h, hchained⟩
  · obtain ⟨f, hf, c, ht⟩ := exists_of_mem_tasksFrom ht
    exact sound_of_mem_fileTasks ht
  · exact (hcheck i t ht d hdep).resolve_left List.not_mem_nil
  · obtain ⟨f, hf, c, ht⟩ := exists_of_mem_tasksFrom ht
    exact owned_of_schedule hs hd hf ht

end

/-! ## Architectures that can be planned -/

/-- What is enough to plan an architecture: it is valid, no file lacks its backend, and each path is
listed once and is the first file of what its tasks open with. -/
structure Plannable (a : Architecture) : Prop where
  valid : a.validate = .ok ()
  served : Served a
  distinct : a.files.paths.Nodup
  created : ∀ path ∈ a.files.paths, Settles (creation path) path
  declared : ∀ path ∈ a.files.paths, (installCommand? path).isSome →
    Settles (declaration a.stack.backend path) path

theorem valid_iff : a.validate = .ok () ↔
    a.files.entries ≠ [] ∧ isBlankText a.dataFlow = false ∧
      (a.hasBackend = true ∨ a.files.backend = []) ∧
      ∀ path ∈ a.files.paths, isRelativeInside path = true := by
  unfold Architecture.validate
  by_cases hfiles : a.files.entries.isEmpty = true
  · rw [if_pos hfiles]
    exact ⟨fun h => (by cases h), fun h => absurd (List.isEmpty_iff.1 hfiles) h.1⟩
  rw [if_neg hfiles]
  by_cases hflow : isBlankText a.dataFlow = true
  · rw [if_pos hflow]
    exact ⟨fun h => (by cases h), fun h => absurd hflow (by rw [h.2.1]; simp)⟩
  rw [if_neg hflow]
  by_cases hbackend : (!a.hasBackend && !a.files.backend.isEmpty) = true
  · rw [if_pos hbackend]
    refine ⟨fun h => (by cases h), fun h => absurd h.2.2.1 ?_⟩
    simpa using hbackend
  rw [if_neg hbackend]
  have hserved : a.hasBackend = true ∨ a.files.backend = [] := by
    cases hb : a.hasBackend with
    | true => exact .inl rfl
    | false => exact .inr (by simpa [hb] using hbackend)
  split
  · next path hpath =>
    have hmem := List.mem_of_find?_eq_some hpath
    have hout : isRelativeInside path = false := by simpa using List.find?_some hpath
    exact ⟨fun h => (by cases h), fun h => absurd (h.2.2.2 path hmem) (by rw [hout]; simp)⟩
  · next hnone =>
    have hin : ∀ path ∈ a.files.paths, isRelativeInside path = true := by
      simpa using List.find?_eq_none.1 hnone
    exact ⟨fun _ => ⟨by simpa using hfiles, by simpa using hflow, hserved, hin⟩, fun _ => rfl⟩

theorem Plannable.directed (h : Plannable a) (hs : schedule a = .ok fs) : Directed a fs := by
  have hpaths : (fs.map (·.entry.path)).Perm a.files.paths := by
    have hmap := (perm_schedule hs).map (·.path)
    rwa [List.map_map] at hmap
  have hmem : ∀ f ∈ fs, f.entry.path ∈ a.files.paths := fun f hf =>
    hpaths.mem_iff.1 (List.mem_map_of_mem hf)
  refine directed_of_settles (hpaths.nodup_iff.2 h.distinct) (fun f hf => h.created _ (hmem f hf))
    fun f hf hinstall => ?_
  obtain ⟨e, -, rfl⟩ := exists_place hs hf
  exact h.declared _ (hmem _ hf) hinstall

/-- An architecture that can be planned is: the plan of its schedule is built, checked and approved. -/
theorem Plannable.planned (h : Plannable a) : ∃ fs, schedule a = .ok fs ∧ Directed a fs ∧
    build a = .ok (tasksFrom a .start fs) ∧ checkOrder a (tasksFrom a .start fs) = .ok () ∧
    ∃ s, validate (tasksFrom a .start fs) = .approved s := by
  obtain ⟨fs, hs⟩ := exists_schedule h.served
  have hne : fs ≠ [] := by
    rintro rfl
    exact (valid_iff.1 h.valid).1 (perm_schedule hs).nil_eq.symm
  have hd := h.directed hs
  exact ⟨fs, hs, hd, build_eq_ok.2 ⟨fs, hs, hne, rfl⟩, checkOrder_tasksFrom hs hne, _,
    validate_eq_approved.2 ⟨approvable_tasksFrom hs hd hne, rfl⟩⟩

end BuildLoop.Plan
