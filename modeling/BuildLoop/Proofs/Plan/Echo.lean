import BuildLoop.Plan.Description
import BuildLoop.Proofs.Worker.Directive

/-!
# What descriptions repeat

The description of a file's task repeats the first sentence of the overview, or nothing that is not
known beforehand. No other part of it holds a single quote, but for the command that a manifest of Node
packages starts the server with. So a description holds a directive exactly if it repeats the sentence
and the sentence holds one:

    directive? (fileText a f) ≠ none   ↔   f repeats the overview, and directive? of its first sentence ≠ none
                                                                            (isSome_directive_fileText)
-/

namespace BuildLoop.Plan

open Text Worker

/-! ## Texts without quotes -/

/-- Whether a text holds no single quote. -/
def unquoted (s : String) : Bool := !s.toList.contains '\''

theorem unquoted_iff {s : String} : unquoted s = true ↔ '\'' ∉ s.toList := by simp [unquoted]

theorem unquoted_append (s t : String) : unquoted (s ++ t) = (unquoted s && unquoted t) := by
  simp only [unquoted, String.toList_append, List.contains_eq_mem, List.mem_append, Bool.decide_or,
    Bool.not_or]

/-- What is written out is read by its characters, not by the bytes that hold them. -/
theorem unquoted_literal {s : String} {l : List Char} (hs : s = String.ofList l)
    (hl : l.contains '\'' = false) : unquoted s = true := by
  rw [unquoted, hs, String.toList_ofList, hl, Bool.not_false]

theorem unquoted_intercalate {sep : String} {l : List String} (hsep : unquoted sep = true)
    (h : ∀ s ∈ l, unquoted s = true) : unquoted (sep.intercalate l) = true := by
  rw [unquoted_iff, String.toList_intercalate]
  rw [unquoted_iff] at hsep
  induction l with
  | nil => simp
  | cons s l ih =>
    have hs := unquoted_iff.1 (h s List.mem_cons_self)
    have hl := ih fun t ht => h t (List.mem_cons_of_mem s ht)
    cases l with
    | nil => simpa [List.intercalate] using hs
    | cons t l =>
      rw [List.map_cons, List.map_cons, List.intercalate_cons_cons]
      simp only [List.mem_append, not_or]
      exact ⟨⟨hs, hsep⟩, hl⟩

theorem unquoted_parentDir {path : String} (h : unquoted path = true) :
    unquoted (parentDir path) = true := by
  unfold parentDir dirName?
  cases hcut : cutAtLast '/' path.toList with
  | none => rfl
  | some p =>
    obtain ⟨hpath, -⟩ := cutAtLast_eq_some.1 hcut
    rw [unquoted_iff, hpath] at h
    rw [unquoted_iff]
    simp_all

theorem unquoted_relativeTo {dir path : String} (h : unquoted path = true) :
    unquoted (relativeTo dir path) = true := by
  unfold relativeTo
  split
  · exact h
  · split
    · next r hr =>
      rw [unquoted_iff, eq_of_after? hr] at h
      rw [unquoted_iff]
      simp_all
    · exact h

/-! ## Echoes -/

/-- Whether a text repeats the first sentence of the overview between texts without quotes. -/
inductive Echoes (a : Architecture) : String → Prop
  | sentence : Echoes a (firstSentence a.overview)
  | before {s t : String} (hs : unquoted s = true) (ht : Echoes a t) : Echoes a (s ++ t)
  | after {s t : String} (hs : Echoes a s) (ht : unquoted t = true) : Echoes a (s ++ t)

/-- An architecture whose words hold no single quote, those of the overview apart: its first sentence
may hold some, after an opening bracket and before the full stop at its end. -/
structure Quiet (a : Architecture) : Prop where
  backend : unquoted a.stack.backend = true
  frontend : unquoted a.stack.frontend = true
  database : unquoted a.stack.database = true
  packages : ∀ p ∈ a.dependencies.backend, unquoted p = true
  endpoints : ∀ e ∈ a.endpoints, unquoted e.method = true ∧ unquoted e.path = true
  entries : ∀ e ∈ a.files.entries, unquoted e.path = true ∧ unquoted e.purpose = true
  overview : ∃ o y, (firstSentence a.overview).toList = o ++ '(' :: (y ++ ['.']) ∧ '\'' ∉ o

section
variable {a : Architecture} (h : Quiet a)
include h

theorem Echoes.directs_iff {s : String} (hs : Echoes a s) :
    Directs s.toList ↔ Directs (firstSentence a.overview).toList := by
  obtain ⟨o, y, hsentence, ho⟩ := h.overview
  have hsplit : ∃ x z, s.toList = x ++ (firstSentence a.overview).toList ++ z ∧ '\'' ∉ x ∧ '\'' ∉ z := by
    induction hs with
    | sentence => exact ⟨[], [], by simp, by simp, by simp⟩
    | @before s t hs _ ih =>
      obtain ⟨x, z, ht, hx, hz⟩ := ih
      rw [unquoted_iff] at hs
      exact ⟨s.toList ++ x, z, by simp [ht], by simp [hs, hx], hz⟩
    | @after s t _ ht ih =>
      obtain ⟨x, z, hs, hx, hz⟩ := ih
      rw [unquoted_iff] at ht
      exact ⟨x, z ++ t.toList, by simp [hs], hx, by simp [ht, hz]⟩
  obtain ⟨x, z, hs, hx, hz⟩ := hsplit
  have hwhole : s.toList = (x ++ o) ++ '(' :: (y ++ '.' :: z) := by simp [hs, hsentence]
  rw [hwhole, hsentence, directs_append (by simp [hx, ho]) (by decide) (by decide),
    directs_append ho (by decide) (by decide), directs_before hz (by decide)]

/-- What repeats the overview tells a command exactly if the overview does. -/
theorem Echoes.isSome_directive?_eq {s : String} (hs : Echoes a s) :
    (directive? s).isSome = (directive? (firstSentence a.overview)).isSome := by
  rw [Bool.eq_iff_iff, isSome_directive?, isSome_directive?, hs.directs_iff h]

theorem unquoted_endpointList : unquoted (endpointList a) = true := by
  unfold endpointList
  split
  · decide
  · refine unquoted_intercalate (by decide) fun s hs => ?_
    obtain ⟨e, he, rfl⟩ := List.mem_map.1 hs
    obtain ⟨hmethod, hpath⟩ := h.endpoints e he
    simp only [unquoted_append, Bool.and_eq_true, hmethod, hpath, true_and, and_true]
    exact unquoted_literal rfl (by decide)

theorem unquoted_linkedFiles (path : String) :
    unquoted (" and ".intercalate (linkedFiles a path)) = true := by
  refine unquoted_intercalate (by decide) fun s hs => ?_
  obtain ⟨p, hp, rfl⟩ := List.mem_map.1 hs
  obtain ⟨e, he, rfl⟩ := List.mem_map.1 (List.mem_filter.1 hp).1
  have hentry : e ∈ a.files.entries :=
    List.mem_append_left _ (List.mem_append_right _ he)
  exact unquoted_relativeTo (h.entries e hentry).1

theorem unquoted_packages : unquoted (", ".intercalate a.dependencies.backend) = true :=
  unquoted_intercalate (by decide) h.packages

/-! ## The texts of files -/

section
variable {path : String} (hpath : unquoted path = true)
include hpath

theorem echoes_requirementsText : Echoes a (requirementsText a path) := by
  unfold requirementsText
  refine .before ?_ .sentence
  simp only [unquoted_append, Bool.and_eq_true, hpath, h.backend, unquoted_packages h, and_true]
  and_intros <;> exact unquoted_literal rfl (by decide)

theorem echoes_readmeText : Echoes a (readmeText a path) := by
  have hadvice : unquoted (runAdvice a.hasBackend) = true := by
    unfold runAdvice
    split
    · rw [unquoted_append, Bool.and_eq_true]
      exact ⟨unquoted_literal rfl (by decide), unquoted_literal rfl (by decide)⟩
    · exact unquoted_literal rfl (by decide)
  unfold readmeText
  repeat refine .after ?_ (by first
    | simp only [h.backend, h.frontend, h.database, hadvice] | exact unquoted_literal rfl (by decide))
  refine .before ?_ .sentence
  simp only [unquoted_append, Bool.and_eq_true, hpath, and_true]
  and_intros <;> exact unquoted_literal rfl (by decide)

/-- The quoted command of a manifest of Node packages is followed by a comma. -/
theorem directs_packageText :
    Directs (packageText a path).toList ↔ Directs (firstSentence a.overview).toList := by
  have hhead : unquoted ("Create " ++ path ++ " for the " ++ a.stack.backend ++
      " backend with \"main\": \"server.js\", a \"start\" script running ") = true := by
    simp only [unquoted_append, Bool.and_eq_true, hpath, h.backend, and_true]
    and_intros <;> exact unquoted_literal rfl (by decide)
  have hechoes : Echoes a (" and " ++ "dependencies: " ++ ", ".intercalate a.dependencies.backend ++
      ". The app: " ++ firstSentence a.overview) := by
    refine .before ?_ .sentence
    simp only [unquoted_append, Bool.and_eq_true, unquoted_packages h, and_true]
    and_intros <;> exact unquoted_literal rfl (by decide)
  have hcommand : " backend with \"main\": \"server.js\", a \"start\" script running 'node server.js', and ".toList =
      " backend with \"main\": \"server.js\", a \"start\" script running ".toList ++
        '\'' :: ("node server.j".toList ++ ['s'] ++ '\'' :: ',' :: " and ".toList) := by decide
  have htext : (packageText a path).toList = ("Create " ++ path ++ " for the " ++ a.stack.backend ++
      " backend with \"main\": \"server.js\", a \"start\" script running ").toList ++ '\'' ::
        ("node server.j".toList ++ ['s'] ++ '\'' :: ',' :: (" and " ++ "dependencies: " ++
          ", ".intercalate a.dependencies.backend ++ ". The app: " ++ firstSentence a.overview).toList) := by
    unfold packageText
    simp only [String.toList_append, hcommand, List.append_assoc, List.cons_append]
  rw [htext]
  exact (directs_quoted (unquoted_iff.1 hhead) (by decide) (by decide) (by decide) (by decide)).trans
    (hechoes.directs_iff h)

end

section
variable {e : FileEntry} (he : unquoted e.path = true ∧ unquoted e.purpose = true)
include he

theorem unquoted_databaseText : unquoted (databaseText a e) = true := by
  unfold databaseText
  simp only [unquoted_append, Bool.and_eq_true, he.1, he.2, h.backend, h.database, and_true]
  and_intros <;> exact unquoted_literal rfl (by decide)

theorem unquoted_modelsText : unquoted (modelsText a e) = true := by
  unfold modelsText
  simp only [unquoted_append, Bool.and_eq_true, he.1, he.2, h.backend, and_true]
  and_intros <;> exact unquoted_literal rfl (by decide)

theorem unquoted_serverText : unquoted (serverText a e) = true := by
  have hdir : unquoted (if (parentDir e.path).isEmpty then "the backend" else parentDir e.path) = true := by
    split
    · decide
    · exact unquoted_parentDir he.1
  unfold serverText
  split
  all_goals
    simp only [unquoted_append, Bool.and_eq_true, he.1, he.2, h.backend, unquoted_endpointList h, hdir, and_true]
    and_intros <;> exact unquoted_literal rfl (by decide)

theorem echoes_pageText : Echoes a (pageText a e) := by
  have hlinks : unquoted (if (linkedFiles a e.path).isEmpty then ""
      else " and link " ++ " and ".intercalate (linkedFiles a e.path)) = true := by
    split
    · decide
    · simp only [unquoted_append, Bool.and_eq_true, unquoted_linkedFiles h, and_true]
      exact unquoted_literal rfl (by decide)
  unfold pageText
  repeat refine .after ?_ (by first | simp only [hlinks, he.2] | exact unquoted_literal rfl (by decide))
  refine .before ?_ .sentence
  simp only [unquoted_append, Bool.and_eq_true, he.1, h.frontend, and_true]
  and_intros <;> exact unquoted_literal rfl (by decide)

omit h in
theorem echoes_styleText : Echoes a (styleText a e) := by
  unfold styleText
  repeat refine .after ?_ (by first | simp only [he.2] | exact unquoted_literal rfl (by decide))
  refine .before ?_ .sentence
  simp only [unquoted_append, Bool.and_eq_true, he.1, and_true]
  and_intros <;> exact unquoted_literal rfl (by decide)

theorem echoes_scriptText : Echoes a (scriptText a e) := by
  have hcalls : unquoted (if a.hasBackend then
      ", calling the backend with fetch() at http://localhost:8000 (" ++ endpointList a ++
        ") and showing errors to the user"
      else "; everything runs in the browser with no network requests") = true := by
    split
    · simp only [unquoted_append, Bool.and_eq_true, unquoted_endpointList h, and_true]
      and_intros <;> exact unquoted_literal rfl (by decide)
    · exact unquoted_literal rfl (by decide)
  unfold scriptText
  repeat refine .after ?_ (by first | simp only [hcalls, he.2] | exact unquoted_literal rfl (by decide))
  refine .before ?_ .sentence
  simp only [unquoted_append, Bool.and_eq_true, he.1, and_true]
  and_intros <;> exact unquoted_literal rfl (by decide)

end

theorem echoes_otherText {f : PlannedFile}
    (he : unquoted f.entry.path = true ∧ unquoted f.entry.purpose = true) : Echoes a (otherText a f) := by
  have hside : unquoted (if a.hasBackend then "full-stack" else "client-side") = true := by
    cases a.hasBackend <;> exact unquoted_literal rfl (by decide)
  unfold otherText
  cases f.role with
  | backend =>
    refine .before ?_ .sentence
    simp only [unquoted_append, Bool.and_eq_true, he.1, he.2, hside, h.backend, and_true]
    and_intros <;> exact unquoted_literal rfl (by decide)
  | frontend =>
    refine .before ?_ .sentence
    simp only [unquoted_append, Bool.and_eq_true, he.1, he.2, hside, h.frontend, and_true]
    and_intros <;> exact unquoted_literal rfl (by decide)

/-- Whether the text for a file repeats the overview: all do but those for the modules of the server. -/
def repeatsOverview (f : PlannedFile) : Bool :=
  let name := baseName f.entry.path
  name = "requirements.txt" || name = "package.json" || name = "README.md" ||
    !(f.phase == .backendApi ||
      f.phase == .backendCore && (startsWith name "database" || startsWith name "models"))

/-- The description of a file's task holds a directive exactly if it repeats the first sentence of the
overview and this holds one. -/
theorem isSome_directive_fileText {f : PlannedFile}
    (he : unquoted f.entry.path = true ∧ unquoted f.entry.purpose = true) :
    (directive? (fileText a f)).isSome =
      (repeatsOverview f && (directive? (firstSentence a.overview)).isSome) := by
  have hechoed : ∀ s, Echoes a s →
      (directive? s).isSome = (directive? (firstSentence a.overview)).isSome := fun _ hs =>
    hs.isSome_directive?_eq h
  have hquiet : ∀ s, unquoted s = true → (directive? s).isSome = false := by
    intro s hs
    rw [Bool.eq_false_iff, Ne, isSome_directive?]
    exact not_directs (unquoted_iff.1 hs)
  have hpackage : (directive? (packageText a f.entry.path)).isSome =
      (directive? (firstSentence a.overview)).isSome := by
    rw [Bool.eq_iff_iff, isSome_directive?, isSome_directive?, directs_packageText h he.1]
  have hother := hechoed _ (echoes_otherText h he)
  unfold fileText repeatsOverview
  simp only
  by_cases hrequirements : baseName f.entry.path = "requirements.txt"
  · simp [hrequirements, hechoed _ (echoes_requirementsText h he.1)]
  by_cases hpackages : baseName f.entry.path = "package.json"
  · simp [hpackages, hpackage]
  by_cases hreadme : baseName f.entry.path = "README.md"
  · simp [hreadme, hechoed _ (echoes_readmeText h he.1)]
  rw [if_neg hrequirements, if_neg hpackages, if_neg hreadme]
  cases hphase : f.phase with
  | backendCore =>
    by_cases hdatabase : startsWith (baseName f.entry.path) "database" = true
    · simp [hrequirements, hpackages, hreadme, hdatabase, hquiet _ (unquoted_databaseText h he)]
    by_cases hmodels : startsWith (baseName f.entry.path) "models" = true
    · simp [hrequirements, hpackages, hreadme, hdatabase, hmodels, hquiet _ (unquoted_modelsText h he)]
    · simp [hrequirements, hpackages, hreadme, hdatabase, hmodels, hother]
  | backendApi => simp [hrequirements, hpackages, hreadme, hquiet _ (unquoted_serverText h he)]
  | frontendStructure => simp [hechoed _ (echoes_pageText h he)]
  | frontendStyle => simp [hechoed _ (echoes_styleText (a := a) he)]
  | frontendLogic => simp [hechoed _ (echoes_scriptText h he)]
  | setup | docs => simp [hother]

end

end BuildLoop.Plan
