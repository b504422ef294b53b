import BuildLoop.Proofs.Plan.Layout
import BuildLoop.Proofs.Scaffold.Listed

/-!
# Manifests hold what the plan needs

A plan tells the packages of the backend in a sentence, with the application's own words around it, and the
template of a manifest takes them out of the description again. Nothing is lost on the way, added or put
into another order:

    requirements.txt   →   the packages, one to a line                            (render_requirements)
    package.json       →   JSON with the packages as the keys of its dependencies       (render_package)

A package may have full stops in it, as versions do, but cannot end with one; and neither the path of the
manifest nor the name of the backend may hold the marker of the list, which stands behind both.
-/

namespace BuildLoop.Plan

open Text Scaffold

variable {a : Architecture} {ts : List Task} {c : Context} {path : String}

/-- What stands before the lists in descriptions. -/
def listMarkers : List String := ["one package per line:", "dependencies:"]

/-! ## What the descriptions list -/

/-- What the text for the manifest of Python packages says before its marker. -/
def requirementsHead (a : Architecture) (path : String) : List Char :=
  "Create ".toList ++ (path.toList ++ (" listing the Python dependencies for the ".toList ++
    (a.stack.backend.toList ++ " backend, ".toList)))

theorem notMem_requirementsHead (hpath : ¬ "one package per line:".toList <:+: path.toList)
    (hlabel : ¬ "one package per line:".toList <:+: a.stack.backend.toList) :
    ¬ "one package per line:".toList <:+: requirementsHead a path := by
  -- the marker would begin and end in the path or in the label: the words between hold letters that it lacks
  have hwords : " listing the Python dependencies for the ".toList =
      " li".toList ++ 's' :: ("ting the Python dependencies for t".toList ++ 'h' :: "e ".toList) := by decide
  intro h
  have h := infix_of_head (c := 'o') (by decide) (by decide) h
  rcases infix_across hwords (by decide) (by decide) h with h | h | h
  · exact hpath (infix_of_last (c := ':') (by decide) (by decide) h)
  · exact not_infix_of_mem (c := ':') (by decide) (by decide) h
  · have h := infix_of_head (c := 'o') (by decide) (by decide) h
    exact hlabel (infix_of_last (c := ':') (by decide) (by decide) h)

theorem toList_requirementsText (a : Architecture) (path : String) :
    ∃ y, (requirementsText a path).toList = requirementsHead a path ++
      ("one package per line:".toList ++ ((' ' :: (", ".intercalate a.dependencies.backend).toList) ++
        (". ".toList ++ y))) := by
  have hmarker : " backend, one package per line: ".toList =
      " backend, ".toList ++ ("one package per line:".toList ++ [' ']) := by decide
  have hend : ". The app: ".toList = ". ".toList ++ "The app: ".toList := by decide
  refine ⟨"The app: ".toList ++ (firstSentence a.overview).toList, ?_⟩
  unfold requirementsText requirementsHead
  simp only [String.toList_append, hmarker, hend, List.append_assoc, List.cons_append, List.nil_append]

/-- What the text for the manifest of Node packages says before its marker. -/
def packageHead (a : Architecture) (path : String) : List Char :=
  "Create ".toList ++ (path.toList ++ (" for the ".toList ++ (a.stack.backend.toList ++
    " backend with \"main\": \"server.js\", a \"start\" script running 'node server.js', and ".toList)))

theorem notMem_packageHead (hpath : ¬ "dependencies:".toList <:+: path.toList)
    (hlabel : ¬ "dependencies:".toList <:+: a.stack.backend.toList) :
    ¬ "dependencies:".toList <:+: packageHead a path := by
  -- the marker holds no blank, so that it would stand in one of the words
  have hblank : ' ' ∉ "dependencies:".toList := by decide
  have hwords : " for the ".toList = [] ++ ' ' :: ("for the".toList ++ ' ' :: []) := by decide
  have hrest : " backend with \"main\": \"server.js\", a \"start\" script running 'node server.js', and ".toList =
      ' ' :: "backend with \"main\": \"server.js\", a \"start\" script running 'node server.js', and ".toList := by
    rw [String.toList_ofList, String.toList_ofList]
  have hafter : ¬ "dependencies:".toList <:+:
      "backend with \"main\": \"server.js\", a \"start\" script running 'node server.js', and ".toList := by
    rw [← occurs_iff, String.toList_ofList, String.toList_ofList]
    decide
  intro h
  rcases infix_across hwords hblank hblank (infix_of_head (c := 'd') (by decide) (by decide) h) with h | h | h
  · exact hpath (by rwa [List.append_nil] at h)
  · exact not_infix_of_mem (c := ':') (by decide) (by decide) h
  · exact (infix_append_of_eq hrest hblank h).elim hlabel hafter

theorem toList_packageText (a : Architecture) (path : String) :
    ∃ y, (packageText a path).toList = packageHead a path ++
      ("dependencies:".toList ++ ((' ' :: (", ".intercalate a.dependencies.backend).toList) ++
        (". ".toList ++ y))) := by
  have hmarker : "dependencies: ".toList = "dependencies:".toList ++ [' '] := by decide
  have hend : ". The app: ".toList = ". ".toList ++ "The app: ".toList := by decide
  refine ⟨"The app: ".toList ++ (firstSentence a.overview).toList, ?_⟩
  unfold packageText packageHead
  simp only [String.toList_append, hmarker, hend, List.append_assoc, List.cons_append, List.nil_append]

/-! ## What the templates write -/

/-- Whether no marker of a list stands in a text. -/
def Unmarked (s : String) : Prop := ∀ m ∈ listMarkers, contains s m = false

instance (s : String) : Decidable (Unmarked s) :=
  List.decidableBAll (contains s · = false) listMarkers

theorem Unmarked.notMem {s m : String} (h : Unmarked s) (hm : m ∈ listMarkers) : ¬ m.toList <:+: s.toList := by
  rw [← contains_iff, h m hm]
  exact Bool.false_ne_true

section
variable (hdeps : ∀ d ∈ a.dependencies.backend, IsListed d) (hlabel : Unmarked a.stack.backend) (hpath : Unmarked path)
include hdeps hlabel hpath

theorem listedAfter_requirementsText :
    listedAfter (requirementsText a path) "one package per line:" = a.dependencies.backend := by
  obtain ⟨y, hy⟩ := toList_requirementsText a path
  exact listedAfter_eq (w := "one package per line".toList) (c := ':') (by decide) (by decide)
    (notMem_requirementsHead (hpath.notMem (by decide)) (hlabel.notMem (by decide))) hdeps hy

theorem listedAfter_packageText :
    listedAfter (packageText a path) "dependencies:" = a.dependencies.backend := by
  obtain ⟨y, hy⟩ := toList_packageText a path
  exact listedAfter_eq (w := "dependencies".toList) (c := ':') (by decide) (by decide)
    (notMem_packageHead (hpath.notMem (by decide)) (hlabel.notMem (by decide))) hdeps hy

/-- The manifest of Python packages is written with a line for each of them. -/
theorem render_requirements (hname : baseName c.path = "requirements.txt")
    (hdescription : c.description = requirementsText a path) :
    render c = .ok (if a.dependencies.backend = [] then "# No third-party dependencies\n"
      else unlines a.dependencies.backend) := by
  have hlower : lowercase "requirements.txt" = "requirements.txt" := by decide +kernel
  unfold render requirements
  simp only [hname, hlower, hdescription, listedAfter_requirementsText hdeps hlabel hpath, List.isEmpty_iff, if_true]

/-- The manifest of Node packages is written as JSON that has them as keys. -/
theorem render_package (hname : baseName c.path = "package.json")
    (hdescription : c.description = packageText a path) :
    ∃ body ms ds, render c = .ok body ∧ Json.parse body = .ok (.object ms) ∧
      Json.lookup "dependencies" ms = some (.object ds) ∧ (ds.map Prod.fst).Nodup ∧
        ∀ k, k ∈ ds.map Prod.fst ↔ k ∈ a.dependencies.backend := by
  have hlower : lowercase "package.json" = "package.json" := by decide +kernel
  have hother : "package.json" ≠ "requirements.txt" := by decide
  obtain ⟨ms, ds, hparse, hlookup, hnodup, hkeys⟩ := parse_packageManifest c (appTitle c.description)
  rw [hdescription, listedAfter_packageText hdeps hlabel hpath] at hkeys
  refine ⟨_, ms, ds, ?_, hparse, hlookup, hnodup, hkeys⟩
  unfold render
  simp only [hname, hlower, if_neg hother, if_true]

end

/-- Whether what a template writes is the manifest of Python packages, or of Node packages. -/
def Declares (path : String) (packages : List String) (written : Except String String) : Prop :=
  (baseName path = "requirements.txt" → written = .ok (if packages = [] then "# No third-party dependencies\n"
    else unlines packages)) ∧
  (baseName path = "package.json" → ∃ body ms ds, written = .ok body ∧ Json.parse body = .ok (.object ms) ∧
    Json.lookup "dependencies" ms = some (.object ds) ∧ (ds.map Prod.fst).Nodup ∧
      ∀ k, k ∈ ds.map Prod.fst ↔ k ∈ packages)

/-- From the task of a manifest its template takes the packages of the backend, all of them and no others. -/
theorem build_declares (h : build a = .ok ts) (hdeps : ∀ d ∈ a.dependencies.backend, IsListed d)
    (hlabel : Unmarked a.stack.backend) : ∃ steps, LaidOut a ts steps ∧
      ∀ s ∈ steps, Unmarked s.file.entry.path → ∀ c : Context, c.path = s.file.entry.path →
        c.description = s.write.description → Declares c.path a.dependencies.backend (render c) := by
  obtain ⟨steps, hlaid⟩ := (build_laid_out a).2 ts h
  refine ⟨steps, hlaid, fun s hs hpath c hcpath hcdescription => ⟨fun hname => ?_, fun hname => ?_⟩⟩
  · have htext : fileText a s.file = requirementsText a s.file.entry.path := by
      unfold fileText
      simp only [hcpath ▸ hname, if_true]
    exact render_requirements hdeps hlabel hpath hname (by rw [hcdescription, (hlaid.write s hs).1, htext])
  · have htext : fileText a s.file = packageText a s.file.entry.path := by
      have hother : "package.json" ≠ "requirements.txt" := by decide
      unfold fileText
      simp only [hcpath ▸ hname, if_neg hother, if_true]
    exact render_package hdeps hlabel hpath hname (by rw [hcdescription, (hlaid.write s hs).1, htext])

/-- A server whose packages have versions, with a manifest of either kind. -/
def pinnedServer : Architecture where
  stack := ⟨"Flask", "none", "SQLite", []⟩
  overview := "A list of items. Its dependencies: none to speak of."
  files := ⟨[⟨"backend/main.py", "Server"⟩, ⟨"backend/requirements.txt", "Packages"⟩,
    ⟨"backend/package.json", "Packages"⟩], [], []⟩
  dependencies := ⟨["flask==3.0.3", "flask-cors"], []⟩
  endpoints := []
  dataFlow := "The server keeps the items."
  instructions := "Run backend/main.py."

theorem build_pinnedServer : ∃ ts, build pinnedServer = .ok ts := by
  refine ((build_laid_out pinnedServer).1).2 ⟨by decide, .inl (by decide +kernel)⟩

/-- Its packages are written to both. -/
theorem build_declares_pinnedServer : ∃ ts, build pinnedServer = .ok ts ∧ ∃ steps, LaidOut pinnedServer ts steps ∧
    (∃ s ∈ steps, render ⟨"backend/requirements.txt", s.write.description, [], [], ""⟩ =
      .ok (unlines ["flask==3.0.3", "flask-cors"])) ∧
    ∃ s ∈ steps, Declares "backend/package.json" ["flask==3.0.3", "flask-cors"]
      (render ⟨"backend/package.json", s.write.description, [], [], ""⟩) := by
  obtain ⟨ts, hts⟩ := build_pinnedServer
  obtain ⟨steps, hlaid, hdeclares⟩ := build_declares hts (by decide) (by decide)
  have hstep : ∀ e ∈ pinnedServer.files.backend, ∃ s ∈ steps, s.file.entry = e := by
    intro e he
    have hplace : place pinnedServer (e, some .backend) ∈ steps.map (·.file) := by
      refine hlaid.files.mem_iff.2 (List.mem_map_of_mem ?_)
      exact List.mem_append_left _ (List.mem_append_left _ (List.mem_map_of_mem he))
    obtain ⟨s, hs, hfile⟩ := List.mem_map.1 hplace
    exact ⟨s, hs, by rw [hfile]; rfl⟩
  obtain ⟨s, hs, hentry⟩ := hstep ⟨"backend/requirements.txt", "Packages"⟩ (by decide)
  obtain ⟨t, ht, hother⟩ := hstep ⟨"backend/package.json", "Packages"⟩ (by decide)
  refine ⟨ts, hts, steps, hlaid, ⟨s, hs, ?_⟩, t, ht, ?_⟩
  · have hwritten := hdeclares s hs (by rw [hentry]; decide)
      ⟨"backend/requirements.txt", s.write.description, [], [], ""⟩ (by rw [hentry]) rfl
    have hname : baseName "backend/requirements.txt" = "requirements.txt" := by decide
    exact hwritten.1 hname
  · exact hdeclares t ht (by rw [hother]; decide)
      ⟨"backend/package.json", t.write.description, [], [], ""⟩ (by rw [hother]) rfl

end BuildLoop.Plan
