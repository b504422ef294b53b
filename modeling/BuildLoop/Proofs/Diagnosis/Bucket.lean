import BuildLoop.Proofs.Diagnosis.Finding
import BuildLoop.Proofs.Text.Lines
import BuildLoop.Request.Design
import BuildLoop.Verification.Output

/-!
# Classes and faults

An output is of the first class that one of its lines shows. It shows a class if it holds one of the words
of the class that hold no end of a line, although they are looked for line by line:

    classifyOutput s = some (kind, l)   →   s shows kind, and no class before it (shows_of_classifyOutput)
    s holds a word of kind              →   s shows kind                                 (shows_of_word)

A check that fails looks for classes of errors line by line, a diagnosis for faults in the logs as a
whole, each with words and an order of its own: a Node module that the logs name hides what else they
show, and some words of a class are words of no fault. What is diagnosed is the fault that corresponds to
the class of the logs exactly if the logs spell the class the way a diagnosis reads it:

    classifyOutput logs = some (kind, line)
      →   (the fault of `logs` corresponds to `kind`   ↔   `logs` spells `kind`)        (corresponds_iff)
-/

namespace BuildLoop.Verification

open Text Pattern

variable {logs line : String} {kind : FatalKind}

/-! ## Classes that output shows -/

/-- Whether some line of an output shows an error of a class. -/
def Shows (logs : String) (kind : FatalKind) : Prop :=
  ∃ l ∈ linesOf logs, test (signOf kind) l.toList = true

/-- The classes that are looked for before a class. -/
def before (kind : FatalKind) : List FatalKind := FatalKind.all.takeWhile (· != kind)

theorem shows_of_classifyOutput (h : classifyOutput logs = some (kind, line)) :
    Shows logs kind ∧ ∀ k ∈ before kind, ¬ Shows logs k := by
  obtain ⟨earlier, k, later, hall, hfound, hnone⟩ := List.findSome?_eq_some_iff.1 h
  obtain ⟨l, hl, heq⟩ := Option.map_eq_some_iff.1 hfound
  obtain ⟨rfl, -⟩ := Prod.mk.inj heq
  have hbefore : before k = earlier := by
    have hne : ∀ j ∈ earlier, (j != k) = true := by
      intro j hj
      rw [bne_iff_ne]
      rintro rfl
      rw [hnone j hj] at hfound
      cases hfound
    rw [before, hall, List.takeWhile_append_of_pos hne, List.takeWhile_cons_of_neg (by simp), List.append_nil]
  have hshown : test (signOf k) l.toList = true := by simpa using List.find?_some hl
  refine ⟨⟨l, List.mem_of_find?_eq_some hl, hshown⟩, ?_⟩
  rintro j hj ⟨l', hl', htest⟩
  have hnot := List.find?_eq_none.1 (Option.map_eq_none_iff.1 (hnone j (hbefore ▸ hj)))
  exact hnot l' hl' htest

/-- A time limit shows in no output. -/
theorem not_shows_timeout : ¬ Shows logs .timeout := by
  rintro ⟨l, -, h⟩
  obtain ⟨u, s, t, -, htakes⟩ := test_iff.1 h
  obtain ⟨p, hp, -⟩ := takes_any.1 htakes
  cases hp

/-! ## Words on lines -/

theorem infix_of_mem_linesOf {l : String} (h : l ∈ linesOf logs) : l.toList <:+: logs.toList := by
  obtain ⟨q, hq, rfl⟩ := List.mem_map.1 h
  rw [String.toList_ofList]
  exact infix_of_mem_lines hq

/-- What shows a class shows it in the text as a whole, if it does not look around itself. -/
theorem Shows.test (h : Shows logs kind) (hloose : Loose (signOf kind)) :
    Pattern.test (signOf kind) logs.toList = true := by
  obtain ⟨l, hl, htest⟩ := h
  exact hloose.test_of_part (infix_of_mem_linesOf hl) htest

/-- Whether a word holds something, and no end of a line. -/
def IsOneLine (w : String) : Prop := w.toList ≠ [] ∧ '\n' ∉ w.toList ∧ '\r' ∉ w.toList

instance (w : String) : Decidable (IsOneLine w) :=
  inferInstanceAs (Decidable (w.toList ≠ [] ∧ '\n' ∉ w.toList ∧ '\r' ∉ w.toList))

/-- A word among the signs of a class shows the class wherever it occurs. -/
theorem shows_of_word {signs : List Pattern} {w : String} (hsigns : signOf kind = any signs) (hw : lit w ∈ signs)
    (hword : IsOneLine w) (h : w.toList <:+: logs.toList) :
    Shows logs kind := by
  obtain ⟨l, hl, u, t, hut⟩ := exists_mem_lines hword.1 hword.2.1 hword.2.2 h
  refine ⟨String.ofList l, List.mem_map_of_mem hl, ?_⟩
  rw [hsigns, String.toList_ofList, test_iff]
  exact ⟨u, w.toList, t, by rw [← hut, List.append_assoc], takes_any.2 ⟨lit w, hw, takes_lit.2 rfl⟩⟩

end BuildLoop.Verification

namespace BuildLoop.Diagnosis

open Text Pattern Verification Design

variable {logs line : String} {a : Architecture} {kind : FatalKind}

/-! ## Correspondence -/

/-- Whether the module that logs name is a file of the manifest. -/
def namesOwn (logs : String) (a : Architecture) : Bool :=
  match pythonNamed? logs, nodeNamed? logs with
  | some module, _ => isOwnModule a module
  | none, some specifier => (nodeFinding a specifier).file.any a.files.paths.contains
  | none, none => false

/-- Whether a fault of logs corresponds to a class. To a missing dependency there correspond also a missing
file if the module is a file of the manifest, and the environment if a program could not be started. -/
def corresponds (logs : String) (a : Architecture) : FatalKind → Fault → Bool
  | .missingDependency, fault => fault == .missingDependency || (fault == .missingFile && namesOwn logs a) ||
    (fault == .configurationError && contains logs "could not be started")
  | .syntaxError, fault => fault == .syntaxError
  | .undefinedReference, fault => fault == .importError
  | .missingFile, fault => fault == .missingFile
  | .portConflict, fault => fault == .configurationError
  | .timeout, _ => false

/-- Whether logs spell a class the way a diagnosis reads it. -/
def spells (logs : String) (a : Architecture) : FatalKind → Bool
  | .missingDependency => (pythonNamed? logs).isSome || match nodeNamed? logs with
    | some specifier => !isRelative specifier || namesOwn logs a
    | none => contains logs "could not be started"
  | .syntaxError => (nodeNamed? logs).isNone && (test brokenFile logs.toList || holdsAny syntaxWords logs)
  | .undefinedReference | .portConflict => (nodeNamed? logs).isNone
  | .missingFile => match nodeNamed? logs with
    | some specifier => isRelative specifier
    | none => test missingFile logs.toList || test missingPath logs.toList
  | .timeout => false

/-! ## What a class that does not show leaves out -/

theorem holdsAny_eq_false {signs : List Pattern} {ws : List String} (hsigns : signOf kind = any signs)
    (hws : ∀ w ∈ ws, lit w ∈ signs) (hwords : ∀ w ∈ ws, IsOneLine w)
    (h : ¬ Shows logs kind) : holdsAny ws logs = false := by
  rw [holdsAny, List.any_eq_false]
  intro w hw hcontains
  exact h (shows_of_word hsigns (hws w hw) (hwords w hw) (contains_iff.1 hcontains))

/-- Nothing is found that begins with a word of a class that does not show. -/
theorem find_eq_none_of_not_shows {signs : List Pattern} {w v : String} {q : Pattern}
    (hsigns : signOf kind = any signs) (hw : lit w ∈ signs) (hword : IsOneLine w) (hv : w.toList <+: v.toList)
    (h : ¬ Shows logs kind) : find (seq (lit v) q) logs.toList = none :=
  find_eq_none fun hinfix => h (shows_of_word hsigns hw hword (hv.isInfix.trans hinfix))

theorem of_not_shows_missingDependency (h : ¬ Shows logs .missingDependency) :
    pythonNamed? logs = none ∧ contains logs "could not be started" = false := by
  constructor
  · rw [pythonNamed?, Option.map_eq_none_iff]
    exact find_eq_none_of_not_shows rfl (w := "No module named") (by simp) (by decide) (by decide) h
  · have hstart : holdsAny ["could not be started"] logs = false := holdsAny_eq_false rfl (by simp) (by decide) h
    simpa [holdsAny] using hstart

theorem of_not_shows_syntaxError (h : ¬ Shows logs .syntaxError) :
    test brokenFile logs.toList = false ∧ holdsAny syntaxWords logs = false := by
  have hsigns : signOf .syntaxError = any (syntaxWords.map lit ++ [lit "syntax error in "]) := rfl
  constructor
  · rw [test, Option.isSome_eq_false_iff, Option.isNone_iff_eq_none]
    exact find_eq_none_of_not_shows hsigns (w := "syntax error in ") (by simp) (by decide) List.prefix_rfl h
  · exact holdsAny_eq_false hsigns (fun w hw => List.mem_append_left _ (List.mem_map_of_mem hw)) (by decide) h

theorem holdsAny_referenceWords : holdsAny referenceWords logs = true ↔ Shows logs .undefinedReference := by
  have hsigns : signOf .undefinedReference = any (referenceWords.map lit) := rfl
  constructor
  · intro h
    by_contra hnot
    rw [holdsAny_eq_false hsigns (fun w hw => List.mem_map_of_mem hw) (by decide) hnot] at h
    cases h
  · intro h
    have hloose : Loose (signOf .undefinedReference) := hsigns ▸ loose_any fun p hp => by
      obtain ⟨w, -, rfl⟩ := List.mem_map.1 hp
      exact loose_lit w
    obtain ⟨u, s, t, hlogs, htakes⟩ := test_iff.1 (h.test hloose)
    obtain ⟨p, hp, htakes⟩ := takes_any.1 (hsigns ▸ htakes)
    obtain ⟨w, hw, rfl⟩ := List.mem_map.1 hp
    obtain rfl := takes_lit.1 htakes
    rw [holdsAny, List.any_eq_true]
    exact ⟨w, hw, contains_iff.2 ⟨u, t, by rw [hlogs, List.append_assoc]⟩⟩

theorem of_not_shows_missingFile (h : ¬ Shows logs .missingFile) :
    test missingFile logs.toList = false ∧ test missingPath logs.toList = false := by
  constructor
  · rw [test, Option.isSome_eq_false_iff, Option.isNone_iff_eq_none]
    exact find_eq_none_of_not_shows rfl (w := "missing file: ") (by simp) (by decide) List.prefix_rfl h
  · rw [test, Option.isSome_eq_false_iff, Option.isNone_iff_eq_none]
    exact find_eq_none_of_not_shows rfl (w := "No such file or directory") (by simp) (by decide) (by decide) h

theorem portInUse_of_shows (h : Shows logs .portConflict) : test portInUse logs.toList = true := by
  refine h.test (loose_any fun p hp => ?_)
  rcases List.mem_pair.1 hp with rfl | rfl
  · exact loose_word _
  · exact loose_word _

/-! ## Agreement -/

/-- A missing dependency is read off a module that is named, and where none is, off a program that could not
be started. -/
theorem corresponds_missingDependency (logs : String) (a : Architecture) :
    corresponds logs a .missingDependency (faultOf logs a) = spells logs a .missingDependency := by
  unfold corresponds spells namesOwn faultOf
  rw [Bool.eq_iff_iff]
  cases pythonNamed? logs with
  | some module => cases isOwnModule a module <;> simp
  | none =>
    cases nodeNamed? logs with
    | some specifier => cases hrelative : isRelative specifier <;> simp [hrelative]
    | none =>
      by_cases hstart : contains logs "could not be started" = true
      · simp [faultOfWords, hstart]
      · have hne : faultOfWords logs ≠ .missingDependency := by
          unfold faultOfWords
          split_ifs
          all_goals decide
        simp [hstart, hne]

/-- Of the other classes, a Node module that is named is read only as a missing file. -/
theorem corresponds_of_nodeNamed {specifier : String} (hkind : kind ≠ .missingDependency)
    (hpython : pythonNamed? logs = none) (hnode : nodeNamed? logs = some specifier) :
    corresponds logs a kind (faultOf logs a) = spells logs a kind := by
  have hfault : faultOf logs a = if isRelative specifier then .missingFile else .missingDependency := by
    rw [faultOf, hpython, hnode]
  rw [hfault]
  cases kind with
  | missingDependency => exact absurd rfl hkind
  | timeout => rfl
  | missingFile => cases hrelative : isRelative specifier <;> simp [corresponds, spells, hnode, hrelative]
  | _ => cases isRelative specifier <;> simp [corresponds, spells, hnode]

/-- Where no module is named, the words of a class that shows, and of none before it, are those of its fault. -/
theorem corresponds_of_words (hkind : kind ≠ .missingDependency) (hnode : nodeNamed? logs = none)
    (hstart : contains logs "could not be started" = false) (hshows : Shows logs kind)
    (hbefore : ∀ k ∈ before kind, ¬ Shows logs k) :
    corresponds logs a kind (faultOfWords logs) = spells logs a kind := by
  cases kind with
  | missingDependency => exact absurd rfl hkind
  | timeout => exact absurd hshows not_shows_timeout
  | syntaxError =>
    rw [spells, hnode]
    cases hspelt : test brokenFile logs.toList || holdsAny syntaxWords logs with
    | true => simp [corresponds, faultOfWords, hstart, hspelt]
    | false =>
      have hne : faultOfWords logs ≠ .syntaxError := by
        rw [faultOfWords, hstart, hspelt]
        split_ifs
        all_goals decide
      simp [corresponds, hne]
  | undefinedReference =>
    obtain ⟨hbroken, hsyntax⟩ := of_not_shows_syntaxError (hbefore _ (by decide))
    have hreference := holdsAny_referenceWords.2 hshows
    simp [corresponds, spells, faultOfWords, hnode, hstart, hbroken, hsyntax, hreference]
  | missingFile =>
    obtain ⟨hbroken, hsyntax⟩ := of_not_shows_syntaxError (hbefore _ (by decide))
    have hreference := mt holdsAny_referenceWords.1 (hbefore _ (by decide))
    rw [spells, hnode]
    cases hspelt : test missingFile logs.toList || test missingPath logs.toList with
    | true => simp [corresponds, faultOfWords, hstart, hbroken, hsyntax, hreference, hspelt]
    | false =>
      have hne : faultOfWords logs ≠ .missingFile := by
        rw [faultOfWords, hstart, hbroken, hsyntax, hspelt]
        split_ifs
        all_goals decide
      simp [corresponds, hne]
  | portConflict =>
    obtain ⟨hbroken, hsyntax⟩ := of_not_shows_syntaxError (hbefore _ (by decide))
    have hreference := mt holdsAny_referenceWords.1 (hbefore _ (by decide))
    obtain ⟨hfile, hpath⟩ := of_not_shows_missingFile (hbefore _ (by decide))
    have hport := portInUse_of_shows hshows
    simp [corresponds, spells, faultOfWords, hnode, hstart, hbroken, hsyntax, hreference, hfile, hpath, hport]

/-- Of logs that show a fatal class, the fault that is diagnosed corresponds to the class exactly if the logs
spell the class the way a diagnosis reads it. -/
theorem corresponds_iff (h : classifyOutput logs = some (kind, line)) (a : Architecture) :
    corresponds logs a kind (analyze logs a).kind = true ↔ spells logs a kind = true := by
  obtain ⟨hshows, hbefore⟩ := shows_of_classifyOutput h
  rw [kind_analyze, ← Bool.eq_iff_iff]
  by_cases hkind : kind = .missingDependency
  · rw [hkind, corresponds_missingDependency]
  · -- a missing dependency is looked for first, so no other class goes with the name of a Python module
    have hfirst : .missingDependency ∈ before kind := by
      revert hkind
      cases kind <;> decide
    obtain ⟨hpython, hstart⟩ := of_not_shows_missingDependency (hbefore _ hfirst)
    cases hnode : nodeNamed? logs with
    | some specifier => exact corresponds_of_nodeNamed hkind hpython hnode
    | none =>
      have hfault : faultOf logs a = faultOfWords logs := by rw [faultOf, hpython, hnode]
      rw [hfault]
      exact corresponds_of_words hkind hnode hstart hshows hbefore

/-- An application without a server. -/
def calculator : Architecture := clientOnly "simple calculator"

/-- A syntax error, which hides the undefined name before it and the missing file after it. -/
def brokenTrace : String := "NameError: name 'app'\nSyntaxError: invalid syntax\nmissing file: a.js"

theorem corresponds_brokenTrace :
    classifyOutput brokenTrace = some (.syntaxError, "SyntaxError: invalid syntax") ∧
      (analyze brokenTrace calculator).kind = .syntaxError := by
  have hclass : classifyOutput brokenTrace = some (.syntaxError, "SyntaxError: invalid syntax") := by decide
  have hspells : spells brokenTrace calculator .syntaxError = true := by decide
  exact ⟨hclass, beq_iff_eq.1 ((corresponds_iff hclass calculator).2 hspells)⟩

/-- A Node module that is missing hides a syntax error from a diagnosis, though not from a check. -/
def hidingTrace : String := "Error: Cannot find module './routes'\nSyntaxError: Unexpected token"

/-- The class and the fault also differ where the logs spell a class in words that a diagnosis does not read. -/
theorem hidingTrace_differs :
    ((classifyOutput hidingTrace).map (·.1) = some .syntaxError ∧
        (analyze hidingTrace calculator).kind = .missingFile ∧
        corresponds hidingTrace calculator .syntaxError .missingFile = false) ∧
      ((classifyOutput "sh: npm: command not found").map (·.1) = some .missingDependency ∧
        (analyze "sh: npm: command not found" calculator).kind = .runtimeError ∧
        corresponds "sh: npm: command not found" calculator .missingDependency .runtimeError = false) ∧
      (classifyOutput "ENOENT: data.db").map (·.1) = some .missingFile ∧
        (analyze "ENOENT: data.db" calculator).kind = .runtimeError ∧
        corresponds "ENOENT: data.db" calculator .missingFile .runtimeError = false := by
  decide

end BuildLoop.Diagnosis
