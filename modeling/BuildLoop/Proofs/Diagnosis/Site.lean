import BuildLoop.Diagnosis.Finding
import BuildLoop.Proofs.Files.Locate
import BuildLoop.Proofs.Verification.Site
import BuildLoop.Request.Design

/-!
# What is found in the logs of a site's check

The logs of a check that fails name the file at which it fails. The file that is found there is not
this one but the one of the manifest that it is taken to mean:

    checkSite … fails at path   →   (analyze logs a).file = some (manifestPath a path)     (site_analyzed)
    manifestPath a path = path  ↔   path is listed before every file that it ends with, or it has no
                                    directory and no file of the manifest has its name  (manifestPath_eq_self)
-/

namespace BuildLoop.Diagnosis

open Text Pattern Verification

variable {a : Architecture} {path : String} {done : List String}

/-! ## Files of the manifest -/

/-- Whether a path ends with another, as a path. -/
def EndsWith (path entry : String) : Prop := '/' :: entry.toList <:+ path.toList

/-- Whether a path means a file of the manifest: it is that file or ends with it. -/
def means (path entry : String) : Bool :=
  path.toList == entry.toList || ('/' :: entry.toList).isSuffixOf path.toList

theorem means_iff {entry : String} : means path entry = true ↔ path = entry ∨ EndsWith path entry := by
  rw [means, Bool.or_eq_true, beq_iff_eq, String.toList_inj, List.isSuffixOf_iff_suffix, EndsWith]

theorem manifestPath_of_plain (hblank : ∀ c ∈ path.toList, isBlank c = false) (hslash : '\\' ∉ path.toList)
    (hhere : ¬ "./".toList <+: path.toList) : manifestPath a path =
      ((a.files.paths.find? (means path)).or
        (a.files.paths.find? (baseName · == baseName path))).getD (baseName path) := by
  have hdrop : dropHere path.toList = path.toList := by
    unfold dropHere
    split
    · next r hr => exact absurd ⟨r, hr.symm⟩ hhere
    · rfl
  have hmap : path.toList.map (fun c => if c = '\\' then '/' else c) = path.toList := by
    refine (List.map_congr_left fun c hc => if_neg ?_).trans (List.map_id _)
    rintro rfl
    exact hslash hc
  have htrim : trim path.toList = path.toList := trim_eq_self
    (fun c hc => hblank c (List.mem_of_head? hc)) fun c hc => hblank c (List.mem_of_getLast? hc)
  unfold manifestPath
  rw [htrim, hdrop, hmap]
  simp only [String.ofList_toList]
  unfold means
  split
  · next p hp => rw [hp, Option.some_or, Option.getD_some]
  · next hp => rw [hp, Option.none_or]

/-- A path comes back if it is listed before every file that it ends with, or if it has no directory
and no file has its name. -/
theorem manifestPath_eq_self (hblank : ∀ c ∈ path.toList, isBlank c = false) (hslash : '\\' ∉ path.toList)
    (hhere : ¬ "./".toList <+: path.toList) : manifestPath a path = path ↔
      (∃ before after, a.files.paths = before ++ path :: after ∧ ∀ p ∈ before, ¬ EndsWith path p) ∨
      '/' ∉ path.toList ∧ ∀ p ∈ a.files.paths, baseName p ≠ path := by
  rw [manifestPath_of_plain hblank hslash hhere]
  cases hfind : a.files.paths.find? (means path) with
  | some q =>
    obtain ⟨hq, before, after, hpaths, hbefore⟩ := List.find?_eq_some_iff_append.1 hfind
    rw [Option.some_or, Option.getD_some]
    constructor
    · rintro rfl
      refine .inl ⟨before, after, hpaths, fun p hp h => ?_⟩
      have hnot := hbefore p hp
      rw [means_iff.2 (.inr h)] at hnot
      cases hnot
    · rintro (⟨before', after', hpaths', hbefore'⟩ | ⟨hdir, hnames⟩)
      · rw [hpaths', List.find?_append, List.find?_cons_of_pos (means_iff.2 (.inl rfl))] at hfind
        cases hfirst : before'.find? (means path) with
        | none =>
          rw [hfirst] at hfind
          exact (Option.some.inj hfind).symm
        | some r =>
          rw [hfirst] at hfind
          obtain rfl := Option.some.inj hfind
          rcases means_iff.1 (List.find?_some hfirst) with h | h
          · exact h.symm
          · exact absurd h (hbefore' r (List.mem_of_find?_eq_some hfirst))
      · rcases means_iff.1 hq with rfl | h
        · exact absurd (baseName_eq_self.2 hdir) (hnames _ (List.mem_of_find?_eq_some hfind))
        · exact absurd (h.subset List.mem_cons_self) hdir
  | none =>
    have hnone : ∀ p ∈ a.files.paths, ¬ (path = p ∨ EndsWith path p) := fun p hp h =>
      List.find?_eq_none.1 hfind p hp (means_iff.2 h)
    rw [Option.none_or]
    constructor
    · intro h
      cases hname : a.files.paths.find? (baseName · == baseName path) with
      | some r =>
        rw [hname, Option.getD_some] at h
        exact absurd (.inl h.symm) (hnone r (List.mem_of_find?_eq_some hname))
      | none =>
        rw [hname, Option.getD_none] at h
        refine .inr ⟨baseName_eq_self.1 h, fun p hp hsame => ?_⟩
        exact List.find?_eq_none.1 hname p hp (beq_iff_eq.2 (hsame.trans h.symm))
    · rintro (⟨before, after, hpaths, -⟩ | ⟨hdir, hnames⟩)
      · exact absurd (.inl rfl) (hnone path (by simp [hpaths]))
      · have hbase := baseName_eq_self.2 hdir
        have hname : a.files.paths.find? (baseName · == baseName path) = none := by
          rw [List.find?_eq_none]
          intro p hp h
          exact hnames p hp ((beq_iff_eq.1 h).trans hbase)
        rw [hname, Option.getD_none, hbase]

/-! ## The lines before the last -/

/-- A path whose name the logs can hold: one word without a colon, without the words for other faults,
of a file that is no JSON. -/
structure Legible (path : String) : Prop where
  nonempty : path.toList ≠ []
  oneWord : ∀ c ∈ path.toList, isBlank c = false ∧ c ≠ ':'
  wordless : ∀ w ∈ syntaxWords ++ referenceWords, ¬ w.toList <:+: path.toList
  noJson : extension (lowercase path) ≠ "json"

theorem Legible.space_notMem (h : Legible path) : ' ' ∉ path.toList := fun hmem =>
  absurd (h.oneWord ' ' hmem).1 (by decide)

section
variable {w : List Char} (hline : '\n' ∉ w) (hdone : ∀ path ∈ done, ¬ w <:+: ("ok: " ++ path).toList)
include hline hdone

theorem infix_of_passedText {s : List Char} (h : w <:+: (passedText done).toList ++ s) : w <:+: s := by
  induction done with
  | nil => simpa [passedText] using h
  | cons path done ih =>
    have hjoin : (passedText (path :: done)).toList ++ s =
        ("ok: " ++ path).toList ++ '\n' :: ((passedText done).toList ++ s) := by
      simp [passedText, String.join_cons]
    rw [hjoin, infix_append_cons hline] at h
    rcases h with h | h
    · exact absurd h (hdone path List.mem_cons_self)
    · exact ih (fun p hp => hdone p (List.mem_cons_of_mem _ hp)) h

/-- What no line holds does not begin on one of them either. -/
theorem not_prefix_of_passedText {t x y : List Char} (hsplit : (passedText done).toList = x ++ y)
    (hy : y ≠ []) : ¬ w <+: y ++ t := by
  rcases List.eq_nil_or_concat done with rfl | ⟨done, path, rfl⟩
  · have hnil : x ++ y = [] := by simpa [passedText] using hsplit.symm
    exact absurd (List.append_eq_nil_iff.1 hnil).2 hy
  rw [List.concat_eq_append] at hsplit hdone
  have hlast : (passedText (done ++ [path])).toList =
      ((passedText done).toList ++ ("ok: " ++ path).toList) ++ ['\n'] := by
    simp [passedText]
  rw [hlast] at hsplit
  refine not_prefix_of_append hline (fun h => ?_) hsplit hy
  have hin := infix_of_passedText hline (fun p hp => hdone p (List.mem_append_left _ hp)) h
  exact hdone path (by simp) hin

end

theorem not_infix_okLine {w : List Char} (hw : 2 ≤ w.count ' ') (h : Legible path) :
    ¬ w <:+: ("ok: " ++ path).toList := by
  refine not_infix_of_count (c := ' ') (Nat.lt_of_lt_of_le ?_ hw)
  rw [String.toList_append, List.count_append, List.count_eq_zero.2 h.space_notMem]
  decide

/-! ## The last line -/

/-- The words that other faults are looked for by, before those of a site. -/
def importTexts : List String := ["No module named '", "Cannot find module '", "could not be started"]

theorem importTexts_absent {logs : String} (h : ∀ w ∈ importTexts, ¬ w.toList <:+: logs.toList) :
    find pythonModule logs.toList = none ∧ find nodeModule logs.toList = none ∧
      contains logs "could not be started" = false := by
  simp only [importTexts, List.forall_mem_cons] at h
  refine ⟨find_eq_none h.1, find_eq_none h.2.1, ?_⟩
  rw [Bool.eq_false_iff, Ne, contains_iff]
  exact h.2.2.1

theorem not_infix_missing {w : List Char} (hw : 3 ≤ w.count ' ') (h : Legible path) :
    ¬ w <:+: "missing file: ".toList ++ path.toList := by
  refine not_infix_of_count (c := ' ') (Nat.lt_of_lt_of_le ?_ hw)
  rw [List.count_append, List.count_eq_zero.2 h.space_notMem]
  decide

theorem not_infix_words (hdone : ∀ p ∈ done, Legible p) (h : Legible path) :
    ∀ w ∈ syntaxWords ++ referenceWords,
      ¬ w.toList <:+: (passedText done).toList ++ ("missing file: ".toList ++ path.toList) := by
  have hkinds : ∀ w ∈ syntaxWords ++ referenceWords, '\n' ∉ w.toList ∧
      (' ' ∉ w.toList ∧ ¬ w.toList <:+: "ok:".toList ∧ ¬ w.toList <:+: "missing".toList ∧
          ¬ w.toList <:+: "file:".toList ∨
        w = "is not defined" ∨ 3 ≤ w.toList.count ' ') := by decide +kernel
  intro w hw hin
  obtain ⟨hline, hkind⟩ := hkinds w hw
  have hok : ∀ p ∈ done, ¬ w.toList <:+: ("ok: " ++ p).toList := by
    intro p hp hin
    rcases hkind with ⟨hblank, hok, -⟩ | rfl | hcount
    · have hsplit : ("ok: " ++ p).toList = "ok:".toList ++ ' ' :: p.toList := String.toList_append
      rw [hsplit, infix_append_cons hblank] at hin
      exact hin.elim hok ((hdone p hp).wordless w hw)
    · exact not_infix_okLine (by decide) (hdone p hp) hin
    · exact not_infix_okLine (by omega) (hdone p hp) hin
  have hlast := infix_of_passedText hline hok hin
  have hsplit : "missing file: ".toList ++ path.toList =
    "missing".toList ++ ' ' :: ("file:".toList ++ ' ' :: path.toList) := rfl
  rcases hkind with ⟨hblank, -, hmissing, hfile⟩ | rfl | hcount
  · rw [hsplit, infix_append_cons hblank, infix_append_cons hblank] at hlast
    exact hlast.elim hmissing fun hlast => hlast.elim hfile (h.wordless w hw)
  · -- it has two blanks, as the line has, but other words around them
    rw [hsplit] at hlast
    rcases infix_cut (u := "is".toList) (v := "not defined".toList) (by decide) (by decide) hlast with h' | h'
    · exact absurd h'.1 (by decide)
    · refine not_infix_of_count (c := ' ') ?_ h'
      rw [List.count_append, List.count_cons_self, List.count_eq_zero.2 h.space_notMem]
      decide
  · exact not_infix_missing hcount h hlast

theorem find_missingFile (hdone : ∀ p ∈ done, Legible p) (h : Legible path) :
    ∃ m, find missingFile ((passedText done).toList ++ ("missing file: ".toList ++ path.toList)) = some m ∧
      groupText m 1 = path := by
  have hblank : path.toList.all (!isBlank ·) = true := by
    simpa using fun c hc => (h.oneWord c hc).1
  have hfirst : ∀ x y, (passedText done).toList = x ++ y → y ≠ [] →
      ¬ "missing file: ".toList <+: y ++ ("missing file: ".toList ++ path.toList) := fun x y hsplit hy =>
    not_prefix_of_passedText (by decide) (fun p hp => not_infix_okLine (by decide) (hdone p hp)) hsplit hy
  obtain ⟨m, hm, hgroup⟩ := find_of_first (q := group 1 (atLeastOne (!isBlank ·))) hfirst fun prev => by
    have hmatch := matchAt_group (w := "missing file: ") (n := 1) (t := []) (q := empty) h.nonempty hblank
      (by simp) (by decide) (fun here gs k hk => hk here gs) prev
    rwa [List.append_nil] at hmatch
  exact ⟨m, hm, by rw [groupText, hgroup]; exact String.ofList_toList⟩

/-- The logs of a missing file, whatever came before it, name the file that its path is taken to mean. -/
theorem analyze_missing (hdone : ∀ p ∈ done, Legible p) (h : Legible path) :
    analyze (passedText done ++ ("missing file: " ++ path)) a =
      ⟨.missingFile, some (manifestPath a path), none, "missing file: " ++ manifestPath a path, none⟩ := by
  have htext : (passedText done ++ ("missing file: " ++ path)).toList =
      (passedText done).toList ++ ("missing file: ".toList ++ path.toList) := by
    rw [String.toList_append, String.toList_append]
  have hthree : ∀ w : List Char, '\n' ∉ w → 3 ≤ w.count ' ' →
      ¬ w <:+: (passedText done ++ ("missing file: " ++ path)).toList := fun w hline hw hin =>
    not_infix_missing hw h
      (infix_of_passedText hline (fun p hp => not_infix_okLine (by omega) (hdone p hp)) (htext ▸ hin))
  have himports : ∀ w ∈ importTexts, '\n' ∉ w.toList ∧ 3 ≤ w.toList.count ' ' := by decide
  obtain ⟨hpython, hnode, hstart⟩ := importTexts_absent fun w hw =>
    hthree w.toList (himports w hw).1 (himports w hw).2
  have hbroken : find brokenFile (passedText done ++ ("missing file: " ++ path)).toList = none :=
    find_eq_none (hthree _ (by decide) (by decide))
  have hwords : ∀ ws, ws ⊆ syntaxWords ++ referenceWords →
      holdsAny ws (passedText done ++ ("missing file: " ++ path)) = false := by
    intro ws hws
    rw [holdsAny, List.any_eq_false]
    intro w hw
    rw [contains_iff, htext]
    exact not_infix_words hdone h w (hws hw)
  obtain ⟨m, hm, hgroup⟩ := find_missingFile hdone h
  rw [← htext] at hm
  unfold analyze
  simp only [hpython, hnode, hstart, hbroken, hwords _ (List.subset_append_left _ _),
    hwords _ (List.subset_append_right _ _), hm, hgroup]
  rfl

/-- What is said of a file that is not complete: its path and, between colons and without a blank, the
line. -/
theorem text_eq (e : Incomplete) : ∃ place, ' ' ∉ place ∧
    e.text.toList = (e.file.toList ++ (place ++ [':'])) ++ ' ' :: e.message.toList ∧
    (place ++ [':']).head? = some ':' := by
  unfold Incomplete.text
  cases e.line with
  | none => exact ⟨[], by simp, by simp, rfl⟩
  | some n =>
    have hdigits : ' ' ∉ Nat.toDigits 10 n := fun h =>
      absurd (Nat.isDigit_of_mem_toDigits (by decide) (by decide) h) (by decide)
    exact ⟨':' :: (toString n).toList, by simp [hdigits], by simp, rfl⟩

theorem not_infix_incomplete {e : Incomplete} (hfile : ' ' ∉ e.file.toList) (hterse : Completeness.Terse e.message) :
    ∀ w ∈ importTexts, ¬ w.toList <:+: "syntax error in ".toList ++ e.text.toList := by
  obtain ⟨place, hplace, htext, -⟩ := text_eq e
  have hparts : ∀ w ∈ importTexts, ∃ u v, w.toList = u ++ ' ' :: v ∧ ' ' ∉ u ∧ u.getLast? ≠ some ':' ∧
      ¬ u <:+ "syntax".toList ∧ ¬ u <:+ "error".toList ∧ ¬ u <:+ "in".toList ∧ u ≠ [] ∧ ['u', 'l'] <:+: w.toList := by
    simp only [importTexts, List.forall_mem_cons]
    refine ⟨⟨"No".toList, "module named '".toList, ?_⟩, ⟨"Cannot".toList, "find module '".toList, ?_⟩,
      ⟨"could".toList, "not be started".toList, ?_⟩, by simp⟩
    all_goals decide
  intro w hw hin
  obtain ⟨u, v, hsplit, hu, hlast, hsyntax, herror, hword, hne, hul⟩ := hparts w hw
  have hline : "syntax error in ".toList ++ e.text.toList = "syntax".toList ++ ' ' :: ("error".toList ++ ' ' ::
      ("in".toList ++ ' ' :: ((e.file.toList ++ (place ++ [':'])) ++ ' ' :: e.message.toList))) := by
    rw [htext]
    rfl
  have hpath : ' ' ∉ e.file.toList ++ (place ++ [':']) := by simp [hfile, hplace]
  rw [hline, hsplit] at hin
  have hin := (infix_cut hu (by decide) hin).resolve_left fun h => hsyntax h.1
  have hin := (infix_cut hu (by decide) hin).resolve_left fun h => herror h.1
  have hin := (infix_cut hu (by decide) hin).resolve_left fun h => hword h.1
  rcases infix_cut hu hpath hin with ⟨hsuffix, -⟩ | hmessage
  · -- the words would end with a colon
    obtain ⟨x, hx⟩ := hsuffix
    have hend := congrArg List.getLast? hx
    rw [List.getLast?_append_of_ne_nil _ hne] at hend
    exact hlast (hend.trans (by simp))
  · exact hterse (hul.trans (hsplit ▸ hmessage))

theorem find_brokenFile {e : Incomplete} (hdone : ∀ p ∈ done, Legible p) (h : Legible e.file) :
    ∃ m, find brokenFile ((passedText done).toList ++ ("syntax error in ".toList ++ e.text.toList)) = some m ∧
      groupText m 1 = e.file := by
  obtain ⟨place, -, hlast, hcolon⟩ := text_eq e
  have hchars : e.file.toList.all (fun c => !isBlank c && c != ':') = true := by
    simpa using h.oneWord
  have hcolon' : ∀ c ∈ ((place ++ [':']) ++ ' ' :: e.message.toList).head?, (!isBlank c && c != ':') = false := by
    intro c hc
    rw [List.head?_append, hcolon, Option.some_or, Option.mem_some_iff] at hc
    subst hc
    decide
  have hskip : ∀ (q : Pattern) (here : Cursor) (gs : Groups) (k : Cursor → Groups → Option Match),
      (∀ next gs, (k next gs).isSome = true) → (run (Pattern.optional q) here gs k).isSome = true := by
    intro q here gs k hk
    rw [Pattern.optional, run]
    split
    · rfl
    · exact hk here gs
  have hnumber : 1 ∉ (Pattern.optional (seq (lit ":") (group 2 (atLeastOne isDecimalDigit)))).numbers := by
    decide
  have hfirst : ∀ x y, (passedText done).toList = x ++ y → y ≠ [] →
      ¬ "syntax error in ".toList <+: y ++ ("syntax error in ".toList ++ e.text.toList) := fun x y hsplit hy =>
    not_prefix_of_passedText (by decide) (fun p hp => not_infix_okLine (by decide) (hdone p hp)) hsplit hy
  rw [hlast, List.append_assoc] at hfirst ⊢
  obtain ⟨m, hm, hgroup⟩ := find_of_first hfirst fun prev =>
    matchAt_group h.nonempty hchars hcolon' hnumber (hskip _) prev
  exact ⟨m, hm, by rw [groupText, hgroup]; exact String.ofList_toList⟩

/-- So do the logs of a file that is not complete. -/
theorem analyze_incomplete {content : String} {e : Incomplete} (hdone : ∀ p ∈ done, Legible p)
    (h : Legible path) (hcheck : checkComplete path content = .error e) :
    (analyze (passedText done ++ ("syntax error in " ++ e.text)) a).kind = .syntaxError ∧
      (analyze (passedText done ++ ("syntax error in " ++ e.text)) a).file = some (manifestPath a path) := by
  obtain rfl := Completeness.file_of_checkComplete hcheck
  have hterse := Completeness.terse_of_checkComplete h.noJson hcheck
  have htext : (passedText done ++ ("syntax error in " ++ e.text)).toList =
      (passedText done).toList ++ ("syntax error in ".toList ++ e.text.toList) := by
    rw [String.toList_append, String.toList_append]
  have himports : ∀ w ∈ importTexts, '\n' ∉ w.toList ∧ 2 ≤ w.toList.count ' ' := by decide
  obtain ⟨hpython, hnode, hstart⟩ := importTexts_absent
    fun w hw hin =>
      not_infix_incomplete h.space_notMem hterse w hw (infix_of_passedText (himports w hw).1
        (fun p hp => not_infix_okLine (himports w hw).2 (hdone p hp)) (htext ▸ hin))
  obtain ⟨m, hm, hgroup⟩ := find_brokenFile hdone h
  rw [← htext] at hm
  unfold analyze
  simp only [hpython, hnode, hstart, hm, brokenFinding, hgroup]
  exact ⟨rfl, rfl⟩

/-! ## Checks of sites -/

/-- A check of a site that fails does so at one of its files, and the fault of the kind that was
reported is found in the file that this one is taken to mean. That is the file itself exactly if it is
listed before every file that it ends with, or if it has no directory and no file has its name. -/
theorem site_analyzed {w : Workspace} {h : Host} {milliseconds : Nat} {world world' : World} {entry : String}
    {report : VerificationReport} {kind : FatalKind} {message : String}
    (hshape : detectShape a (w.tree world.files) = .staticSite entry)
    (hlegible : ∀ path ∈ siteFiles w world.files entry, Legible path)
    (hverify : (verify w h milliseconds a).run world = (.ok report, world'))
    (hfail : report.failure = some ⟨kind, message⟩) :
    ∃ path ∈ siteFiles w world.files entry, Faulty path kind message ∧
      (analyze report.logs a).kind.name = kind.name ∧
      (analyze report.logs a).file = some (manifestPath a path) ∧
      ('\\' ∉ path.toList → ¬ "./".toList <+: path.toList → (manifestPath a path = path ↔
        (∃ before after, a.files.paths = before ++ path :: after ∧ ∀ p ∈ before, ¬ EndsWith path p) ∨
        '/' ∉ path.toList ∧ ∀ p ∈ a.files.paths, baseName p ≠ path)) := by
  have hreport : report = checkSite w world.files entry := by
    rw [run_verify_of_site hshape] at hverify
    exact (Except.ok.inj (Prod.mk.inj hverify).1).symm
  subst hreport
  obtain ⟨done, path, rest, hfiles, hfaulty, hlogs⟩ := exists_of_checkFiles hfail
  rw [String.empty_append] at hlogs
  rw [hfiles] at hlegible ⊢
  have hdone : ∀ p ∈ done, Legible p := fun p hp => hlegible p (List.mem_append_left _ hp)
  have hpath : Legible path := hlegible path (by simp)
  refine ⟨path, by simp, hfaulty, ?_⟩
  have hself := fun hslash => manifestPath_eq_self (a := a) (fun c hc => (hpath.oneWord c hc).1) hslash
  unfold checkSite
  rw [hlogs]
  cases hfaulty with
  | missing =>
    rw [analyze_missing hdone hpath]
    exact ⟨rfl, rfl, hself⟩
  | incomplete hcheck =>
    obtain ⟨hkind, hfile⟩ := analyze_incomplete (a := a) hdone hpath hcheck
    rw [hkind]
    exact ⟨rfl, hfile, hself⟩

/-! ## A page that links a stylesheet in a directory -/

/-- The page. -/
def linkingPage : String := "<html><link href=\"css/theme.css\"></html>"

/-- A project that holds this page alone. -/
def linkingSite : Files := ⟨[(["p"], .directory), (["p", "index.html"], .file linkingPage.toUTF8)]⟩

/-- The workspace of the project. -/
def linkingSpace : Workspace := ⟨["p"], .standard⟩

theorem locate_linkingSite : linkingSite.locate ["p"] = .ok ["p"] ∧
    linkingSite.locate ["p", "index.html"] = .ok ["p", "index.html"] ∧
    linkingSite.locate ["p", "css"] = .error .notFound ∧
    linkingSite.locate ["p", "css", "theme.css"] = .error .notFound := by
  have hroot : linkingSite.node? ["p"] = some .directory := rfl
  have hpage : linkingSite.node? ["p", "index.html"] = some (.file linkingPage.toUTF8) := rfl
  have hcss : linkingSite.node? ["p", "css"] = none := rfl
  have hsize : "p".utf8ByteSize ≤ Files.nameLimit ∧ "index.html".utf8ByteSize ≤ Files.nameLimit ∧
      "css".utf8ByteSize ≤ Files.nameLimit := by decide
  have hfaults : Files.pathFault? ["p"] = none ∧ Files.pathFault? ["p", "index.html"] = none ∧
      Files.pathFault? ["p", "css"] = none ∧ Files.pathFault? ["p", "css", "theme.css"] = none := by decide
  simp [Files.locate, hfaults, Files.follow, hroot, hpage, hcss, Nat.not_lt.2 hsize.1, Nat.not_lt.2 hsize.2.1,
    Nat.not_lt.2 hsize.2.2]

theorem read_linkingSite : linkingSpace.read linkingSite "index.html" = .ok linkingPage ∧
    ∃ e, linkingSpace.read linkingSite "css/theme.css" = .error e := by
  have hclimb : Workspace.climb ["p"] (Workspace.namesIn "index.html") = some ["p", "index.html"] ∧
      Workspace.climb ["p"] (Workspace.namesIn "css/theme.css") = some ["p", "css", "theme.css"] := by decide
  have hrelative : Workspace.isAbsolute "index.html" = false ∧ Workspace.isAbsolute "css/theme.css" = false := by
    decide
  have hplaces : linkingSpace.resolve linkingSite "index.html" = .ok ["p", "index.html"] ∧
      linkingSpace.resolve linkingSite "css/theme.css" = .ok ["p", "css", "theme.css"] := by
    have hroot : linkingSpace.root = ["p"] := rfl
    constructor <;> simp [Workspace.resolve, hroot, hrelative, hclimb, Workspace.nearest, locate_linkingSite]
  have hnode : linkingSite.node? ["p", "index.html"] = some (.file linkingPage.toUTF8) := rfl
  have hdecode : String.fromUTF8? linkingPage.toUTF8 = some linkingPage := dif_pos linkingPage.isValidUTF8
  have htexts : linkingSite.readText ["p", "index.html"] = .ok linkingPage ∧
      linkingSite.readText ["p", "css", "theme.css"] = .error .notFound := by
    simp only [Files.readText, Files.readBytes, locate_linkingSite, hnode, hdecode, and_self]
  unfold Workspace.read
  simp only [hplaces, bind, Except.bind, htexts]
  exact ⟨rfl, _, rfl⟩

theorem siteFiles_linkingSite :
    siteFiles linkingSpace linkingSite "index.html" = ["index.html", "css/theme.css"] := by
  have hassets : (referencedAssets linkingPage).map (assetPath (splitDir "index.html").1) = ["css/theme.css"] := by
    decide +kernel
  unfold siteFiles
  simp only [read_linkingSite.1, hassets]

theorem checkSite_linkingSite : checkSite linkingSpace linkingSite "index.html" =
    missing siteCheck "ok: index.html\n" "css/theme.css" := by
  obtain ⟨hpage, e, htheme⟩ := read_linkingSite
  have hcomplete : checkComplete "index.html" linkingPage = .ok () := by decide +kernel
  unfold checkSite
  simp only [siteFiles_linkingSite, checkFiles, hpage, hcomplete, htheme]
  rfl

theorem site_analyzed_linkingSite :
    let a := Design.clientOnly "simple calculator"
    let h : Host := ⟨fun _ _ files => (.refused "", files), fun _ _ => .unreachable "", fun _ => none⟩
    let world : World := ⟨linkingSite, [], []⟩
    ∃ report path, (verify linkingSpace h 5 a).run world = (.ok report, world) ∧
      Faulty path .missingFile "missing file: css/theme.css" ∧
      (analyze report.logs a).file = some (manifestPath a path) := by
  intro a h world
  have hshape : detectShape a (linkingSpace.tree world.files) = .staticSite "index.html" := by
    decide
  have hlegible : ∀ path ∈ siteFiles linkingSpace world.files "index.html", Legible path := by
    have hword : ∀ path : String, path.toList.all (fun c => !isBlank c && c != ':') = true →
        ∀ c ∈ path.toList, isBlank c = false ∧ c ≠ ':' := fun path h => by simpa using h
    have hpaths : Legible "index.html" ∧ Legible "css/theme.css" :=
      ⟨⟨by decide, hword _ (by decide), by decide, by decide⟩, by decide, hword _ (by decide), by decide,
        by decide⟩
    rw [siteFiles_linkingSite]
    simpa using hpaths
  have hverify : (verify linkingSpace h 5 a).run world =
    (.ok (checkSite linkingSpace world.files "index.html"), world) := run_verify_of_site hshape
  have hfail : (checkSite linkingSpace world.files "index.html").failure =
      some ⟨.missingFile, "missing file: css/theme.css"⟩ := by
    rw [checkSite_linkingSite]
    rfl
  obtain ⟨path, -, hfaulty, -, hfile, -⟩ := site_analyzed hshape hlegible hverify hfail
  exact ⟨_, path, hverify, hfaulty, hfile⟩

/-- The stylesheet is reported with its directory and found without it. -/
theorem linkingSite_misread :
    let a := Design.clientOnly "simple calculator"
    let h : Host := ⟨fun _ _ files => (.refused "", files), fun _ _ => .unreachable "", fun _ => none⟩
    let world : World := ⟨linkingSite, [], []⟩
    a.hasBackend = false ∧ ∃ report, (verify linkingSpace h 5 a).run world = (.ok report, world) ∧
      report.failure = some ⟨.missingFile, "missing file: css/theme.css"⟩ ∧
      (analyze report.logs a).file = some "theme.css" := by
  intro a h world
  have hshape : detectShape a (linkingSpace.tree world.files) = .staticSite "index.html" := by
    decide
  refine ⟨by decide, _, run_verify_of_site hshape, ?_⟩
  rw [checkSite_linkingSite]
  exact ⟨rfl, by decide⟩

end BuildLoop.Diagnosis
