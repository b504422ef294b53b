import BuildLoop.Proofs.Command.Line
import BuildLoop.Proofs.Command.Policy
import BuildLoop.Proofs.Workspace.Confine
import BuildLoop.Verification.Check

/-!
# The command of a check

The name of the entry stands in the command of its check as it is, not quoted. So a command is refused for
nothing but what a name brings into it, or a directory that is no place of the project:

    w.permitted fs (checkCommand shape name) dir = ok …
      ↔   HasPlace w fs dir, and not Refuses (checkCommand shape name)                (permitted_iff)

A name with a dot but without blanks, quotes and blocked texts brings nothing           (not_refuses)
-/

namespace BuildLoop.Verification

open Text Command

variable {w : Workspace} {fs : Files} {shape : ProjectShape} {program name line dir : String}
  {args fixed : List String}

/-- Whether a command line is refused, whatever its program: a quote is left open in it, or what it is cut into
holds something blocked. -/
def Refuses (line : String) : Prop :=
  LeftOpen line.toList ∨ ∃ program args, split line = .ok (program :: args) ∧ ¬ Unblocked program args

/-- Whether a path means a directory of the project. -/
def HasPlace (w : Workspace) (fs : Files) (dir : String) : Prop :=
  ∃ d, w.resolve fs dir = .ok d ∧ fs.isDirectory d = true

/-! ## What is permitted -/

/-- A command that may run is one that passes each check of the workspace. -/
theorem permitted_eq_ok {argv : List String} {d : Path} : w.permitted fs line dir = .ok (argv, d) ↔
    w.resolve fs dir = .ok d ∧ fs.isDirectory d = true ∧ split line = .ok argv ∧
      check (argv.head?.getD "") argv.tail = .ok () := by
  unfold Workspace.permitted
  constructor
  · intro h
    obtain ⟨d', hresolve, h⟩ := exists_of_bind h
    split at h
    · next hdirectory =>
      obtain ⟨argv', hsplit, h⟩ := exists_of_bind h
      obtain ⟨⟨⟩, hcheck, h⟩ := exists_of_bind h
      cases h
      exact ⟨hresolve, hdirectory, hsplit, hcheck⟩
    · cases h
  · rintro ⟨hresolve, hdirectory, hsplit, hcheck⟩
    simp only [hresolve, hdirectory, hsplit, hcheck, bind, Except.bind, if_true]
    rfl

/-- A refusal of a command is no report. -/
theorem failureReport?_of_permitted {e : Failure} (h : w.permitted fs line dir = .error e) (check command : String) :
    failureReport? check command e = none := by
  unfold Workspace.permitted at h
  cases hresolve : w.resolve fs dir with
  | error e' =>
    rw [hresolve] at h
    cases h
    unfold Workspace.resolve at hresolve
    split at hresolve
    · cases hresolve
      rfl
    · split at hresolve
      · cases hresolve
      · cases hresolve
        rfl
  | ok d =>
    simp only [hresolve, bind, Except.bind] at h
    split at h
    · split at h
      · next hsplit =>
        cases h
        rcases split_eq_error.1 hsplit with ⟨-, rfl⟩ | ⟨-, rfl⟩
        · rfl
        · rfl
      · next argv hsplit =>
        split at h
        · next hcheck =>
          cases h
          unfold Command.check at hcheck
          split at hcheck
          · cases hcheck
            rfl
          · cases hcheck
        · cases h
    · cases h
      rfl

/-! ## The program of a check -/

/-- The words of the commands of checks. -/
def checkWords : List String := ["python3", "-m", "py_compile", "-c", "import", "node", "--check"]

theorem isPlain_of_mem (h : program ∈ checkWords) : IsPlain program := by
  have hchars : ∀ p ∈ checkWords, p ≠ "" ∧ p.toList.all (fun c => !isBlank c && c != '\'' && c != '"') = true := by
    decide
  obtain ⟨hne, hall⟩ := hchars program h
  exact ⟨hne, by simpa [and_assoc] using hall⟩

/-- A check is done by one of two interpreters. -/
theorem exists_interpreter (shape : ProjectShape) (name : String) : ∃ program rest, IsPlain program ∧
    (∀ args, programReason? program args = none) ∧
      (checkCommand shape name).toList = program.toList ++ ' ' :: rest := by
  have hpython : IsPlain "python3" := isPlain_of_mem (by decide)
  have hnode : IsPlain "node" := isPlain_of_mem (by decide)
  have hcompile : ∃ rest, ("python3 -m py_compile " ++ name).toList = "python3".toList ++ ' ' :: rest :=
    ⟨"-m py_compile ".toList ++ name.toList, by rw [String.toList_append]; rfl⟩
  have himport : ∃ rest, ("python3 -c \"import " ++ moduleName name ++ "\"").toList = "python3".toList ++ ' ' :: rest :=
    ⟨"-c \"import ".toList ++ ((moduleName name).toList ++ ['"']), by
      rw [String.toList_append, String.toList_append, List.append_assoc]; rfl⟩
  have hscript : ∃ rest, ("node --check " ++ name).toList = "node".toList ++ ' ' :: rest :=
    ⟨"--check ".toList ++ name.toList, by rw [String.toList_append]; rfl⟩
  unfold checkCommand
  split
  · simp only
    split
    · obtain ⟨rest, hrest⟩ := himport
      exact ⟨"python3", rest, hpython, fun _ => rfl, hrest⟩
    · obtain ⟨rest, hrest⟩ := hcompile
      exact ⟨"python3", rest, hpython, fun _ => rfl, hrest⟩
  · obtain ⟨rest, hrest⟩ := hcompile
    exact ⟨"python3", rest, hpython, fun _ => rfl, hrest⟩
  · obtain ⟨rest, hrest⟩ := hscript
    exact ⟨"node", rest, hnode, fun _ => rfl, hrest⟩

/-- A check may run exactly if its directory is a place of the project and its command line is not refused. -/
theorem permitted_iff : (∃ r, w.permitted fs (checkCommand shape name) dir = .ok r) ↔
    HasPlace w fs dir ∧ ¬ Refuses (checkCommand shape name) := by
  obtain ⟨program, rest, hprogram, hallowed, hline⟩ := exists_interpreter shape name
  constructor
  · rintro ⟨⟨argv, d⟩, h⟩
    obtain ⟨hresolve, hdirectory, hsplit, hcheck⟩ := permitted_eq_ok.1 h
    obtain ⟨args, rfl⟩ := head_of_split hprogram hline hsplit
    refine ⟨⟨d, hresolve, hdirectory⟩, ?_⟩
    rintro (hopen | ⟨program', args', hsplit', hblocked⟩)
    · have herror := split_eq_error.2 (.inl ⟨hopen, rfl⟩)
      cases hsplit.symm.trans herror
    · cases hsplit.symm.trans hsplit'
      exact hblocked (check_eq_ok.1 hcheck).1
  · rintro ⟨⟨d, hresolve, hdirectory⟩, hnot⟩
    cases hsplit : split (checkCommand shape name) with
    | error e =>
      rcases split_eq_error.1 hsplit with ⟨hopen, -⟩ | ⟨hblank, -⟩
      · exact absurd (.inl hopen) hnot
      · -- the interpreter's name is not blank
        obtain ⟨c, s, hcons⟩ := List.exists_cons_of_ne_nil fun h => hprogram.nonempty (String.toList_eq_nil_iff.1 h)
        have hc : c ∈ program.toList := hcons ▸ List.mem_cons_self
        have hin := hblank c (hline ▸ List.mem_append_left _ hc)
        rw [(hprogram.chars c hc).1] at hin
        cases hin
    | ok argv =>
      obtain ⟨args, rfl⟩ := head_of_split hprogram hline hsplit
      have hunblocked : Unblocked program args := not_not.1 fun h => hnot (.inr ⟨program, args, hsplit, h⟩)
      have hcheck : check program args = .ok () := check_eq_ok.2 ⟨hunblocked, hallowed args⟩
      exact ⟨(program :: args, d), permitted_eq_ok.2 ⟨hresolve, hdirectory, hsplit, hcheck⟩⟩

/-! ## Names that bring nothing blocked -/

/-- Whether a name stands for itself in a command line and brings nothing blocked into it. -/
structure Harmless (name : String) : Prop where
  plain : IsPlain name
  unblocked : ∀ text ∈ blockedTexts, ¬ text.toList <:+: name.toList

/-- A text up to its first blank. -/
def firstWord (text : List Char) : List Char := text.takeWhile (· != ' ')

theorem firstWord_append {u v : List Char} (hu : ' ' ∉ u) : firstWord (u ++ v) = u ++ firstWord v := by
  refine List.takeWhile_append_of_pos fun c hc => bne_iff_ne.2 ?_
  rintro rfl
  exact hu hc

theorem firstWord_cons_blank (v : List Char) : firstWord (' ' :: v) = [] := rfl

theorem firstWord_of_notMem {u : List Char} (hu : ' ' ∉ u) : firstWord u = u := by
  have hnil : firstWord [] = [] := rfl
  have hall : firstWord (u ++ []) = u ++ firstWord [] := firstWord_append hu
  rwa [hnil, List.append_nil] at hall

/-- A text whose first word is in no word but the last occurs in the last one, if anywhere. -/
theorem infix_last {text : List Char} {last : String}
    (hfixed : ∀ p ∈ fixed, ' ' ∉ p.toList ∧ ¬ firstWord text <:+: p.toList)
    (h : text <:+: lineOf (fixed ++ [last])) : text <:+: last.toList := by
  induction fixed with
  | nil => rwa [List.nil_append, lineOf_singleton] at h
  | cons p fixed ih =>
    obtain ⟨⟨hblank, hfirst⟩, hfixed⟩ := List.forall_mem_cons.1 hfixed
    obtain ⟨q, rest, hcons⟩ : ∃ q rest, fixed ++ [last] = q :: rest := List.exists_cons_of_ne_nil (by simp)
    rw [List.cons_append, hcons, lineOf_cons_cons, ← hcons] at h
    by_cases htext : ' ' ∈ text
    · obtain ⟨u, v, rfl, hu⟩ := List.eq_append_cons_of_mem htext
      rw [firstWord_append hu, firstWord_cons_blank, List.append_nil] at hfirst
      rcases infix_cut hu hblank h with ⟨hsuffix, -⟩ | h
      · exact absurd hsuffix.isInfix hfirst
      · exact ih hfixed h
    · rw [firstWord_of_notMem htext] at hfirst
      rcases (infix_append_cons htext).1 h with h | h
      · exact absurd h hfirst
      · exact ih hfixed h

/-- What a check's words and one harmless word make is not blocked. -/
theorem unblocked_of_words (fixed : List String) {last : String} (hne : args ≠ [])
    (hline : lineOf (program :: args) = lineOf (fixed ++ [last])) (hfixed : ∀ p ∈ fixed, p ∈ checkWords)
    (hlast : ∀ text ∈ blockedTexts, ¬ text.toList <:+: last.toList)
    (hargs : ∀ a ∈ program :: args, a ∈ checkWords ∨ '.' ∈ a.toList ∨ ' ' ∈ a.toList) : Unblocked program args := by
  have hwords : ∀ text ∈ blockedTexts, ∀ p ∈ checkWords,
      ' ' ∉ p.toList ∧ ¬ firstWord text.toList <:+: p.toList := by decide +kernel
  have hnames : ∀ a ∈ blockedPrograms, a ∉ checkWords ∧ '.' ∉ a.toList ∧ ' ' ∉ a.toList := by decide
  constructor
  · intro a ha hblocked
    obtain ⟨hword, hdot, hblank⟩ := hnames a hblocked
    rcases hargs a ha with h | h | h
    · exact hword h
    · exact hdot h
    · exact hblank h
  · intro text htext hin
    obtain ⟨b, rest, rfl⟩ := List.exists_cons_of_ne_nil hne
    have hsame : (program ++ " " ++ " ".intercalate (b :: rest)).toList = lineOf (program :: b :: rest) := by
      rw [lineOf, String.intercalate_cons_cons]
    rw [hsame, hline] at hin
    exact hlast text htext (infix_last (fun p hp => hwords text htext p (hfixed p hp)) hin)

/-- The module of a file is the start of its name. -/
theorem prefix_moduleName (name : String) : (moduleName name).toList <+: name.toList := by
  have hdrop : ∀ (tail : List Char) n s, dropTails tail n s <+: s := by
    intro tail n
    induction n with
    | zero => exact fun s => List.prefix_refl s
    | succ n ih =>
      intro s
      rw [dropTails]
      split
      · next r hr =>
        obtain ⟨x, hx, rfl⟩ := Option.map_eq_some_iff.1 hr
        have hs : s.reverse = tail.reverse ++ x := eq_of_after? hx
        refine (ih _).trans ⟨tail, ?_⟩
        rw [← List.reverse_reverse s, hs, List.reverse_append, List.reverse_reverse]
      · exact List.prefix_refl s
  rw [moduleName, String.toList_ofList]
  exact hdrop _ _ _

/-- Between its quotes a module is an argument together with the word before it. -/
theorem split_import (hmodule : '"' ∉ (moduleName name).toList) :
    split ("python3 -c \"import " ++ moduleName name ++ "\"") =
      .ok ["python3", "-c", "import " ++ moduleName name] := by
  have hline : ("python3 -c \"import " ++ moduleName name ++ "\"").toList =
      "python3 -c ".toList ++ '"' :: (("import " ++ moduleName name).toList ++ '"' :: []) := by
    simp only [String.toList_append]
    rfl
  have hstart : ∀ r, Command.splitFrom none none [] ("python3 -c ".toList ++ '"' :: r) =
      Command.splitFrom none none ["-c", "python3"] ('"' :: r) := fun _ => rfl
  have hinner : '"' ∉ ("import " ++ moduleName name).toList := by
    rw [String.toList_append, List.mem_append, not_or]
    exact ⟨by decide, hmodule⟩
  rw [split, hline, hstart, splitFrom_between (.inr rfl) hinner, Option.getD_none, List.append_nil]
  simp only [Command.splitFrom, Option.isSome_none, Bool.false_eq_true, if_false, List.reverse_reverse,
    String.ofList_toList]
  rfl

section
variable (hname : Harmless name)
include hname

theorem exists_of_import : ∃ args,
    split ("python3 -c \"import " ++ moduleName name ++ "\"") = .ok ("python3" :: args) ∧ Unblocked "python3" args := by
  have hstart := prefix_moduleName name
  have hquote : '"' ∉ (moduleName name).toList := fun h => (hname.plain.chars _ (hstart.subset h)).2.2 rfl
  have hmodule : ∀ text ∈ blockedTexts, ¬ text.toList <:+: (moduleName name).toList := fun text htext hin =>
    hname.unblocked text htext (hin.trans hstart.isInfix)
  refine ⟨_, split_import hquote, ?_⟩
  refine unblocked_of_words ["python3", "-c", "import"] (by simp) ?_ (by decide) hmodule ?_
  · simp only [List.cons_append, List.nil_append, lineOf_cons_cons, lineOf_singleton, String.toList_append]
    rfl
  · simp only [List.forall_mem_cons]
    refine ⟨.inl (by decide), .inl (by decide), .inr (.inr ?_), by simp⟩
    rw [String.toList_append]
    exact List.mem_append_left _ (by decide)

variable (hdot : '.' ∈ name.toList)
include hdot

/-- A line of a check's words and a harmless name is cut into them, and they are not blocked. -/
theorem exists_of_words (fixed : List String) (hwords : ∀ p ∈ program :: fixed, p ∈ checkWords)
    (hline : line.toList = lineOf (program :: fixed ++ [name])) :
    ∃ args, split line = .ok (program :: args) ∧ Unblocked program args := by
  have hsame : line = " ".intercalate (program :: fixed ++ [name]) := String.toList_injective hline
  have hplain : ∀ p ∈ program :: fixed ++ [name], IsPlain p := by
    intro p hp
    rcases List.mem_append.1 hp with hp | hp
    · exact isPlain_of_mem (hwords p hp)
    · rw [List.mem_singleton.1 hp]
      exact hname.plain
  refine ⟨fixed ++ [name], hsame ▸ split_intercalate hplain (by simp), ?_⟩
  refine unblocked_of_words (program :: fixed) (by simp) rfl hwords hname.unblocked ?_
  intro a ha
  rcases List.mem_append.1 (List.cons_append ▸ ha) with ha | ha
  · exact .inl (hwords a ha)
  · rw [List.mem_singleton.1 ha]
    exact .inr (.inl hdot)

theorem exists_of_compile : ∃ args,
    split ("python3 -m py_compile " ++ name) = .ok ("python3" :: args) ∧ Unblocked "python3" args := by
  refine exists_of_words hname hdot ["-m", "py_compile"] (by decide) ?_
  rw [String.toList_append]
  simp only [List.cons_append, List.nil_append, lineOf_cons_cons, lineOf_singleton]
  rfl

theorem exists_of_script : ∃ args,
    split ("node --check " ++ name) = .ok ("node" :: args) ∧ Unblocked "node" args := by
  refine exists_of_words hname hdot ["--check"] (by decide) ?_
  rw [String.toList_append]
  simp only [List.cons_append, List.nil_append, lineOf_cons_cons, lineOf_singleton]
  rfl

/-- A harmless name with a dot makes a command that is not refused. -/
theorem not_refuses : ¬ Refuses (checkCommand shape name) := by
  obtain ⟨program, args, hsplit, hunblocked⟩ : ∃ program args,
      split (checkCommand shape name) = .ok (program :: args) ∧ Unblocked program args := by
    unfold checkCommand
    split
    · simp only
      split
      · exact ⟨"python3", exists_of_import hname⟩
      · exact ⟨"python3", exists_of_compile hname hdot⟩
    · exact ⟨"python3", exists_of_compile hname hdot⟩
    · exact ⟨"node", exists_of_script hname hdot⟩
  rintro (hopen | ⟨program', args', hsplit', hblocked⟩)
  · cases hsplit.symm.trans (split_eq_error.2 (.inl ⟨hopen, rfl⟩))
  · cases hsplit.symm.trans hsplit'
    exact hblocked hunblocked

end

end BuildLoop.Verification
