import BuildLoop.Command.Line
import BuildLoop.Command.Policy
import BuildLoop.Proofs.Text.Cut
import BuildLoop.Proofs.Text.Occurs

/-!
# What a command that may run is

A command line that is cut has at least one argument, and a command that passes the check starts with
one of the programs and holds nothing that is blocked:

    check program args = ok   ↔   nothing blocked, and the program may run with args     (check_eq_ok)
    check program args = ok   →   Allowed (program :: args)                         (allowed_of_check)

The package manager of Python is given one of its subcommands as first argument. That of Node is given a line
that starts with one of its commands:

    check "pip" args = ok   ↔   nothing blocked, args = sub :: rest with sub ∈ pipCommands      (check_pip)
    check "npm" args = ok   ↔   nothing blocked, the line of args starts with a command         (check_npm)

A line may go on within a word. So of arguments without blanks all words of the command but the last are
arguments, and the last starts one:

    line of ws <+: line of args   ↔   args = … ++ (last word ++ tail) :: rest                 (prefix_line_iff)
-/

namespace BuildLoop.Command

open Text

/-- Whether nothing blocked occurs in a command. -/
structure Unblocked (program : String) (args : List String) : Prop where
  arguments : ∀ a ∈ program :: args, a ∉ blockedPrograms
  texts : ∀ text ∈ blockedTexts, ¬ text.toList <:+: (program ++ " " ++ " ".intercalate args).toList

variable {program : String} {args ws : List String}

theorem check_eq_ok : check program args = .ok () ↔ Unblocked program args ∧ programReason? program args = none := by
  have htext : blockedTexts.find? (contains (program ++ " " ++ " ".intercalate args)) = none ↔
      ∀ text ∈ blockedTexts, ¬ text.toList <:+: (program ++ " " ++ " ".intercalate args).toList := by
    simp only [List.find?_eq_none, contains_iff]
  have hname : (program :: args).find? blockedPrograms.contains = none ↔
      ∀ a ∈ program :: args, a ∉ blockedPrograms := by
    simp only [List.find?_eq_none, List.contains_iff_mem]
  unfold check reason?
  constructor
  · intro h
    split at h
    · cases h
    · next hreason =>
      simp only at hreason
      split at hreason
      · cases hreason
      · next hnotext =>
        split at hreason
        · cases hreason
        · next hnoname =>
          refine ⟨⟨hname.1 ?_, htext.1 ?_⟩, hreason⟩
          · exact Option.eq_none_iff_forall_ne_some.2 hnoname
          · exact Option.eq_none_iff_forall_ne_some.2 hnotext
  · rintro ⟨⟨harguments, htexts⟩, hreason⟩
    simp only [htext.2 htexts, hname.2 harguments, hreason]

/-- What may run: a command that starts with one of the programs and holds nothing that is blocked,
neither as an argument nor in the arguments as one line. -/
structure Allowed (argv : List String) : Prop where
  program : ∃ program args, argv = program :: args ∧ program ∈ programs
  argument : ∀ a ∈ argv, a ∉ blockedPrograms
  line : ∀ text ∈ blockedTexts, ¬ text.toList <:+: (" ".intercalate argv).toList

theorem mem_programs (h : programReason? program args = none) :
    program ∈ programs := by
  unfold programReason? at h
  split at h
  · next hpip => rcases hpip with rfl | rfl <;> decide
  · split at h
    · next hnpm => rw [hnpm]; decide
    · split at h
      · next hmem => exact List.contains_iff_mem.1 hmem
      · cases h

/-- The arguments as one line are a part of the line that is searched. -/
theorem infix_line (program : String) (args : List String) :
    (" ".intercalate (program :: args)).toList <:+:
      (program ++ " " ++ " ".intercalate args).toList := by
  cases args with
  | nil =>
    rw [String.intercalate_singleton, String.toList_append, String.toList_append]
    exact ((List.prefix_append _ _).trans (List.prefix_append _ _)).isInfix
  | cons b args =>
    have hline : " ".intercalate (program :: b :: args) = program ++ " " ++ " ".intercalate (b :: args) :=
      String.intercalate_cons_cons
    rw [hline]

theorem allowed_of_check (h : check program args = .ok ()) : Allowed (program :: args) := by
  obtain ⟨⟨harguments, htexts⟩, hreason⟩ := check_eq_ok.1 h
  exact ⟨⟨program, args, rfl, mem_programs hreason⟩, harguments, fun text htext hin =>
    htexts text htext (hin.trans (infix_line program args))⟩

theorem ne_nil_of_split {line : String} {argv : List String} (h : split line = .ok argv) : argv ≠ [] := by
  unfold split at h
  split at h
  · cases h
  · cases h
  · next hne _ =>
    cases h
    exact hne

/-! ## Package managers -/

/-- The commands of the Node package manager, word for word. -/
def npmWords : List (List String) := [["install"], ["ci"], ["run", "build"], ["run", "test"], ["run", "lint"], ["test"]]

/-- Arguments as one line. -/
def lineOf (args : List String) : List Char := (" ".intercalate args).toList

/-- Whether arguments start with the words of a command, the last of which may go on. -/
def Leads (ws args : List String) : Prop :=
  ∃ before last tail rest, ws = before ++ [last] ∧ args = before ++ (last ++ tail) :: rest

theorem check_pip (hprogram : program = "pip" ∨ program = "pip3") :
    check program args = .ok () ↔ Unblocked program args ∧ ∃ sub rest, args = sub :: rest ∧ sub ∈ pipCommands := by
  rw [check_eq_ok, programReason?, if_pos hprogram]
  refine and_congr_right fun _ => ?_
  cases args with
  | nil =>
    have hnone : "" ∉ pipCommands := by decide
    simp [hnone]
  | cons sub rest =>
    by_cases hsub : sub ∈ pipCommands
    · simp [hsub]
    · simp [hsub]

theorem npmCommands_eq : npmCommands = npmWords.map (" ".intercalate ·) := by decide

theorem check_npm : check "npm" args = .ok () ↔ Unblocked "npm" args ∧ ∃ ws ∈ npmWords, lineOf ws <+: lineOf args := by
  have hany : npmCommands.any (startsWith (" ".intercalate args)) = true ↔
      ∃ ws ∈ npmWords, lineOf ws <+: lineOf args := by
    rw [npmCommands_eq, List.any_map, List.any_eq_true]
    simp only [Function.comp_apply, startsWith, List.isPrefixOf_iff_prefix, lineOf]
  rw [check_eq_ok, programReason?, if_neg (by decide), if_pos rfl, ← hany]
  refine and_congr_right fun _ => ?_
  by_cases h : npmCommands.any (startsWith (" ".intercalate args)) = true
  · simp [h]
  · simp [h]

/-! ## Words -/

theorem lineOf_cons_cons (a b : String) (args : List String) :
    lineOf (a :: b :: args) = a.toList ++ ' ' :: lineOf (b :: args) := by
  rw [lineOf, String.intercalate_cons_cons, String.toList_append, String.toList_append, List.append_assoc]
  rfl

theorem lineOf_singleton (a : String) : lineOf [a] = a.toList := by rw [lineOf, String.intercalate_singleton]

/-- A word at the start of a line lies in its first argument. -/
theorem prefix_line_word {w a : String} (hw : ' ' ∉ w.toList) :
    w.toList <+: lineOf (a :: args) ↔ w.toList <+: a.toList := by
  cases args with
  | nil => rw [lineOf_singleton]
  | cons b args =>
    rw [lineOf_cons_cons]
    exact ⟨prefix_append_cons hw, fun h => h.trans (List.prefix_append _ _)⟩

/-- The first words of two lines are the same if one starts with the other. -/
theorem prefix_line_cons {a b : String} {x y : List Char} (ha : ' ' ∉ a.toList) (hb : ' ' ∉ b.toList) :
    b.toList ++ ' ' :: x <+: a.toList ++ ' ' :: y ↔ a = b ∧ x <+: y := by
  constructor
  · rintro ⟨z, hz⟩
    rw [List.append_assoc, List.cons_append] at hz
    rcases cut_cases hz hb with ⟨hab, hy⟩ | ⟨a', ha', -⟩
    · exact ⟨String.toList_injective hab, z, hy.symm⟩
    · exact absurd (ha' ▸ List.mem_append_right _ List.mem_cons_self) ha
  · rintro ⟨rfl, hxy⟩
    rw [List.prefix_append_right_inj]
    exact List.cons_prefix_cons.2 ⟨rfl, hxy⟩

/-- Where no argument holds a blank, a line starts with that of some words if the arguments start with them. -/
theorem prefix_line_iff {before : List String} {last : String} (hws : ∀ w ∈ before ++ [last], w ≠ "" ∧ ' ' ∉ w.toList)
    (hargs : ∀ a ∈ args, ' ' ∉ a.toList) :
    lineOf (before ++ [last]) <+: lineOf args ↔ ∃ tail rest, args = before ++ (last ++ tail) :: rest := by
  induction before generalizing args with
  | nil =>
    obtain ⟨hne, hblank⟩ := hws last (by simp)
    rw [List.nil_append, lineOf_singleton]
    cases args with
    | nil =>
      have hnil : lineOf [] = [] := rfl
      rw [hnil, List.prefix_nil, String.toList_eq_nil_iff]
      simpa using hne
    | cons a args =>
      rw [prefix_line_word hblank]
      constructor
      · rintro ⟨tail, htail⟩
        have ha : a = last ++ String.ofList tail := by
          rw [← String.toList_inj, String.toList_append, String.toList_ofList, htail]
        exact ⟨String.ofList tail, args, by rw [ha]; rfl⟩
      · rintro ⟨tail, rest, h⟩
        obtain ⟨rfl, -⟩ := List.cons.inj h
        rw [String.toList_append]
        exact List.prefix_append _ _
  | cons b before ih =>
    obtain ⟨⟨-, hblank⟩, hws⟩ := List.forall_mem_cons.1 hws
    obtain ⟨c, rest, hcons⟩ : ∃ c rest, before ++ [last] = c :: rest := List.exists_cons_of_ne_nil (by simp)
    have hline : lineOf (b :: before ++ [last]) = b.toList ++ ' ' :: lineOf (before ++ [last]) := by
      rw [List.cons_append, hcons, lineOf_cons_cons]
    rw [hline]
    cases args with
    | nil =>
      have hnil : lineOf [] = [] := rfl
      simp [hnil]
    | cons a args =>
      obtain ⟨ha, hargs⟩ := List.forall_mem_cons.1 hargs
      cases args with
      | nil =>
        rw [lineOf_singleton]
        refine ⟨fun h => absurd (h.subset (by simp)) ha, ?_⟩
        rintro ⟨tail, rest, h⟩
        simp at h
      | cons a' args =>
        rw [lineOf_cons_cons, prefix_line_cons ha hblank, ih hws hargs]
        constructor
        · rintro ⟨rfl, tail, rest, h⟩
          exact ⟨tail, rest, by rw [h]; rfl⟩
        · rintro ⟨tail, rest, h⟩
          obtain ⟨rfl, hargs⟩ := List.cons.inj h
          exact ⟨rfl, tail, rest, hargs⟩

theorem isWord_npmWords : ∀ ws ∈ npmWords, ∀ w ∈ ws, w ≠ "" ∧ ' ' ∉ w.toList := by decide

/-- Of arguments without blanks the line starts with a command exactly if they start with its words. -/
theorem prefix_npmWords_iff (hargs : ∀ a ∈ args, ' ' ∉ a.toList) (hws : ws ∈ npmWords) :
    lineOf ws <+: lineOf args ↔ Leads ws args := by
  have hne : ws ≠ [] := by
    have hall : ∀ ws ∈ npmWords, ws ≠ [] := by decide
    exact hall ws hws
  have hword := isWord_npmWords ws hws
  rw [← List.dropLast_append_getLast hne] at hword ⊢
  rw [prefix_line_iff hword hargs]
  constructor
  · rintro ⟨tail, rest, h⟩
    exact ⟨_, _, tail, rest, rfl, h⟩
  · rintro ⟨before, last, tail, rest, hsame, h⟩
    obtain ⟨hbefore, hlast⟩ := List.append_inj' hsame rfl
    rw [hbefore, (List.cons.inj hlast).1]
    exact ⟨tail, rest, h⟩

/-- What the package managers may be given: that of Python one of its subcommands first, that of Node a line
that starts with one of its commands. If no argument holds a blank, the words of the command come first, but
the last of them may go on. -/
theorem check_managers (program : String) (args : List String) :
    (program = "pip" ∨ program = "pip3" →
      (check program args = .ok () ↔
        Unblocked program args ∧ ∃ sub rest, args = sub :: rest ∧ sub ∈ pipCommands)) ∧
    (check "npm" args = .ok () ↔ Unblocked "npm" args ∧ ∃ ws ∈ npmWords, lineOf ws <+: lineOf args) ∧
    ((∀ a ∈ args, ' ' ∉ a.toList) → ∀ ws ∈ npmWords, (lineOf ws <+: lineOf args ↔ Leads ws args)) :=
  ⟨check_pip, check_npm, fun hargs _ => prefix_npmWords_iff hargs⟩

/-- A script that a command names may be run, with arguments of its own; what no command starts may not. -/
theorem check_managers_scripts :
    check "npm" ["run", "lint", "src"] = .ok () ∧ check "npm" ["publish"] ≠ .ok () := by
  obtain ⟨-, hlint, -⟩ := check_managers "npm" ["run", "lint", "src"]
  obtain ⟨-, hpublish, -⟩ := check_managers "npm" ["publish"]
  have hunblocked : Unblocked "npm" ["run", "lint", "src"] := ⟨by decide, by decide⟩
  have hnone : ∀ ws ∈ npmWords, ¬ lineOf ws <+: lineOf ["publish"] := by decide
  constructor
  · exact hlint.2 ⟨hunblocked, ["run", "lint"], by decide, by decide⟩
  · intro h
    obtain ⟨-, ws, hws, hline⟩ := hpublish.1 h
    exact hnone ws hws hline

/-- A script that no command names may be run, and one whose name holds a blank. -/
theorem check_strayed :
    check "npm" ["run", "build-and-deploy"] = .ok () ∧ check "npm" ["cit"] = .ok () ∧
      check "npm" ["run build"] = .ok () ∧
      ∀ args ∈ [["run", "build-and-deploy"], ["cit"], ["run build"]], ∀ ws ∈ npmWords, ¬ ws <+: args := by
  refine ⟨rfl, rfl, rfl, by decide⟩

end BuildLoop.Command
