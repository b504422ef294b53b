import Mathlib.Data.List.Basic
import BuildLoop.Command.Line

/-!
# Splitting command lines

Arguments that hold neither blanks nor quotes come back, in order, from the line in which single blanks stand
between them. Whatever arguments are made of, they come back from a line in which each character stands between
quotes:

    split (" ".intercalate args) = .ok args                                        (split_intercalate)
    split (quotedLine w rest) = .ok (w :: rest.map (·.2))                           (split_quotedLine)

Either quote may hold the other and blanks, and pieces of an argument may follow one another without a blank.
A line is closed if each of its quotes has its partner; a line that is not is left open at one place. Splitting
refuses what is left open and what holds nothing but blanks:

    split line = refused   ↔   LeftOpen line, or all of line is blank               (split_eq_error)
-/

namespace BuildLoop.Command

open Text

/-- Either quote. -/
def IsQuote (c : Char) : Prop := c = '\'' ∨ c = '"'

instance (c : Char) : Decidable (IsQuote c) := inferInstanceAs (Decidable (c = '\'' ∨ c = '"'))

theorem not_isQuote {c : Char} (hblank : isBlank c = true) : ¬ IsQuote c := by
  rintro (rfl | rfl)
  · cases hblank
  · cases hblank

/-- Texts in which each quote that opens is closed by the next one of its kind. -/
inductive Closed : List Char → Prop
  | nil : Closed []
  | plain {c : Char} {s : List Char} (hc : ¬ IsQuote c) (hs : Closed s) : Closed (c :: s)
  | quoted {q : Char} {inner s : List Char} (hq : IsQuote q) (hinner : q ∉ inner) (hs : Closed s) :
    Closed (q :: (inner ++ q :: s))

/-- Whether a quote opens after a closed part of a text, and no quote of its kind follows. -/
def LeftOpen (s : List Char) : Prop := ∃ t q r, s = t ++ q :: r ∧ Closed t ∧ IsQuote q ∧ q ∉ r

variable {q c : Char} {s r inner gap : List Char} {argument : Option (List Char)} {before out : List String}

/-! ## Steps of the scan -/

/-- A quote starts an argument, if none is under way. -/
theorem splitFrom_quote (hq : IsQuote q) :
    splitFrom none argument before (q :: r) = splitFrom (some q) (some (argument.getD [])) before r := by
  cases argument with
  | none =>
    rw [splitFrom]
    exact if_pos hq
  | some piece =>
    rw [splitFrom]
    exact if_pos hq

theorem splitFrom_plain (hq : ¬ IsQuote c) (hblank : isBlank c = false) :
    splitFrom none argument before (c :: r) = splitFrom none (some (c :: argument.getD [])) before r := by
  have hblank := Bool.eq_false_iff.1 hblank
  cases argument with
  | none =>
    rw [splitFrom, if_neg hblank]
    exact if_neg hq
  | some piece =>
    rw [splitFrom, if_neg hblank]
    exact if_neg hq

/-- A blank ends the argument under way. -/
theorem splitFrom_blank_some (hblank : isBlank c = true) (piece : List Char) :
    splitFrom none (some piece) before (c :: r) =
      splitFrom none none (String.ofList piece.reverse :: before) r := by
  rw [splitFrom, if_pos hblank]
  exact if_neg (not_isQuote hblank)

theorem splitFrom_blank_none (hblank : isBlank c = true) :
    splitFrom none none before (c :: r) = splitFrom none none before r := by
  rw [splitFrom, if_pos hblank]
  exact if_neg (not_isQuote hblank)

/-- What stands between two quotes of a kind is put on the argument under way. -/
theorem splitFrom_inside (hinner : q ∉ inner) (piece : List Char) :
    splitFrom (some q) (some piece) before (inner ++ q :: r) =
      splitFrom none (some (inner.reverse ++ piece)) before r := by
  induction inner generalizing piece with
  | nil =>
    rw [List.nil_append, splitFrom]
    exact if_pos rfl
  | cons c inner ih =>
    rw [List.mem_cons, not_or] at hinner
    rw [List.cons_append, splitFrom, if_neg fun h => hinner.1 h.symm, Option.getD_some, ih hinner.2,
      List.reverse_cons, List.append_assoc]
    rfl

theorem splitFrom_between (hq : IsQuote q) (hinner : q ∉ inner) :
    splitFrom none argument before (q :: (inner ++ q :: r)) =
      splitFrom none (some (inner.reverse ++ argument.getD [])) before r := by
  rw [splitFrom_quote hq, splitFrom_inside hinner]

theorem splitFrom_unfinished (hr : q ∉ r) : splitFrom (some q) argument before r = none := by
  induction r generalizing argument with
  | nil => rfl
  | cons c r ih =>
    rw [List.mem_cons, not_or] at hr
    rw [splitFrom, if_neg fun h => hr.1 h.symm]
    exact ih hr.2

/-! ## Plain arguments -/

/-- Whether an argument stands for itself in a command line. -/
structure IsPlain (w : String) : Prop where
  nonempty : w ≠ ""
  chars : ∀ c ∈ w.toList, isBlank c = false ∧ c ≠ '\'' ∧ c ≠ '"'

section
variable {w : String} {ws : List String}

/-- The characters of a plain argument are put on the argument under way. -/
theorem splitFrom_chars {s : List Char} (hs : ∀ c ∈ s, isBlank c = false ∧ c ≠ '\'' ∧ c ≠ '"') (piece : List Char)
    (before : List String) (r : List Char) :
    splitFrom none (some piece) before (s ++ r) = splitFrom none (some (s.reverse ++ piece)) before r := by
  induction s generalizing piece with
  | nil => rfl
  | cons c s ih =>
    obtain ⟨⟨hblank, hquote, hquotes⟩, hs⟩ := List.forall_mem_cons.1 hs
    have hq : ¬ IsQuote c := fun h => h.elim hquote hquotes
    rw [List.cons_append, splitFrom_plain hq hblank, Option.getD_some, ih hs, List.reverse_cons, List.append_assoc]
    rfl

theorem IsPlain.splitFrom_eq (hw : IsPlain w) (before : List String) (r : List Char) :
    splitFrom none none before (w.toList ++ r) = splitFrom none (some w.toList.reverse) before r := by
  have hchars := hw.chars
  obtain ⟨c, s, hcons⟩ := List.exists_cons_of_ne_nil fun h => hw.nonempty (String.toList_eq_nil_iff.1 h)
  rw [hcons] at hchars ⊢
  obtain ⟨⟨hblank, hquote, hquotes⟩, hs⟩ := List.forall_mem_cons.1 hchars
  have hq : ¬ IsQuote c := fun h => h.elim hquote hquotes
  rw [List.cons_append, splitFrom_plain hq hblank, Option.getD_none, splitFrom_chars hs, List.reverse_cons]

theorem splitFrom_intercalate (hws : ∀ w ∈ ws, IsPlain w) (hne : ws ≠ []) (before : List String) :
    splitFrom none none before (" ".intercalate ws).toList = some (before.reverse ++ ws) := by
  induction ws generalizing before with
  | nil => exact absurd rfl hne
  | cons w ws ih =>
    obtain ⟨hw, hws⟩ := List.forall_mem_cons.1 hws
    cases ws with
    | nil =>
      have hlast := hw.splitFrom_eq before []
      rw [List.append_nil] at hlast
      rw [String.intercalate_singleton, hlast]
      simp [splitFrom]
    | cons v ws =>
      have hline : (" ".intercalate (w :: v :: ws)).toList = w.toList ++ ' ' :: (" ".intercalate (v :: ws)).toList := by
        rw [String.intercalate_cons_cons, String.toList_append, String.toList_append, List.append_assoc]
        rfl
      rw [hline, hw.splitFrom_eq, splitFrom_blank_some rfl, ih hws (List.cons_ne_nil v ws), List.reverse_reverse,
        String.ofList_toList]
      simp

/-- A line of plain arguments is split into them. -/
theorem split_intercalate (hws : ∀ w ∈ ws, IsPlain w) (hne : ws ≠ []) : split (" ".intercalate ws) = .ok ws := by
  obtain ⟨w, ws, rfl⟩ := List.exists_cons_of_ne_nil hne
  rw [split, splitFrom_intercalate hws hne]
  rfl

/-- Arguments that are done stay the first ones. -/
theorem prefix_of_splitFrom {quote : Option Char} (h : Command.splitFrom quote argument before s = some out) :
    before.reverse <+: out := by
  fun_induction Command.splitFrom quote argument before s with
  | case1 => cases h
  | case2 =>
    cases h
    rw [List.reverse_cons]
    exact List.prefix_append _ _
  | case3 =>
    cases h
    exact List.prefix_refl _
  | case4 _ _ _ _ ih => exact ih h
  | case5 _ _ _ _ _ _ ih => exact ih h
  | case6 _ _ _ _ _ ih => exact ih h
  | case7 _ _ _ _ _ _ ih =>
    have hmore := ih h
    rw [List.reverse_cons] at hmore
    exact (List.prefix_append _ _).trans hmore
  | case8 _ _ _ _ _ ih => exact ih h
  | case9 _ _ _ _ _ _ ih => exact ih h

/-- A line that starts with a plain word and a blank is cut into this word and more. -/
theorem head_of_split {line : String} {argv : List String} (hw : IsPlain w)
    (hline : line.toList = w.toList ++ ' ' :: r) (h : split line = .ok argv) : ∃ args, argv = w :: args := by
  have hscan : Command.splitFrom none none [] line.toList = Command.splitFrom none none [w] r := by
    rw [hline, hw.splitFrom_eq, splitFrom_blank_some rfl, List.reverse_reverse, String.ofList_toList]
  unfold split at h
  split at h
  · cases h
  · cases h
  · next argv' _ hsome =>
    cases h
    obtain ⟨args, hargs⟩ := prefix_of_splitFrom (hscan.symm.trans hsome)
    exact ⟨args, hargs.symm⟩

end

/-! ## Quoting -/

/-- A character between quotes: a single quote between double ones, any other between single ones. -/
def quotedChar (c : Char) : List Char := if c = '\'' then ['"', c, '"'] else ['\'', c, '\'']

/-- An argument in quotes, character by character; an empty one is two quotes. -/
def quoted (w : String) : List Char := if w = "" then ['\'', '\''] else w.toList.flatMap quotedChar

/-- A line of arguments in quotes: the first one, and the others with what stands before each. -/
def quotedLine (w : String) (rest : List (List Char × String)) : List Char :=
  quoted w ++ rest.flatMap fun g => g.1 ++ quoted g.2

theorem splitFrom_quotedChar (c : Char) :
    splitFrom none argument before (quotedChar c ++ r) = splitFrom none (some (c :: argument.getD [])) before r := by
  unfold quotedChar
  by_cases hc : c = '\''
  · have hinner : '"' ∉ ['\''] := by decide
    rw [if_pos hc, hc]
    exact splitFrom_between (.inr rfl) hinner
  · have hinner : '\'' ∉ [c] := by simpa using fun h => hc h.symm
    rw [if_neg hc]
    exact splitFrom_between (.inl rfl) hinner

theorem splitFrom_flatMap_quotedChar (s : List Char) (piece : List Char) :
    splitFrom none (some piece) before (s.flatMap quotedChar ++ r) =
      splitFrom none (some (s.reverse ++ piece)) before r := by
  induction s generalizing piece with
  | nil => rfl
  | cons c s ih =>
    rw [List.flatMap_cons, List.append_assoc, splitFrom_quotedChar, ih, List.reverse_cons, List.append_assoc]
    rfl

/-- A quoted argument is under way once it is read. -/
theorem splitFrom_quoted (w : String) :
    splitFrom none none before (quoted w ++ r) = splitFrom none (some w.toList.reverse) before r := by
  unfold quoted
  by_cases hw : w = ""
  · have hinner : '\'' ∉ ([] : List Char) := List.not_mem_nil
    rw [if_pos hw, hw]
    exact splitFrom_between (.inl rfl) hinner
  · rw [if_neg hw]
    obtain ⟨c, s, hcons⟩ := List.exists_cons_of_ne_nil fun h => hw (String.toList_eq_nil_iff.1 h)
    rw [hcons, List.flatMap_cons, List.append_assoc, splitFrom_quotedChar, splitFrom_flatMap_quotedChar,
      List.reverse_cons]
    rfl

/-- Blanks between arguments end the one before them. -/
theorem splitFrom_gap (hne : gap ≠ []) (hgap : ∀ c ∈ gap, isBlank c = true) (piece : List Char) :
    splitFrom none (some piece) before (gap ++ r) =
      splitFrom none none (String.ofList piece.reverse :: before) r := by
  have hskip : ∀ {gap : List Char} {before : List String}, (∀ c ∈ gap, isBlank c = true) →
      splitFrom none none before (gap ++ r) = splitFrom none none before r := by
    intro gap before hgap
    induction gap with
    | nil => rfl
    | cons c gap ih =>
      obtain ⟨hc, hgap⟩ := List.forall_mem_cons.1 hgap
      rw [List.cons_append, splitFrom_blank_none hc, ih hgap]
  obtain ⟨c, gap, rfl⟩ := List.exists_cons_of_ne_nil hne
  obtain ⟨hc, hgap⟩ := List.forall_mem_cons.1 hgap
  rw [List.cons_append, splitFrom_blank_some hc, hskip hgap]

theorem splitFrom_quotedLine {rest : List (List Char × String)}
    (hgaps : ∀ g ∈ rest, g.1 ≠ [] ∧ ∀ c ∈ g.1, isBlank c = true) (w : String) :
    splitFrom none none before (quotedLine w rest) = some (before.reverse ++ w :: rest.map (·.2)) := by
  induction rest generalizing w before with
  | nil =>
    have hend : splitFrom none none before (quoted w ++ []) = splitFrom none (some w.toList.reverse) before [] :=
      splitFrom_quoted w
    rw [quotedLine, List.flatMap_nil, hend, splitFrom]
    simp
  | cons g rest ih =>
    obtain ⟨⟨hne, hgap⟩, hgaps⟩ := List.forall_mem_cons.1 hgaps
    have hline : quotedLine w (g :: rest) = quoted w ++ (g.1 ++ quotedLine g.2 rest) := by
      rw [quotedLine, List.flatMap_cons, List.append_assoc]
      rfl
    rw [hline, splitFrom_quoted, splitFrom_gap hne hgap, ih hgaps, List.reverse_reverse,
      String.ofList_toList]
    simp

/-- Arguments in quotes with blanks between them come back. -/
theorem split_quotedLine {rest : List (List Char × String)}
    (hgaps : ∀ g ∈ rest, g.1 ≠ [] ∧ ∀ c ∈ g.1, isBlank c = true) (w : String) :
    split (String.ofList (quotedLine w rest)) = .ok (w :: rest.map (·.2)) := by
  rw [split, String.toList_ofList, splitFrom_quotedLine hgaps]
  rfl

/-! ## Refusals -/

/-- A line is closed or left open. -/
theorem closed_or_leftOpen (s : List Char) : Closed s ∨ LeftOpen s := by
  induction h : s.length using Nat.strongRecOn generalizing s with
  | ind n ih =>
    cases s with
    | nil => exact .inl .nil
    | cons c r =>
      by_cases hq : IsQuote c
      · by_cases hmem : c ∈ r
        · obtain ⟨inner, behind, rfl, hinner⟩ := List.eq_append_cons_of_mem hmem
          have hshort : behind.length < n := by
            rw [← h, List.length_cons, List.length_append, List.length_cons]
            omega
          rcases ih _ hshort behind rfl with hclosed | ⟨t, q, r, rfl, ht, hopen⟩
          · exact .inl (.quoted hq hinner hclosed)
          · exact .inr ⟨c :: (inner ++ c :: t), q, r, by simp, .quoted hq hinner ht, hopen⟩
        · exact .inr ⟨[], c, r, rfl, .nil, hq, hmem⟩
      · have hshort : r.length < n := by
          rw [← h, List.length_cons]
          omega
        rcases ih _ hshort r rfl with hclosed | ⟨t, q, r, rfl, ht, hopen⟩
        · exact .inl (.plain hq hclosed)
        · exact .inr ⟨c :: t, q, r, rfl, .plain hq ht, hopen⟩

/-- After a closed part no quote is open. -/
theorem Closed.splitFrom (hs : Closed s) (argument : Option (List Char)) (before : List String) :
    ∃ argument' before', ∀ r, splitFrom none argument before (s ++ r) = splitFrom none argument' before' r := by
  induction hs generalizing argument before with
  | nil => exact ⟨argument, before, fun _ => rfl⟩
  | @plain c s hc _ ih =>
    by_cases hblank : isBlank c = true
    · cases argument with
      | none =>
        obtain ⟨argument', before', h⟩ := ih none before
        exact ⟨argument', before', fun r => by rw [List.cons_append, splitFrom_blank_none hblank, h]⟩
      | some piece =>
        obtain ⟨argument', before', h⟩ := ih none (String.ofList piece.reverse :: before)
        exact ⟨argument', before', fun r => by rw [List.cons_append, splitFrom_blank_some hblank, h]⟩
    · obtain ⟨argument', before', h⟩ := ih (some (c :: argument.getD [])) before
      refine ⟨argument', before', fun r => ?_⟩
      rw [List.cons_append, splitFrom_plain hc (Bool.eq_false_iff.2 hblank), h]
  | @quoted q inner s hq hinner _ ih =>
    obtain ⟨argument', before', h⟩ := ih (some (inner.reverse ++ argument.getD [])) before
    refine ⟨argument', before', fun r => ?_⟩
    rw [List.cons_append, List.append_assoc, List.cons_append, splitFrom_between hq hinner, h]

/-- The scan finds a quote open at its end exactly if one is left open. -/
theorem splitFrom_eq_none : Command.splitFrom none none [] s = none ↔ LeftOpen s := by
  constructor
  · intro hnone
    rcases closed_or_leftOpen s with hclosed | hopen
    · obtain ⟨argument, before, h⟩ := hclosed.splitFrom none []
      have hend := h []
      rw [List.append_nil, hnone] at hend
      cases argument with
      | none => cases hend
      | some piece => cases hend
    · exact hopen
  · rintro ⟨t, q, r, rfl, ht, hq, hr⟩
    obtain ⟨argument, before, h⟩ := ht.splitFrom none []
    rw [h, splitFrom_quote hq, splitFrom_unfinished hr]

/-- An argument that is under way or done is not lost. -/
theorem ne_nil_of_splitFrom {quote : Option Char} (h : Command.splitFrom quote argument before s = some out)
    (hsome : argument.isSome = true ∨ before ≠ []) : out ≠ [] := by
  fun_induction Command.splitFrom quote argument before s with
  | case1 => cases h
  | case2 => cases h; simp
  | case3 => cases h; simpa using hsome
  | case4 _ _ _ _ ih => exact ih h hsome
  | case5 _ _ _ _ _ _ ih => exact ih h (.inl rfl)
  | case6 _ _ _ _ _ ih => exact ih h (.inl rfl)
  | case7 _ _ _ _ _ _ ih => exact ih h (.inr (List.cons_ne_nil _ _))
  | case8 _ _ _ _ _ ih => exact ih h hsome
  | case9 _ _ _ _ _ _ ih => exact ih h (.inl rfl)

/-- The scan finds no argument exactly if all is blank. -/
theorem splitFrom_eq_nil : Command.splitFrom none none [] s = some [] ↔ ∀ c ∈ s, isBlank c = true := by
  induction s with
  | nil => simp [Command.splitFrom]
  | cons c s ih =>
    by_cases hblank : isBlank c = true
    · rw [splitFrom_blank_none hblank, ih, List.forall_mem_cons]
      exact ⟨fun h => ⟨hblank, h⟩, fun h => h.2⟩
    · refine ⟨fun h => ?_, fun h => absurd (h c List.mem_cons_self) hblank⟩
      by_cases hq : IsQuote c
      · rw [splitFrom_quote hq] at h
        exact absurd rfl (ne_nil_of_splitFrom h (.inl rfl))
      · rw [splitFrom_plain hq (Bool.eq_false_iff.2 hblank)] at h
        exact absurd rfl (ne_nil_of_splitFrom h (.inl rfl))

/-- A line is refused if a quote is left open or all of it is blank. -/
theorem split_eq_error {line : String} {e : Failure} : split line = .error e ↔
    LeftOpen line.toList ∧ e = .commandRejected line "unterminated quote" ∨
      (∀ c ∈ line.toList, isBlank c = true) ∧ e = .commandRejected line "empty command" := by
  rw [← splitFrom_eq_none, ← splitFrom_eq_nil, split]
  rcases Command.splitFrom none none [] line.toList with _ | (_ | ⟨w, ws⟩)
  · simp [eq_comm]
  · simp [eq_comm]
  · simp

/-- Splitting undoes quoting, whatever the arguments and the blanks between them are; and it refuses a line
exactly if a quote is left open in it or there is no argument in it. -/
theorem split_unquotes {rest : List (List Char × String)}
    (hgaps : ∀ g ∈ rest, g.1 ≠ [] ∧ ∀ c ∈ g.1, isBlank c = true) (w : String) :
    split (String.ofList (quotedLine w rest)) = .ok (w :: rest.map (·.2)) ∧
    ∀ line e, split line = .error e ↔
      LeftOpen line.toList ∧ e = .commandRejected line "unterminated quote" ∨
        (∀ c ∈ line.toList, isBlank c = true) ∧ e = .commandRejected line "empty command" :=
  ⟨split_quotedLine hgaps w, fun _ _ => split_eq_error⟩

/-- Both quotes, a blank and nothing as arguments. -/
theorem split_unquotes_apostrophe :
    String.ofList (quotedLine "it's" [([' ', '\t'], ""), (['\u3000'], "\" ")]) =
        "'i''t'\"'\"'s' \t''\u3000'\"'' '" ∧
      split "'i''t'\"'\"'s' \t''\u3000'\"'' '" = .ok ["it's", "", "\" "] := by
  have hline : String.ofList (quotedLine "it's" [([' ', '\t'], ""), (['\u3000'], "\" ")]) =
      "'i''t'\"'\"'s' \t''\u3000'\"'' '" := by decide
  have hall : ∀ g ∈ [([' ', '\t'], ""), (['\u3000'], "\" ")], g.1 ≠ [] ∧ g.1.all isBlank = true := by decide
  have hgaps : ∀ g ∈ [([' ', '\t'], ""), (['\u3000'], "\" ")], g.1 ≠ [] ∧ ∀ c ∈ g.1, isBlank c = true :=
    fun g hg => ⟨(hall g hg).1, List.all_eq_true.1 (hall g hg).2⟩
  exact ⟨hline, hline ▸ (split_unquotes hgaps "it's").1⟩

end BuildLoop.Command
