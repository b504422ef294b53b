import Mathlib.Algebra.Ring.Nat
import Mathlib.Data.List.Basic
import BuildLoop.Proofs.Completeness.Lexeme

/-!
# Nested brackets

A word of brackets is nested if each bracket is closed by its own, inside out. The check of brackets keeps
a stack of the brackets that are open; what it accepts are the texts that can be cut into lexemes whose
brackets are nested, and what it refuses has a fault at a place that it tells the line of:

    checkBrackets f s = ok   ↔   s can be cut, and its brackets are nested              (checkBrackets_iff)
    checkBrackets f s = error e   →   e.line + the line feeds escaped in strings before the fault
                                        = 1 + the line feeds before the fault            (checkBrackets_line)
-/

namespace BuildLoop.Completeness

open Text

/-! ## Words of brackets -/

/-- The brackets, each with the one that closes it. -/
def bracketPairs : List (Char × Char) := [('(', ')'), ('[', ']'), ('\x7b', '\x7d')]

/-- Whether `c` is a bracket. -/
def isBracket (c : Char) : Bool := bracketPairs.any fun p => c == p.1 || c == p.2

/-- Words of brackets in which each is closed by its own, inside out. -/
inductive Nested : List Char → Prop
  | nil : Nested []
  | pair {o c : Char} {u v : List Char} : (o, c) ∈ bracketPairs → Nested u → Nested v → Nested (o :: (u ++ c :: v))

theorem Nested.append {u v : List Char} (hu : Nested u) (hv : Nested v) : Nested (u ++ v) := by
  induction hu with
  | nil => exact hv
  | pair hp hu _ _ ih =>
    rw [List.cons_append, List.append_assoc, List.cons_append]
    exact .pair hp hu ih

/-- The brackets that are open after `c` closes the innermost. -/
def closed? (c : Char) : List Char → Option (List Char)
  | [] => none
  | o :: opened => if (o, c) ∈ bracketPairs then some opened else none

/-- The brackets that are open after a word, innermost first, if each that it closes is the innermost. -/
def settle : List Char → List Char → Option (List Char)
  | opened, [] => some opened
  | opened, c :: w => (if isOpener c then some (c :: opened) else closed? c opened).bind fun opened => settle opened w

section
variable {o c : Char} {opened u v w : List Char}

theorem isOpener_of_pair (h : (o, c) ∈ bracketPairs) : isOpener o = true ∧ isOpener c = false := by
  have hall : bracketPairs.all (fun p => isOpener p.1 && !isOpener p.2) = true := by decide
  simpa using List.all_eq_true.1 hall _ h

theorem opener?_eq_some : opener? c = some o ↔ (o, c) ∈ bracketPairs := by
  constructor
  · intro h
    unfold opener? at h
    split at h <;> cases h <;> decide
  · intro h
    have hall : bracketPairs.all (fun p => opener? p.2 == some p.1) = true := by decide
    simpa using List.all_eq_true.1 hall _ h

theorem settle_append : settle opened (u ++ v) = (settle opened u).bind fun opened => settle opened v := by
  induction u generalizing opened with
  | nil => rfl
  | cons c u ih =>
    rw [List.cons_append, settle, settle, Option.bind_assoc]
    exact congrArg (Option.bind _) (funext fun _ => ih)

theorem settle_opener (ho : isOpener o = true) : settle opened (o :: w) = settle (o :: opened) w := by
  rw [settle, if_pos ho]
  rfl

theorem isBracket_of_isOpener (ho : isOpener o = true) : isBracket o = true := by
  simp only [isOpener, Bool.or_eq_true, beq_iff_eq] at ho
  rcases ho with (rfl | rfl) | rfl <;> decide

theorem isBracket_of_pair (h : (o, c) ∈ bracketPairs) : isBracket o = true ∧ isBracket c = true := by
  have hall : bracketPairs.all (fun p => isBracket p.1 && isBracket p.2) = true := by decide
  simpa using List.all_eq_true.1 hall _ h

/-- A nested word leaves open what was open. -/
theorem Nested.settle (h : Nested w) : settle opened w = some opened := by
  induction h generalizing opened with
  | nil => rfl
  | @pair o c u v hp _ _ ihu ihv =>
    obtain ⟨ho, hc⟩ := isOpener_of_pair hp
    have hclose : Completeness.settle (o :: opened) (c :: v) = some opened := by
      rw [Completeness.settle, if_neg (by rw [hc]; decide), closed?, if_pos hp]
      exact ihv
    rw [settle_opener ho, settle_append, ihu]
    exact hclose

end

/-! ## Brackets of a text -/

/-- A character that is a lexeme of its own. -/
def Lexeme.single? : Lexeme → Option Char
  | single c => some c
  | _ => none

/-- The brackets outside comments and strings. -/
def brackets (ls : List Lexeme) : List Char := (ls.filterMap Lexeme.single?).filter isBracket

theorem brackets_append (ls ls' : List Lexeme) : brackets (ls ++ ls') = brackets ls ++ brackets ls' := by
  rw [brackets, List.filterMap_append, List.filter_append]
  rfl

theorem brackets_single {c : Char} (hc : isBracket c = true) (ls : List Lexeme) :
    brackets (.single c :: ls) = c :: brackets ls := by
  have hhead : (Lexeme.single c :: ls).filterMap Lexeme.single? = c :: ls.filterMap Lexeme.single? := rfl
  rw [brackets, hhead, List.filter_cons_of_pos hc]
  rfl

/-- A closing bracket closes the innermost or nothing. -/
theorem settle_closer {o c : Char} {opened : List Char} {ls : List Lexeme} (hp : (o, c) ∈ bracketPairs) :
    settle opened (brackets (.single c :: ls)) =
      (closed? c opened).bind fun opened => settle opened (brackets ls) := by
  rw [brackets_single (isBracket_of_pair hp).2, settle, if_neg (by rw [(isOpener_of_pair hp).2]; decide)]

/-- What lexemes are written as. -/
def textOf (ls : List Lexeme) : List Char := (ls.map Lexeme.text).flatten

/-- How many line feeds are escaped in the strings among lexemes. -/
def escapedIn (ls : List Lexeme) : Nat := (ls.map Lexeme.escaped).sum

theorem textOf_append (ls ls' : List Lexeme) : textOf (ls ++ ls') = textOf ls ++ textOf ls' := by
  simp [textOf]

theorem escapedIn_append (ls ls' : List Lexeme) : escapedIn (ls ++ ls') = escapedIn ls + escapedIn ls' := by
  simp [escapedIn]

/-- Whether a place is on a line as the check counts: a line feed that is escaped in a string ends none. -/
def OnLine (before : List Lexeme) (line : Nat) : Prop :=
  line + escapedIn before = 1 + (textOf before).count '\n'

theorem plainFeeds_add_escapedFeeds (b : List Char) : plainFeeds b + escapedFeeds b = b.count '\n' := by
  fun_induction plainFeeds b with
  | case1 => rfl
  | case2 => decide
  | case3 c r ih =>
    rw [escapedFeeds, List.count_cons, List.count_cons]
    by_cases hc : c = '\n' <;> simp [hc] <;> omega
  | case4 c r hne ih =>
    rw [escapedFeeds, List.count_cons]
    · by_cases hc : c = '\n' <;> simp [hc] <;> omega
    · exact fun _ _ h => absurd h (by simpa using hne)

/-- The line feeds of a lexeme that are not counted are escaped in a string. -/
theorem Begins.feeds_add_escaped {f : Family} {l : Lexeme} {rest : List Char} (h : Begins f l rest) :
    l.feeds + l.escaped = l.text.count '\n' := by
  cases h with
  | @enclosed e b _ hopen _ =>
    have hmarks : e.opening.count '\n' = 0 ∧ e.closing.count '\n' = 0 := by
      have hall : f.enclosures.all (fun e => e.opening.count '\n' == 0 && e.closing.count '\n' == 0) = true := by
        cases f <;> decide
      simpa using List.all_eq_true.1 hall e (List.mem_of_find?_eq_some hopen)
    rw [Lexeme.text, List.count_append, List.count_append, hmarks.1, hmarks.2, Lexeme.feeds, Lexeme.escaped]
    have hsum := plainFeeds_add_escapedFeeds b
    cases e.escapes
    · simp
    · simpa using hsum
  | @line mark b _ hmark hb _ =>
    have hnot : '\n' ∉ mark ++ b := by
      rw [List.mem_append, not_or]
      refine ⟨?_, hb⟩
      cases f <;> cases hmark <;> decide
    rw [Lexeme.text, List.count_eq_zero_of_not_mem hnot]
    rfl
  | @single c _ _ _ =>
    by_cases hc : c = '\n' <;> simp [Lexeme.feeds, Lexeme.escaped, Lexeme.text, hc]

theorem OnLine.step {f : Family} {l : Lexeme} {rest : List Char} {before : List Lexeme} {line : Nat}
    (h : OnLine before line) (hl : Begins f l rest) : OnLine (before ++ [l]) (line + l.feeds) := by
  have hfeeds := hl.feeds_add_escaped
  have htext : textOf [l] = l.text := by simp [textOf]
  have hescaped : escapedIn [l] = l.escaped := by simp [escapedIn]
  unfold OnLine at h ⊢
  rw [escapedIn_append, textOf_append, List.count_append, htext, hescaped]
  omega

/-- Whether these are the brackets that lexemes leave open, innermost first, with their lines. -/
inductive Opened : List Lexeme → List (Char × Nat) → Prop
  | nil {ls : List Lexeme} : Nested (brackets ls) → Opened ls []
  | cons {ls ls' : List Lexeme} {o : Char} {line : Nat} {opened : List (Char × Nat)} : Opened ls opened →
      isOpener o = true → OnLine ls line → Nested (brackets ls') → Opened (ls ++ .single o :: ls') ((o, line) :: opened)


namespace Opened

variable {f : Family} {ls ls' : List Lexeme} {o c : Char} {line n : Nat} {opened : List (Char × Nat)}

theorem append_nested (h : Opened ls opened) (hn : Nested (brackets ls')) : Opened (ls ++ ls') opened := by
  cases h with
  | nil h =>
    refine .nil ?_
    rw [brackets_append]
    exact h.append hn
  | cons h ho hline h' =>
    rw [List.append_assoc, List.cons_append]
    refine .cons h ho hline ?_
    rw [brackets_append]
    exact h'.append hn

theorem push (h : Opened ls opened) (ho : isOpener o = true) (hline : OnLine ls line) :
    Opened (ls ++ [.single o]) ((o, line) :: opened) := .cons h ho hline .nil

theorem pop (h : Opened ls ((o, n) :: opened)) (hc : (o, c) ∈ bracketPairs) :
    Opened (ls ++ [.single c]) opened := by
  cases h with
  | @cons ls ls' _ _ _ h ho hline hn =>
    have hbracket := isBracket_of_pair hc
    rw [List.append_assoc, List.cons_append]
    refine h.append_nested ?_
    rw [brackets_single hbracket.1, brackets_append, brackets_single hbracket.2]
    exact .pair hc hn .nil

/-- The brackets that are open are those that the word of the brackets leaves open. -/
theorem settle (h : Opened ls opened) : Completeness.settle [] (brackets ls) = some (opened.map Prod.fst) := by
  induction h with
  | nil h => exact h.settle
  | @cons ls ls' o n opened _ ho _ hn ih =>
    have hlast : Completeness.settle (opened.map Prod.fst) (o :: brackets ls') = some (o :: opened.map Prod.fst) := by
      rw [settle_opener ho]
      exact hn.settle
    rw [brackets_append, brackets_single (isBracket_of_isOpener ho), settle_append, ih]
    exact hlast

end Opened

/-! ## Faults -/

/-- What is wrong at a place, where `opened` are the brackets open before it, and what is said of it. -/
inductive Fault (f : Family) (opened : List (Char × Nat)) : List Char → String → Prop
  /-- A bracket closes none, -/
  | unmatched {o c : Char} {after : List Char} : Begins f (.single c) after → (o, c) ∈ bracketPairs → opened = [] →
      Fault f opened (c :: after) ("unmatched " ++ inQuotes c.toString)
  /-- or another than the innermost. -/
  | mismatched {o o' c : Char} {n : Nat} {outer : List (Char × Nat)} {after : List Char} :
      Begins f (.single c) after → (o, c) ∈ bracketPairs → opened = (o', n) :: outer → o' ≠ o →
      Fault f opened (c :: after) (inQuotes c.toString ++ " closes " ++ inQuotes o'.toString ++ " opened on line " ++
        toString n)
  /-- A bracket is never closed: what follows it is nested. -/
  | unclosed {o : Char} {after : List Char} {ls : List Lexeme} : Begins f (.single o) after → isOpener o = true →
      Cuts f after ls [] → Nested (brackets ls) →
      Fault f opened (o :: after) (inQuotes o.toString ++ " is never closed")
  /-- A comment or a string never ends. -/
  | unended {e : Enclosure} {place : List Char} : f.enclosure? place = some e →
      (∀ b rest, place = e.opening ++ b ++ e.closing ++ rest → ¬ e.Body b) → Fault f opened place e.complaint

/-- Whether a text has a fault where the lexemes `before` end, on the line that is told. -/
structure Located (f : Family) (s : List Char) (before : List Lexeme) (e : Imbalance) : Prop where
  place : ∃ opened place, Cuts f s before place ∧ Opened before opened ∧ Fault f opened place e.message
  line : OnLine before e.line

section
variable {f : Family} {s rest : List Char} {before : List Lexeme} {line : Nat} {opened : List (Char × Nat)}

/-- What the check has come to: the lexemes before a place, the brackets they leave open, and the line. -/
structure Reached (f : Family) (s : List Char) (before : List Lexeme) (line : Nat) (opened : List (Char × Nat))
    (rest : List Char) : Prop where
  cut : Cuts f s before rest
  opened : Opened before opened
  line : OnLine before line

/-- One lexeme leads on, or it is a bracket that closes none or the wrong one. -/
theorem Reached.step {l : Lexeme} (hl : Begins f l rest) (h : Reached f s before line opened (l.text ++ rest)) :
    (∃ opened', l.pass line opened = .ok opened' ∧
      Reached f s (before ++ [l]) (line + l.feeds) opened' rest) ∨
    ∃ e, l.pass line opened = .error e ∧ Located f s before e := by
  have hcut : Cuts f s (before ++ [l]) rest := h.cut.append (.cons hl .nil)
  have hline := h.line.step hl
  have hother : brackets [l] = [] → Reached f s (before ++ [l]) (line + l.feeds) opened rest := by
    intro hnone
    exact ⟨hcut, h.opened.append_nested (hnone ▸ .nil), hline⟩
  cases l with
  | enclosed e b => exact .inl ⟨opened, rfl, hother rfl⟩
  | line text => exact .inl ⟨opened, rfl, hother rfl⟩
  | single c =>
    cases ho : isOpener c with
    | true =>
      have hpass : pass c line opened = .ok ((c, line) :: opened) := by
        rw [pass, if_pos ho]
      exact .inl ⟨_, hpass, hcut, h.opened.push ho h.line, hline⟩
    | false =>
      cases hc : opener? c with
      | none =>
        have hpass : pass c line opened = .ok opened := by
          rw [pass, if_neg (by rw [ho]; decide), hc]
        refine .inl ⟨_, hpass, hother ?_⟩
        have hbracket : isBracket c = false := by
          rw [Bool.eq_false_iff]
          intro hbracket
          obtain ⟨p, hp, hsame⟩ := List.any_eq_true.1 hbracket
          rw [Bool.or_eq_true, beq_iff_eq, beq_iff_eq] at hsame
          rcases hsame with rfl | rfl
          · rw [(isOpener_of_pair hp).1] at ho
            cases ho
          · rw [opener?_eq_some.2 hp] at hc
            cases hc
        have hnil : ([c].filter isBracket) = [] := List.filter_cons_of_neg (by rw [hbracket]; decide)
        exact hnil
      | some o =>
        have hp := opener?_eq_some.1 hc
        cases opened with
        | nil =>
          have hpass : pass c line [] = .error ⟨line, "unmatched " ++ inQuotes c.toString⟩ := by
            rw [pass, if_neg (by rw [ho]; decide), hc]
          exact .inr ⟨_, hpass, ⟨_, _, h.cut, h.opened, .unmatched hl hp rfl⟩, h.line⟩
        | cons p outer =>
          obtain ⟨o', n⟩ := p
          by_cases hsame : o' = o
          · subst hsame
            have hpass : pass c line ((o', n) :: outer) = .ok outer := by
              rw [pass, if_neg (by rw [ho]; decide), hc]
              exact if_pos rfl
            exact .inl ⟨_, hpass, hcut, h.opened.pop hp, hline⟩
          · have hpass : pass c line ((o', n) :: outer) = .error ⟨line, inQuotes c.toString ++ " closes " ++
                inQuotes o'.toString ++ " opened on line " ++ toString n⟩ := by
              rw [pass, if_neg (by rw [ho]; decide), hc]
              exact if_neg hsame
            exact .inr ⟨_, hpass, ⟨_, _, h.cut, h.opened, .mismatched hl hp rfl hsame⟩, h.line⟩

/-- At the end of the text no bracket is open, or the innermost is never closed. -/
theorem Reached.finish (h : Reached f s before line opened []) :
    (checkFrom f line opened [] = .ok () ∧ Nested (brackets before)) ∨
    ∃ e before', checkFrom f line opened [] = .error e ∧ Located f s before' e := by
  have hcut := h.cut
  cases h.opened with
  | nil hn => exact .inl ⟨by rw [checkFrom], hn⟩
  | @cons ls ls' o n outer houter ho hline hn =>
    right
    obtain ⟨m, hleft, hright⟩ := hcut.of_append
    cases hright with
    | cons hl hright =>
      refine ⟨⟨n, inQuotes o.toString ++ " is never closed"⟩, ls, by rw [checkFrom], ⟨outer, _, hleft, houter, ?_⟩,
        hline⟩
      exact .unclosed hl ho hright hn

/-- A run of the check: it accepts what can be cut to the end with its brackets nested, or it tells a fault
and its line. -/
theorem Reached.run (h : Reached f s before line opened rest) :
    (checkFrom f line opened rest = .ok () ∧ ∃ ls, Cuts f s ls [] ∧ Nested (brackets ls)) ∨
    ∃ e before', checkFrom f line opened rest = .error e ∧ Located f s before' e := by
  induction hn : rest.length using Nat.strongRecOn generalizing before line opened rest with
  | _ n ih =>
    subst hn
    by_cases hnil : rest = []
    · subst hnil
      rcases h.finish with ⟨hok, hnested⟩ | hfault
      · exact .inl ⟨hok, before, h.cut, hnested⟩
      · exact .inr hfault
    · rcases begins_or_open (f := f) hnil with ⟨l, rest, rfl, hl⟩ | ⟨e, inside, hopen, hopens, hnone⟩
      · rw [checkFrom_lexeme hl]
        rcases Reached.step hl h with ⟨opened', hpass, hreached⟩ | ⟨e, hpass, hlocated⟩
        · rw [hpass]
          have hpos := List.length_pos_iff.2 hl.text_ne_nil
          exact ih rest.length (by rw [List.length_append]; omega) hreached rfl
        · exact .inr ⟨e, before, by rw [hpass]; rfl, hlocated⟩
      · refine .inr ⟨_, before, checkFrom_open hopens hnone, ⟨opened, rest, h.cut, h.opened, ?_⟩, h.line⟩
        refine .unended hopen fun b rest' hrest => hnone b rest' ?_
        rw [hopens.eq, List.append_assoc, List.append_assoc] at hrest
        rw [List.append_cancel_left hrest, List.append_assoc]

end

/-! ## Texts that can be cut -/

section
variable {f : Family} {s place r : List Char} {l : Lexeme} {before ls : List Lexeme}

theorem Cuts.of_begins (hl : Begins f l r) (h : Cuts f (l.text ++ r) ls []) :
    ∃ ls', ls = l :: ls' ∧ Cuts f r ls' [] := by
  generalize htext : l.text ++ r = s at h
  cases h with
  | nil => exact absurd (List.append_eq_nil_iff.1 htext).1 hl.text_ne_nil
  | @cons l' _ _ ls' hl' h =>
    obtain ⟨rfl, rfl⟩ := hl.unique hl' htext
    exact ⟨ls', rfl, h⟩

theorem Cuts.of_prefix (h : Cuts f s before place) (hall : Cuts f s ls []) :
    ∃ ls', ls = before ++ ls' ∧ Cuts f place ls' [] := by
  induction h generalizing ls with
  | nil => exact ⟨ls, rfl, hall⟩
  | cons hl _ ih =>
    obtain ⟨ls', rfl, hrest⟩ := hall.of_begins hl
    obtain ⟨ls'', rfl, hplace⟩ := ih hrest
    exact ⟨ls'', rfl, hplace⟩

/-- A text that can be cut, with nested brackets, has no fault. -/
theorem not_located {e : Imbalance} (hall : Cuts f s ls []) (hn : Nested (brackets ls)) : ¬ Located f s before e := by
  rintro ⟨⟨opened, place, hcut, hopened, hfault⟩, -⟩
  obtain ⟨ls', rfl, hplace⟩ := hcut.of_prefix hall
  have hsettle : settle (opened.map Prod.fst) (brackets ls') = some [] := by
    have hall : settle [] (brackets (before ++ ls')) = some [] := hn.settle
    rwa [brackets_append, settle_append, hopened.settle] at hall
  generalize hmessage : e.message = message at hfault
  cases hfault with
  | @unmatched o c _ hl hp hnil =>
    obtain ⟨ls'', rfl, -⟩ := hplace.of_begins hl
    have hnone : settle (opened.map Prod.fst) (brackets (.single c :: ls'')) = none := by
      rw [settle_closer hp, hnil]
      rfl
    rw [hnone] at hsettle
    cases hsettle
  | @mismatched o o' c n outer _ hl hp hopen hne =>
    obtain ⟨ls'', rfl, -⟩ := hplace.of_begins hl
    have hnot : (o', c) ∉ bracketPairs := fun hp' =>
      hne (Option.some.inj ((opener?_eq_some.2 hp').symm.trans (opener?_eq_some.2 hp)))
    have hnone : settle (opened.map Prod.fst) (brackets (.single c :: ls'')) = none := by
      rw [settle_closer hp, hopen, List.map_cons, closed?, if_neg hnot]
      rfl
    rw [hnone] at hsettle
    cases hsettle
  | @unclosed o _ ls hl ho hrest hnested =>
    obtain ⟨ls'', rfl, hrest'⟩ := hplace.of_begins hl
    obtain rfl := hrest.unique hrest'
    have hmore : settle (opened.map Prod.fst) (brackets (.single o :: ls)) = some (o :: opened.map Prod.fst) := by
      rw [brackets_single (isBracket_of_isOpener ho), settle_opener ho]
      exact hnested.settle
    rw [hmore] at hsettle
    cases hsettle
  | @unended e _ hopen hnone =>
    cases hplace with
    | nil => cases f <;> cases hopen
    | cons hl _ =>
      cases hl with
      | @enclosed e' b _ hopen' hb =>
        obtain rfl := Option.some.inj (hopen.symm.trans hopen')
        exact hnone b _ rfl hb
      | line hmark _ _ =>
        rw [Lexeme.text, List.append_assoc, Family.enclosure?_of_lineMark hmark] at hopen
        cases hopen
      | single hnone' _ =>
        cases hnone'.symm.trans hopen

/-- The check ends on every text, and accepts it if every comment and every string ends and the brackets
outside them are nested. -/
theorem checkBrackets_iff (f : Family) (s : String) : checkBrackets f s = .ok () ↔
    (∃ ls, Cuts f s.toList ls []) ∧ ∀ ls, Cuts f s.toList ls [] → Nested (brackets ls) := by
  have hstart : Reached f s.toList [] 1 [] s.toList := ⟨.nil, .nil .nil, rfl⟩
  constructor
  · intro hok
    rcases hstart.run with ⟨-, ls, hcut, hn⟩ | ⟨e, before, herror, -⟩
    · refine ⟨⟨ls, hcut⟩, fun ls' hcut' => ?_⟩
      rwa [hcut'.unique hcut]
    · cases hok.symm.trans herror
  · rintro ⟨⟨ls, hcut⟩, hn⟩
    rcases hstart.run with ⟨hok, -⟩ | ⟨e, before, -, hlocated⟩
    · exact hok
    · exact absurd hlocated (not_located hcut (hn ls hcut))

/-- The line of a fault is one more than the line feeds before it that are not escaped in a string. -/
theorem checkBrackets_line {f : Family} {s : String} {e : Imbalance} (h : checkBrackets f s = .error e) :
    ∃ before opened place, s.toList = textOf before ++ place ∧ Cuts f s.toList before place ∧
      Opened before opened ∧ Fault f opened place e.message ∧
      e.line + escapedIn before = 1 + (textOf before).count '\n' ∧
      (escapedIn before = 0 → e.line = 1 + (textOf before).count '\n') := by
  have hstart : Reached f s.toList [] 1 [] s.toList := ⟨.nil, .nil .nil, rfl⟩
  rcases hstart.run with ⟨hok, -⟩ | ⟨e', before, herror, ⟨opened, place, hcut, hopened, hfault⟩, hline⟩
  · cases h.symm.trans hok
  · obtain rfl := Except.error.inj (h.symm.trans herror)
    exact ⟨before, opened, place, hcut.text, hcut, hopened, hfault, hline, fun hnone => by
      unfold OnLine at hline
      omega⟩

end

/-! ## A line feed in a string -/

/-- A string with an escaped line feed, a line feed and a bracket that closes nothing. -/
def escapedFeedText : String := "'a\\\nb'\n)"

/-- What precedes the bracket. -/
def escapedFeedLexemes : List Lexeme := [.enclosed (quotes '\'') ['a', '\\', '\n', 'b'], .single '\n']

theorem checkBrackets_escapedFeed : checkBrackets .script escapedFeedText = .error ⟨2, "unmatched ')'"⟩ := by
  decide +kernel

theorem checkBrackets_line_escapedFeed : ∃ e before opened place,
    checkBrackets .script escapedFeedText = .error e ∧ Cuts .script escapedFeedText.toList before place ∧
      Opened before opened ∧ Fault .script opened place e.message ∧
      e.line + escapedIn before = 1 + (textOf before).count '\n' := by
  obtain ⟨before, opened, place, -, hcut, hopened, hfault, hline, -⟩ := checkBrackets_line checkBrackets_escapedFeed
  exact ⟨_, before, opened, place, checkBrackets_escapedFeed, hcut, hopened, hfault, hline⟩

/-- The bracket stands behind two line feeds and is told on line 2. -/
theorem checkBrackets_line_short : checkBrackets .script escapedFeedText = .error ⟨2, "unmatched ')'"⟩ ∧
    Cuts .script escapedFeedText.toList escapedFeedLexemes [')'] ∧
    Fault .script [] [')'] "unmatched ')'" ∧ 1 + (textOf escapedFeedLexemes).count '\n' = 3 := by
  have hplain : ∀ {c : Char} {b : List Char}, c ≠ '\\' → c ≠ '\'' → c ≠ '\n' → (quotes '\'').Body b →
      (quotes '\'').Body (c :: b) := by
    intro c b hslash hquote hfeed hb
    exact .plain (fun _ => hslash) (fun ⟨t, ht⟩ => hquote (List.cons.inj ht).1.symm) (fun h => absurd h hfeed) hb
  have hbody : (quotes '\'').Body ['a', '\\', '\n', 'b'] :=
    hplain (by decide) (by decide) (by decide)
      (.escape '\n' rfl (hplain (by decide) (by decide) (by decide) .nil))
  have hsingle : ∀ {c : Char} {r : List Char}, Family.script.enclosure? (c :: r) = none → c ≠ '/' →
      Begins .script (.single c) r := by
    intro c r hnone hslash
    refine .single hnone fun mark hmark ⟨t, ht⟩ => ?_
    obtain rfl := Option.some.inj hmark
    exact hslash (List.cons.inj ht).1.symm
  refine ⟨checkBrackets_escapedFeed, ?_, ?_, by decide⟩
  · exact .cons (.enclosed (by decide) hbody) (.cons (hsingle (by decide) (by decide)) .nil)
  · exact .unmatched (o := '(') (hsingle (by decide) (by decide)) (by decide) rfl

end BuildLoop.Completeness
