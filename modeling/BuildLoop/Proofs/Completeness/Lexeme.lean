import BuildLoop.Proofs.Completeness.Brackets

/-!
# Lexemes

What the texts of a family are cut into: enclosures, which are comments and strings with an end of their
own, comments up to the end of a line, and single characters. `Begins f l rest` says that `l` is the lexeme
before `rest`; it chooses nothing, since at each place there is at most one:

    Cuts f s ls [], Cuts f s ls' []   →   ls = ls'                                       (Cuts.unique)

The check of brackets takes one lexeme after the other, or stops at an enclosure without an end:

    Begins f l rest   →   the check goes on at `rest`, with the brackets of l     (checkFrom_lexeme)
    s is not empty    →   s begins with a lexeme, or with an enclosure that does not end (begins_or_open)
-/

namespace BuildLoop.Completeness

open Text

/-! ## What texts are cut into -/

/-- What runs from an opening to the next closing that counts. -/
structure Enclosure where
  opening : List Char
  closing : List Char
  /-- Whether a backslash takes the character after it into the body. -/
  escapes : Bool
  /-- Whether a line feed may stand in the body that no backslash precedes. -/
  multiline : Bool
  /-- What is said of one without an end. -/
  complaint : String
  deriving DecidableEq

/-- A comment `/* */`. -/
def blockComment : Enclosure :=
  ⟨['/', '*'], ['*', '/'], false, true, "unterminated block comment"⟩

/-- A string in tripled quotes. -/
def tripledQuotes (q : Char) : Enclosure :=
  ⟨[q, q, q], [q, q, q], true, true, "unterminated triple-quoted string"⟩

/-- A string in quotes, on one line unless they are back quotes. -/
def quotes (q : Char) : Enclosure :=
  ⟨[q], [q], true, q == '\x60', "unterminated string literal " ++ q.toString⟩

/-- What may stand between the opening and the closing. -/
inductive Enclosure.Body (e : Enclosure) : List Char → Prop
  | nil : e.Body []
  | escape {b : List Char} (c : Char) : e.escapes = true → e.Body b → e.Body ('\\' :: c :: b)
  /-- A character at which no escape begins and the closing does not come yet. -/
  | plain {c : Char} {b : List Char} : (e.escapes = true → c ≠ '\\') →
      ¬ e.closing <+: c :: (b ++ e.closing) → (c = '\n' → e.multiline = true) → e.Body b → e.Body (c :: b)

namespace Family

/-- The enclosures of a family; where two could begin, the first does. -/
def enclosures : Family → List Enclosure
  | script => [blockComment, quotes '"', quotes '\'', quotes '\x60']
  | style => [blockComment, quotes '"', quotes '\'']
  | python => [tripledQuotes '"', tripledQuotes '\'', quotes '"', quotes '\'']

/-- What opens a comment up to the end of its line. -/
def lineMark? : Family → Option (List Char)
  | script => some ['/', '/']
  | style => none
  | python => some ['#']

/-- The enclosure that opens at a place. -/
def enclosure? (f : Family) (s : List Char) : Option Enclosure :=
  f.enclosures.find? fun e => e.opening.isPrefixOf s

end Family

/-- A piece of a text. -/
inductive Lexeme where
  | enclosed (e : Enclosure) (body : List Char)
  | line (text : List Char)
  | single (c : Char)

/-- How a piece is written. -/
def Lexeme.text : Lexeme → List Char
  | enclosed e body => e.opening ++ body ++ e.closing
  | line text => text
  | single c => [c]

/-- Whether `l` is the lexeme before `rest`. -/
inductive Begins (f : Family) : Lexeme → List Char → Prop
  | enclosed {e : Enclosure} {b rest : List Char} : f.enclosure? (e.opening ++ b ++ e.closing ++ rest) = some e →
      e.Body b → Begins f (.enclosed e b) rest
  | line {mark b rest : List Char} : f.lineMark? = some mark → '\n' ∉ b → (∀ c ∈ rest.head?, c = '\n') →
      Begins f (.line (mark ++ b)) rest
  | single {c : Char} {rest : List Char} : f.enclosure? (c :: rest) = none →
      (∀ mark ∈ f.lineMark?, ¬ mark <+: c :: rest) → Begins f (.single c) rest

/-- Whether a text is cut into `ls` up to a place, from which on `rest` stands there. -/
inductive Cuts (f : Family) : List Char → List Lexeme → List Char → Prop
  | nil {s : List Char} : Cuts f s [] s
  | cons {l : Lexeme} {s rest : List Char} {ls : List Lexeme} : Begins f l s → Cuts f s ls rest →
      Cuts f (l.text ++ s) (l :: ls) rest

/-! ## Line feeds -/

/-- How many line feeds stand in the body of a string that no backslash precedes. -/
def plainFeeds : List Char → Nat
  | [] => 0
  | '\\' :: r =>
    match r with
    | [] => 0
    | _ :: r => plainFeeds r
  | c :: r => (if c = '\n' then 1 else 0) + plainFeeds r

/-- How many line feeds are escaped in the body of a string. -/
def escapedFeeds : List Char → Nat
  | '\\' :: c :: r => (if c = '\n' then 1 else 0) + escapedFeeds r
  | _ :: r => escapedFeeds r
  | [] => 0

/-- How many line feeds of a lexeme are escaped in a string. -/
def Lexeme.escaped : Lexeme → Nat
  | enclosed e body => if e.escapes then escapedFeeds body else 0
  | _ => 0

/-! ## One lexeme at a place -/

namespace Enclosure

variable {e : Enclosure} {c : Char} {b b' r r' : List Char}

/-- Whether the closing comes at a character does not depend on what follows the closing. -/
theorem prefix_closing : e.closing <+: c :: (b ++ (e.closing ++ r)) ↔ e.closing <+: c :: (b ++ e.closing) := by
  have hwhole : c :: (b ++ e.closing) <+: c :: (b ++ (e.closing ++ r)) := ⟨r, by simp⟩
  refine ⟨fun h => ?_, fun h => h.trans hwhole⟩
  exact List.prefix_of_prefix_length_le h hwhole (by simp; omega)

/-- The closing that counts comes once: two bodies that a closing follows are the same. -/
theorem Body.unique (hb : e.Body b) (hb' : e.Body b') (hescape : e.escapes = true → e.closing.head? ≠ some '\\')
    (hclosing : e.closing ≠ []) (h : b ++ (e.closing ++ r) = b' ++ (e.closing ++ r')) : b = b' := by
  have hnot : ∀ {x y : List Char}, e.escapes = true → e.closing ++ x ≠ '\\' :: y := by
    intro x y hesc heq
    obtain ⟨d, w, hw⟩ := List.exists_cons_of_ne_nil hclosing
    have hhead := hescape hesc
    rw [hw] at heq hhead
    exact hhead (congrArg some (List.cons.inj heq).1)
  induction hb generalizing b' with
  | nil =>
    cases hb' with
    | nil => rfl
    | escape c hesc _ => exact absurd h (hnot hesc)
    | plain _ hplain _ _ =>
      exact absurd (prefix_closing.1 ⟨r, h⟩) hplain
  | escape c hesc hb ih =>
    cases hb' with
    | nil => exact absurd h.symm (hnot hesc)
    | escape c' _ hb' =>
      rw [List.cons_append, List.cons_append, List.cons_append, List.cons_append] at h
      obtain ⟨rfl, hrest⟩ := List.cons.inj (List.cons.inj h).2
      rw [ih hb' hrest]
    | plain hne _ _ _ =>
      obtain ⟨rfl, -⟩ := List.cons.inj h
      exact absurd rfl (hne hesc)
  | plain hne hplain _ hb ih =>
    cases hb' with
    | nil => exact absurd (prefix_closing.1 ⟨r', h.symm⟩) hplain
    | escape c' hesc _ =>
      obtain ⟨rfl, -⟩ := List.cons.inj h
      exact absurd rfl (hne hesc)
    | plain _ _ _ hb' =>
      rw [List.cons_append, List.cons_append] at h
      obtain ⟨rfl, hrest⟩ := List.cons.inj h
      rw [ih hb' hrest]

end Enclosure

namespace Family

variable {f : Family} {e : Enclosure} {mark : List Char}

theorem closing_of_mem (he : e ∈ f.enclosures) :
    e.opening ≠ [] ∧ e.closing ≠ [] ∧ (e.escapes = true → e.closing.head? ≠ some '\\') := by
  have hall : f.enclosures.all (fun e => !e.opening.isEmpty && !e.closing.isEmpty &&
      (!e.escapes || e.closing.head? != some '\\')) = true := by
    cases f <;> decide
  have hmem := List.all_eq_true.1 hall e he
  simp only [Bool.and_eq_true, Bool.or_eq_true, Bool.not_eq_true', List.isEmpty_eq_false_iff, bne_iff_ne] at hmem
  refine ⟨hmem.1.1, hmem.1.2, fun hesc => hmem.2.resolve_left ?_⟩
  rw [hesc]
  decide

/-- Where a comment up to the end of the line opens, no enclosure does. -/
theorem enclosure?_of_lineMark (h : f.lineMark? = some mark) (s : List Char) : f.enclosure? (mark ++ s) = none := by
  cases f with
  | script => obtain rfl := Option.some.inj h; rfl
  | style => cases h
  | python => obtain rfl := Option.some.inj h; rfl

end Family

theorem eq_of_line {b b' r r' : List Char} (hb : '\n' ∉ b) (hb' : '\n' ∉ b') (hr : ∀ c ∈ r.head?, c = '\n')
    (hr' : ∀ c ∈ r'.head?, c = '\n') (h : b ++ r = b' ++ r') : b = b' := by
  have htake : ∀ {b r : List Char}, '\n' ∉ b → (∀ c ∈ r.head?, c = '\n') → (b ++ r).takeWhile (· != '\n') = b := by
    intro b r hb hr
    have hall : ∀ c ∈ b, (c != '\n') = true := by
      intro c hc
      rw [bne_iff_ne]
      rintro rfl
      exact hb hc
    rw [List.takeWhile_append_of_pos hall]
    cases r with
    | nil => simp
    | cons c r =>
      obtain rfl := hr c rfl
      simp
  rw [← htake hb hr, h, htake hb' hr']

section
variable {f : Family} {l l' : Lexeme} {r r' : List Char}

theorem Begins.text_ne_nil (h : Begins f l r) : l.text ≠ [] := by
  cases h with
  | enclosed hopen _ =>
    have hne := (Family.closing_of_mem (List.mem_of_find?_eq_some hopen)).1
    simp [Lexeme.text, hne]
  | line hmark _ _ =>
    cases f <;> cases hmark <;> simp [Lexeme.text]
  | single => simp [Lexeme.text]

/-- At each place there is at most one lexeme. -/
theorem Begins.unique (h : Begins f l r) (h' : Begins f l' r') (htext : l.text ++ r = l'.text ++ r') :
    l = l' ∧ r = r' := by
  suffices hl : l = l' by
    subst hl
    exact ⟨rfl, List.append_cancel_left htext⟩
  cases h with
  | @enclosed e b _ hopen hb =>
    cases h' with
    | @enclosed e' b' _ hopen' hb' =>
      have htext : e.opening ++ b ++ e.closing ++ r = e'.opening ++ b' ++ e'.closing ++ r' := htext
      rw [htext] at hopen
      obtain rfl := Option.some.inj (hopen.symm.trans hopen')
      obtain ⟨-, hclosing, hescape⟩ := Family.closing_of_mem (List.mem_of_find?_eq_some hopen')
      rw [hb.unique hb' hescape hclosing (by simpa using htext)]
    | line hmark =>
      have htext : e.opening ++ b ++ e.closing ++ r = _ ++ _ ++ r' := htext
      rw [htext, List.append_assoc, Family.enclosure?_of_lineMark hmark] at hopen
      cases hopen
    | single hnone =>
      have htext : e.opening ++ b ++ e.closing ++ r = _ := htext
      rw [htext] at hopen
      cases hnone.symm.trans hopen
  | @line mark b _ hmark hb hr =>
    cases h' with
    | enclosed hopen' =>
      have htext : mark ++ b ++ r = _ ++ _ ++ _ ++ r' := htext
      rw [← htext, List.append_assoc, Family.enclosure?_of_lineMark hmark] at hopen'
      cases hopen'
    | @line mark' b' _ hmark' hb' hr' =>
      obtain rfl := Option.some.inj (hmark.symm.trans hmark')
      have htext : mark ++ b ++ r = mark ++ b' ++ r' := htext
      rw [eq_of_line hb hb' hr hr' (by simpa using htext)]
    | single _ hnot =>
      have htext : mark ++ b ++ r = _ := htext
      exact absurd ⟨b ++ r, by rw [← List.append_assoc, htext]; rfl⟩ (hnot mark hmark)
  | @single c _ hnone hnot =>
    cases h' with
    | enclosed hopen' =>
      have htext : c :: r = _ ++ _ ++ _ ++ r' := htext
      rw [← htext, hnone] at hopen'
      cases hopen'
    | @line mark b _ hmark =>
      have htext : c :: r = mark ++ b ++ r' := htext
      exact absurd ⟨b ++ r', by rw [htext, List.append_assoc]⟩ (hnot mark hmark)
    | single =>
      obtain ⟨rfl, -⟩ := List.cons.inj (show c :: r = _ :: r' from htext)
      rfl

end

namespace Cuts

variable {f : Family} {s m rest : List Char} {ls ls' : List Lexeme}

theorem append (h : Cuts f s ls m) (h' : Cuts f m ls' rest) : Cuts f s (ls ++ ls') rest := by
  induction h with
  | nil => exact h'
  | cons hl _ ih => exact .cons hl (ih h')

theorem of_append (h : Cuts f s (ls ++ ls') rest) : ∃ m, Cuts f s ls m ∧ Cuts f m ls' rest := by
  induction ls generalizing s with
  | nil => exact ⟨s, .nil, h⟩
  | cons l ls ih =>
    cases h with
    | cons hl h =>
      obtain ⟨m, hleft, hright⟩ := ih h
      exact ⟨m, .cons hl hleft, hright⟩

/-- What is cut off is written in the text. -/
theorem text (h : Cuts f s ls rest) : s = (ls.map Lexeme.text).flatten ++ rest := by
  induction h with
  | nil => rfl
  | cons _ _ ih => rw [List.map_cons, List.flatten_cons, List.append_assoc, ← ih]

/-- A text is cut in one way only. -/
theorem unique (h : Cuts f s ls []) (h' : Cuts f s ls' []) : ls = ls' := by
  induction ls generalizing s ls' with
  | nil =>
    cases h
    generalize hs : ([] : List Char) = s at h'
    cases h' with
    | nil => rfl
    | cons hl _ => exact absurd (List.append_eq_nil_iff.1 hs.symm).1 hl.text_ne_nil
  | cons l ls ih =>
    cases h with
    | @cons _ s _ _ hl h =>
      generalize ht : l.text ++ s = t at h'
      cases h' with
      | nil => exact absurd (List.append_eq_nil_iff.1 ht).1 hl.text_ne_nil
      | cons hl' h' =>
        obtain ⟨rfl, rfl⟩ := hl.unique hl' ht
        rw [ih h h']

end Cuts

/-! ## Closings -/

section
variable {q : Char} {line line' : Nat} {b s rest : List Char}

theorem closeComment_body (hb : blockComment.Body b) :
    closeComment line (b ++ ['*', '/'] ++ rest) = some (line + b.count '\n', rest) := by
  induction hb generalizing line with
  | nil => rfl
  | escape c hesc => cases hesc
  | @plain c b _ hplain _ _ ih =>
    rw [List.cons_append, List.cons_append, closeComment, ih, List.count_cons]
    · by_cases hc : c = '\n' <;> simp [hc] <;> omega
    · rintro r rfl hr
      refine hplain ((Enclosure.prefix_closing (r := rest)).1 ⟨r, ?_⟩)
      rw [← List.append_assoc]
      simp [blockComment, hr]

theorem exists_body_of_closeComment (h : closeComment line s = some (line', rest)) :
    ∃ b, s = b ++ ['*', '/'] ++ rest ∧ blockComment.Body b := by
  fun_induction closeComment line s with
  | case1 => cases h
  | case2 line r =>
    cases h
    exact ⟨[], rfl, .nil⟩
  | case3 line c r hnot ih =>
    obtain ⟨b, rfl, hb⟩ := ih h
    refine ⟨c :: b, rfl, .plain (fun hesc => (by cases hesc)) (fun hprefix => ?_) (fun _ => rfl) hb⟩
    obtain ⟨t, ht⟩ := (Enclosure.prefix_closing (r := rest)).2 hprefix
    obtain ⟨rfl, hr⟩ := List.cons.inj ht
    exact hnot t rfl (by simpa [blockComment] using hr.symm)

theorem closeTriple_body (hq : q ≠ '\\') (hb : (tripledQuotes q).Body b) :
    closeTriple q line (b ++ [q, q, q] ++ rest) = some (line + plainFeeds b, rest) := by
  induction hb generalizing line with
  | nil =>
    show closeTriple q line (q :: ([q, q] ++ rest)) = some (line, rest)
    rw [closeTriple]
    · simp
    · exact fun h => absurd h hq
  | escape c hesc hb ih => exact ih
  | @plain c b hne hplain _ _ ih =>
    have hnot : ¬ ([q, q].isPrefixOf (b ++ [q, q, q] ++ rest) && c == q) = true := by
      intro hopen
      obtain ⟨hquotes, hsame⟩ := Bool.and_eq_true_iff.1 hopen
      obtain rfl := beq_iff_eq.1 hsame
      obtain ⟨t, ht⟩ := List.isPrefixOf_iff_prefix.1 hquotes
      refine hplain ((Enclosure.prefix_closing (r := rest)).1 ⟨t, ?_⟩)
      simpa [tripledQuotes] using ht
    rw [List.cons_append, List.cons_append, closeTriple, if_neg hnot, ih, plainFeeds]
    · by_cases hc : c = '\n' <;> simp [hc] <;> omega
    · exact hne rfl
    · exact hne rfl

theorem exists_body_of_closeTriple (h : closeTriple q line s = some (line', rest)) :
    ∃ b, s = b ++ [q, q, q] ++ rest ∧ (tripledQuotes q).Body b := by
  fun_induction closeTriple q line s with
  | case1 => cases h
  | case2 => cases h
  | case3 line c r ih =>
    obtain ⟨b, rfl, hb⟩ := ih h
    exact ⟨'\\' :: c :: b, rfl, .escape c rfl hb⟩
  | case4 line c r hne hopen =>
    obtain ⟨hquotes, hsame⟩ := Bool.and_eq_true_iff.1 hopen
    obtain rfl := beq_iff_eq.1 hsame
    obtain ⟨t, rfl⟩ := List.isPrefixOf_iff_prefix.1 hquotes
    cases h
    exact ⟨[], rfl, .nil⟩
  | case5 line c r hne hnot ih =>
    obtain ⟨b, rfl, hb⟩ := ih h
    refine ⟨c :: b, rfl, .plain (fun _ => hne) (fun hprefix => hnot ?_) (fun _ => rfl) hb⟩
    obtain ⟨t, ht⟩ := (Enclosure.prefix_closing (r := rest)).2 hprefix
    obtain ⟨rfl, hr⟩ := List.cons.inj ht
    rw [Bool.and_eq_true, beq_self_eq_true, List.isPrefixOf_iff_prefix]
    exact ⟨⟨t, by simpa [tripledQuotes] using hr⟩, rfl⟩

theorem closeString_body (hq : q ≠ '\\') (hb : (quotes q).Body b) :
    closeString q line (b ++ [q] ++ rest) = some (line + plainFeeds b, rest) := by
  induction hb generalizing line with
  | nil =>
    show closeString q line (q :: rest) = some (line, rest)
    rw [closeString]
    · simp
    · exact hq
  | escape c hesc hb ih => exact ih
  | @plain c b hne hplain hline _ ih =>
    have hnot : c ≠ q := by
      rintro rfl
      exact hplain ⟨_, rfl⟩
    rw [List.cons_append, List.cons_append, closeString, if_neg hnot, plainFeeds]
    · by_cases hc : c = '\n'
      · rw [if_pos hc, if_pos (beq_iff_eq.1 (hline hc)), ih, if_pos hc]
        simp only [Option.some.injEq, Prod.mk.injEq, and_true]
        omega
      · rw [if_neg hc, ih, if_neg hc, Nat.zero_add]
    · exact hne rfl
    · exact hne rfl

theorem exists_body_of_closeString (h : closeString q line s = some (line', rest)) :
    ∃ b, s = b ++ [q] ++ rest ∧ (quotes q).Body b := by
  have hplain : ∀ {c : Char} {b : List Char}, c ≠ q → ¬ (quotes q).closing <+: c :: (b ++ (quotes q).closing) := by
    intro c b hc hprefix
    obtain ⟨t, ht⟩ := hprefix
    exact hc (List.cons.inj ht).1.symm
  fun_induction closeString q line s with
  | case1 => cases h
  | case2 => cases h
  | case3 line c r ih =>
    obtain ⟨b, rfl, hb⟩ := ih h
    exact ⟨'\\' :: c :: b, rfl, .escape c rfl hb⟩
  | case4 line r hne =>
    cases h
    exact ⟨[], rfl, .nil⟩
  | case5 line r hback hne hnot ih =>
    obtain ⟨b, rfl, hb⟩ := ih h
    exact ⟨'\n' :: b, rfl, .plain (fun _ => hne) (hplain hnot) (fun _ => beq_iff_eq.2 hback) hb⟩
  | case6 => cases h
  | case7 line c r hne hnot hline ih =>
    obtain ⟨b, rfl, hb⟩ := ih h
    exact ⟨c :: b, rfl, .plain (fun _ => hne) (hplain hnot) (fun heq => absurd heq hline) hb⟩

end

/-! ## Steps of the check -/

/-- How many line feeds of a lexeme the check counts. -/
def Lexeme.feeds : Lexeme → Nat
  | enclosed e body => if e.escapes then plainFeeds body else body.count '\n'
  | line _ => 0
  | single c => if c = '\n' then 1 else 0

/-- The brackets that are open after a lexeme. -/
def Lexeme.pass (line : Nat) (opened : List (Char × Nat)) : Lexeme → Except Imbalance (List (Char × Nat))
  | single c => Completeness.pass c line opened
  | _ => .ok opened

section
variable {f : Family} {e : Enclosure} {line : Nat} {opened : List (Char × Nat)} {c q : Char} {r s rest : List Char}

/-- Whether the check takes what stands at a place for the enclosure `e`, in front of `inside`. -/
inductive Opens (f : Family) : Enclosure → List Char → List Char → Prop
  | comment {inside : List Char} : f.blockComment? ('/' :: '*' :: inside) = some inside →
      Opens f blockComment ('/' :: '*' :: inside) inside
  | tripled {q : Char} {inside : List Char} : q = '"' ∨ q = '\'' → f.blockComment? (q :: q :: q :: inside) = none →
      f.opensLineComment (q :: q :: q :: inside) = false →
      f.tripleQuote? (q :: q :: q :: inside) = some (q, inside) →
      Opens f (tripledQuotes q) (q :: q :: q :: inside) inside
  | quotes {q : Char} {inside : List Char} : q = '"' ∨ q = '\'' ∨ q = '\x60' → f.blockComment? (q :: inside) = none →
      f.opensLineComment (q :: inside) = false → f.tripleQuote? (q :: inside) = none → f.isQuote q = true →
      Opens f (quotes q) (q :: inside) inside

theorem Opens.eq {inside : List Char} (h : Opens f e s inside) : s = e.opening ++ inside := by
  cases h <;> rfl

/-- The enclosure that opens is the one that the check takes. -/
theorem opens_of_enclosure? (h : f.enclosure? s = some e) : ∃ inside, Opens f e s inside := by
  have hmem : e ∈ f.enclosures := List.mem_of_find?_eq_some h
  have hfind : f.enclosures.find? (fun e => e.opening.isPrefixOf s) = some e := h
  have hprefix := List.find?_some hfind
  obtain ⟨t, rfl⟩ := List.isPrefixOf_iff_prefix.1 hprefix
  refine ⟨t, ?_⟩
  cases f with
  | script =>
    simp only [Family.enclosures, List.mem_cons, List.not_mem_nil, or_false] at hmem
    rcases hmem with rfl | rfl | rfl | rfl
    · exact .comment rfl
    · exact .quotes (.inl rfl) rfl rfl rfl rfl
    · exact .quotes (.inr (.inl rfl)) rfl rfl rfl rfl
    · exact .quotes (.inr (.inr rfl)) rfl rfl rfl rfl
  | style =>
    simp only [Family.enclosures, List.mem_cons, List.not_mem_nil, or_false] at hmem
    rcases hmem with rfl | rfl | rfl
    · exact .comment rfl
    · exact .quotes (.inl rfl) rfl rfl rfl rfl
    · exact .quotes (.inr (.inl rfl)) rfl rfl rfl rfl
  | python =>
    have hsingle : ∀ {q : Char}, Family.python.enclosure? (q :: t) = some (quotes q) →
        Family.python.tripleQuote? (q :: t) = none := by
      intro q hopen
      unfold Family.tripleQuote?
      split
      · next heq =>
        obtain ⟨rfl, rfl⟩ := List.cons.inj heq
        exact absurd (Option.some.inj hopen) (by decide)
      · next heq =>
        obtain ⟨rfl, rfl⟩ := List.cons.inj heq
        exact absurd (Option.some.inj hopen) (by decide)
      · rfl
    simp only [Family.enclosures, List.mem_cons, List.not_mem_nil, or_false] at hmem
    rcases hmem with rfl | rfl | rfl | rfl
    · exact .tripled (.inl rfl) rfl rfl rfl
    · exact .tripled (.inr rfl) rfl rfl rfl
    · exact .quotes (.inl rfl) rfl rfl (hsingle h) rfl
    · exact .quotes (.inr (.inl rfl)) rfl rfl (hsingle h) rfl

/-- Behind an enclosure that ends the check goes on. -/
theorem checkFrom_enclosed {b : List Char} (h : Opens f e s (b ++ e.closing ++ rest)) (hb : e.Body b) :
    checkFrom f line opened s = checkFrom f (line + (Lexeme.enclosed e b).feeds) opened rest := by
  generalize hinside : b ++ e.closing ++ rest = inside at h
  cases h with
  | comment hopen =>
    subst hinside
    exact checkFrom_blockComment (by decide) hopen (closeComment_body hb)
  | @tripled q _ hq hcomment hline hopen =>
    subst hinside
    have hfeed : q ≠ '\n' ∧ q ≠ '\\' := by
      rcases hq with rfl | rfl <;> decide
    exact checkFrom_tripled hfeed.1 hcomment hline hopen (closeTriple_body hfeed.2 hb)
  | @quotes q _ hq hcomment hline htriple hopen =>
    subst hinside
    have hfeed : q ≠ '\n' ∧ q ≠ '\\' := by
      rcases hq with rfl | rfl | rfl <;> decide
    exact checkFrom_string hfeed.1 hcomment hline htriple hopen (closeString_body hfeed.2 hb)

/-- At an enclosure without an end the check stops. -/
theorem checkFrom_open {inside : List Char} (h : Opens f e s inside)
    (hnone : ∀ b rest, inside = b ++ e.closing ++ rest → ¬ e.Body b) :
    checkFrom f line opened s = .error ⟨line, e.complaint⟩ := by
  cases h with
  | comment hopen =>
    refine checkFrom_blockComment_of_none (by decide) hopen (Option.eq_none_iff_forall_ne_some.2 fun x hx => ?_)
    obtain ⟨b, hinside, hb⟩ := exists_body_of_closeComment hx
    exact hnone b x.2 hinside hb
  | @tripled q _ hq hcomment hline hopen =>
    have hfeed : q ≠ '\n' := by
      rcases hq with rfl | rfl <;> decide
    refine checkFrom_tripled_of_none hfeed hcomment hline hopen (Option.eq_none_iff_forall_ne_some.2 fun x hx => ?_)
    obtain ⟨b, hinside, hb⟩ := exists_body_of_closeTriple hx
    exact hnone b x.2 hinside hb
  | @quotes q _ hq hcomment hline htriple hopen =>
    have hfeed : q ≠ '\n' := by
      rcases hq with rfl | rfl | rfl <;> decide
    refine checkFrom_string_of_none hfeed hcomment hline htriple hopen
      (Option.eq_none_iff_forall_ne_some.2 fun x hx => ?_)
    obtain ⟨b, hinside, hb⟩ := exists_body_of_closeString hx
    exact hnone b x.2 hinside hb

theorem not_prefix_of_enclosure? (hnone : f.enclosure? s = none) (he : e ∈ f.enclosures) : ¬ e.opening <+: s := by
  rw [← List.isPrefixOf_iff_prefix]
  exact List.find?_eq_none.1 hnone e he

theorem of_blockComment? {inside : List Char} (h : f.blockComment? s = some inside) :
    blockComment ∈ f.enclosures ∧ s = ['/', '*'] ++ inside := by
  cases f with
  | python => cases h
  | script | style =>
    unfold Family.blockComment? at h
    split at h
    · cases h
    · obtain rfl := Option.some.inj h
      exact ⟨by decide, rfl⟩
    · cases h

/-- Where no enclosure and no comment opens, one character is taken. -/
theorem checkFrom_alone (hnone : f.enclosure? (c :: r) = none) (hmark : ∀ mark ∈ f.lineMark?, ¬ mark <+: c :: r) :
    checkFrom f line opened (c :: r) =
      pass c line opened >>= fun opened => checkFrom f (line + if c = '\n' then 1 else 0) opened r := by
  have hnot : ∀ {e : Enclosure}, e ∈ f.enclosures → ¬ e.opening <+: c :: r := not_prefix_of_enclosure? hnone
  by_cases hc : c = '\n'
  · subst hc
    exact checkFrom_line
  · rw [if_neg hc]
    refine checkFrom_single_eq hc ?_ ?_ ?_ ?_
    · cases hcomment : f.blockComment? (c :: r) with
      | none => rfl
      | some inside =>
        obtain ⟨hmem, htext⟩ := of_blockComment? hcomment
        exact absurd ⟨inside, htext.symm⟩ (hnot hmem)
    · cases hline : f.opensLineComment (c :: r) with
      | false => rfl
      | true =>
        unfold Family.opensLineComment at hline
        split at hline
        · next htext => exact absurd ⟨_, htext.symm⟩ (hmark _ rfl)
        · next htext => exact absurd ⟨_, htext.symm⟩ (hmark _ rfl)
        · cases hline
    · cases htriple : f.tripleQuote? (c :: r) with
      | none => rfl
      | some p =>
        unfold Family.tripleQuote? at htriple
        split at htriple
        · next htext => exact absurd ⟨_, htext.symm⟩ (hnot (e := tripledQuotes '"') (by decide))
        · next htext => exact absurd ⟨_, htext.symm⟩ (hnot (e := tripledQuotes '\'') (by decide))
        · cases htriple
    · cases hquote : f.isQuote c with
      | false => rfl
      | true =>
        refine absurd ⟨r, rfl⟩ (hnot (e := quotes c) ?_)
        simp only [Family.isQuote, Bool.or_eq_true, Bool.and_eq_true, beq_iff_eq] at hquote
        rcases hquote with (rfl | rfl) | ⟨rfl, rfl⟩
        · cases f <;> decide
        · cases f <;> decide
        · decide

theorem checkFrom_toLine {mark b : List Char} (hmark : f.lineMark? = some mark) (hb : '\n' ∉ b)
    (hrest : ∀ c ∈ rest.head?, c = '\n') :
    checkFrom f line opened (mark ++ b ++ rest) = checkFrom f line opened rest := by
  have hdrop : dropLine rest = rest := by
    cases rest with
    | nil => rfl
    | cons c rest =>
      obtain rfl := hrest c rfl
      rfl
  cases f with
  | script =>
    obtain rfl := Option.some.inj hmark
    have hstep : checkFrom .script line opened ('/' :: '/' :: (b ++ rest)) =
        checkFrom .script line opened (dropLine ('/' :: (b ++ rest))) :=
      checkFrom_lineComment (by decide) rfl rfl
    have hskip : dropLine ('/' :: (b ++ rest)) = dropLine rest := dropLine_append (t := '/' :: b) (by simpa using hb)
    rw [List.append_assoc]
    exact hstep.trans (by rw [hskip, hdrop])
  | style => cases hmark
  | python =>
    obtain rfl := Option.some.inj hmark
    have hstep : checkFrom .python line opened ('#' :: (b ++ rest)) =
        checkFrom .python line opened (dropLine (b ++ rest)) :=
      checkFrom_lineComment (by decide) rfl rfl
    rw [List.append_assoc]
    exact hstep.trans (by rw [dropLine_append hb, hdrop])

theorem checkFrom_lexeme {l : Lexeme} (h : Begins f l rest) :
    checkFrom f line opened (l.text ++ rest) =
      l.pass line opened >>= fun opened => checkFrom f (line + l.feeds) opened rest := by
  cases h with
  | @enclosed e b _ hopen hb =>
    obtain ⟨inside, hopens⟩ := opens_of_enclosure? hopen
    have heq := hopens.eq
    rw [List.append_assoc, List.append_assoc] at heq
    obtain rfl := List.append_cancel_left heq
    have hopens : Opens f e ((Lexeme.enclosed e b).text ++ rest) (b ++ e.closing ++ rest) := by
      rwa [List.append_assoc]
    exact checkFrom_enclosed hopens hb
  | line hmark hb hrest => exact checkFrom_toLine hmark hb hrest
  | single hnone hmark => exact checkFrom_alone hnone hmark

/-- At each place there is a lexeme, or an enclosure without an end. -/
theorem begins_or_open (hs : s ≠ []) : (∃ l rest, s = l.text ++ rest ∧ Begins f l rest) ∨
    ∃ e inside, f.enclosure? s = some e ∧ Opens f e s inside ∧
      ∀ b rest, inside = b ++ e.closing ++ rest → ¬ e.Body b := by
  cases hopen : f.enclosure? s with
  | some e =>
    obtain ⟨inside, hopens⟩ := opens_of_enclosure? hopen
    by_cases hend : ∃ b rest, inside = b ++ e.closing ++ rest ∧ e.Body b
    · obtain ⟨b, rest, rfl, hb⟩ := hend
      have hs : s = e.opening ++ b ++ e.closing ++ rest := by simpa using hopens.eq
      exact .inl ⟨.enclosed e b, rest, hs, .enclosed (hs ▸ hopen) hb⟩
    · exact .inr ⟨e, inside, rfl, hopens, fun b rest hinside hb => hend ⟨b, rest, hinside, hb⟩⟩
  | none =>
    left
    by_cases hmark : ∃ mark ∈ f.lineMark?, mark <+: s
    · obtain ⟨mark, hmark, t, rfl⟩ := hmark
      have hsplit : t.takeWhile (· != '\n') ++ t.dropWhile (· != '\n') = t := List.takeWhile_append_dropWhile
      refine ⟨.line (mark ++ t.takeWhile (· != '\n')), t.dropWhile (· != '\n'), ?_, .line hmark ?_ ?_⟩
      · rw [Lexeme.text, List.append_assoc, hsplit]
      · intro hmem
        simpa using List.all_eq_true.1 List.all_takeWhile _ hmem
      · intro c hc
        have hhead := List.head?_dropWhile_not (· != '\n') t
        rw [Option.mem_def.1 hc] at hhead
        simpa using hhead
    · obtain ⟨c, r, rfl⟩ := List.exists_cons_of_ne_nil hs
      exact ⟨.single c, r, rfl, .single hopen fun mark hmem hprefix => hmark ⟨mark, hmem, hprefix⟩⟩

end

end BuildLoop.Completeness
