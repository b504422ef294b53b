import BuildLoop.Proofs.Text.LetterCase
import BuildLoop.Proofs.Text.Occurs
import BuildLoop.Worker.Directive

/-!
# Texts that hold a directive

A directive stands between single quotes: before the first there is the word `run`, after the second the
word `in` and a directory. What stands around it does not matter, so that a text holds a directive
exactly if a part of it does that is cut off where no directive can reach across:

    directive? s ≠ none   ↔   s = … run '…' in d …                              (isSome_directive?)
    directive? s = some (c, d)   →   s = … run 'c' in d …                       (tells_of_directive?)
-/

namespace BuildLoop.Worker

open Text Pattern

/-- Whether two texts are the same up to letter case. -/
def Folded (w s : List Char) : Prop := List.Forall₂ (fun a c => sameFolded a c = true) w s

/-- Whether a text is nothing but blanks, one at least. -/
def IsGap (s : List Char) : Prop := s ≠ [] ∧ s.all isBlank = true

/-- Whether a text ends with the word that a command in quotes follows. -/
def Leads (x : List Char) : Prop :=
  ∃ u r gap, x = u ++ (r ++ gap) ∧ atWordEdge ⟨u.getLast?, r⟩ = true ∧
    (Folded "run".toList r ∨ Folded "running".toList r) ∧ IsGap gap

/-- Whether a text starts with the word and the directory that follow a command in quotes. -/
def Follows (x : List Char) : Prop :=
  ∃ gap i gap' d v, x = (gap ++ (i ++ gap')) ++ d :: v ∧ IsGap gap ∧ Folded "in".toList i ∧ IsGap gap' ∧
    isPathChar d = true

/-- Whether a directory is what is read where it stands before `v`: the project root, in any letter case,
or else the characters of a directory up to the first other one. -/
def IsPlace (dir v : List Char) : Prop :=
  Folded "the project root".toList dir ∨
    (∀ x, x <+: dir ++ v → ¬ Folded "the project root".toList x) ∧ (dir ≠ [] ∧ dir.all isPathChar = true) ∧
      ∀ c ∈ v.head?, isPathChar c = false

/-- Whether a text starts with the word that follows a command in quotes and with a directory. -/
def Names (x dir : List Char) : Prop :=
  ∃ gap i gap' v, x = (gap ++ (i ++ gap')) ++ (dir ++ v) ∧ IsGap gap ∧ Folded "in".toList i ∧ IsGap gap' ∧
    IsPlace dir v

/-- Whether a text holds a directive with a command and a directory. -/
def Tells (x command dir : List Char) : Prop :=
  ∃ lead tail, x = lead ++ '\'' :: (command ++ '\'' :: tail) ∧ Leads lead ∧
    (command ≠ [] ∧ '\'' ∉ command) ∧ Names tail dir

/-- Whether a text holds a directive. -/
def Directs (x : List Char) : Prop :=
  ∃ lead command tail, x = lead ++ '\'' :: (command ++ '\'' :: tail) ∧ Leads lead ∧
    (command ≠ [] ∧ '\'' ∉ command) ∧ Follows tail

/-! ## Reading the pattern -/

theorem Folded.ne_nil {w s : List Char} (h : Folded w s) (hw : w ≠ []) : s ≠ [] := by
  rintro rfl
  cases h
  exact hw rfl

theorem Folded.append {w w' s s' : List Char} (h : Folded w s) (h' : Folded w' s') :
    Folded (w ++ w') (s ++ s') := List.rel_append h h'

theorem Folded.exists_of_mem_right {w s : List Char} {c : Char} (h : Folded w s) (hc : c ∈ s) :
    ∃ a ∈ w, sameFolded a c = true := by
  induction h with
  | nil => cases hc
  | @cons a d w s hd _ ih =>
    rcases List.mem_cons.1 hc with rfl | hc
    · exact ⟨a, List.mem_cons_self, hd⟩
    · obtain ⟨a', ha', hfold⟩ := ih hc
      exact ⟨a', List.mem_cons_of_mem a ha', hfold⟩

theorem Folded.exists_of_mem_left {w s : List Char} {a : Char} (h : Folded w s) (ha : a ∈ w) :
    ∃ c ∈ s, sameFolded a c = true := by
  induction h with
  | nil => cases ha
  | @cons b d w s hd _ ih =>
    rcases List.mem_cons.1 ha with rfl | ha
    · exact ⟨d, List.mem_cons_self, hd⟩
    · obtain ⟨c, hc, hfold⟩ := ih ha
      exact ⟨c, List.mem_cons_of_mem d hc, hfold⟩

theorem Folded.exists_concat {w s : List Char} {a : Char} (h : Folded (w ++ [a]) s) :
    ∃ s' c, s = s' ++ [c] ∧ sameFolded a c = true := by
  have hreverse := List.rel_reverse h
  rw [List.reverse_append] at hreverse
  cases hs : s.reverse with
  | nil =>
    rw [hs] at hreverse
    cases hreverse
  | cons c r =>
    rw [hs] at hreverse
    cases hreverse with
    | cons hc _ => exact ⟨r.reverse, c, by rw [← List.reverse_cons, ← hs, List.reverse_reverse], hc⟩

theorem toLower_of_folded {a c : Char} (h : sameFolded a c = true) (hs : a.toLower ≠ 's') (hk : a.toLower ≠ 'k') :
    c.toLower = a.toLower := by
  rw [sameFolded, beq_eq_false_iff_ne.2 hs, beq_eq_false_iff_ne.2 hk, Bool.false_and, Bool.false_and, Bool.or_false,
    Bool.or_false] at h
  exact (eq_of_beq h).symm

/-- What is a character of ASCII in lower case is one in any case. -/
theorem eq_of_toLower {a c : Char} (h : c.toLower = a) : c.toNat < 128 ∨ c = a := by
  by_cases hupper : c.isUpper = true
  · have halnum : c.isAlphanum = true := by
      show (c.isUpper || c.isLower || c.isDigit) = true
      rw [hupper, Bool.true_or, Bool.true_or]
    exact .inl (toNat_lt_of_isAlphanum halnum)
  · have hsame : c.toLower = c := dif_neg fun hrange => hupper (decide_eq_true hrange)
    exact .inr (hsame ▸ h)

theorem isPathChar_of_folded {c : Char} (h : sameFolded 't' c = true) : isPathChar c = true := by
  have hlower : c.toLower = 't' := toLower_of_folded h (by decide) (by decide)
  rcases eq_of_toLower hlower with hascii | rfl
  · exact of_codes (P := fun c => c.toLower = 't' → isPathChar c = true) (by decide) hascii hlower
  · decide

theorem isPathChar_of_folded_blank {c : Char} (h : sameFolded ' ' c = true) : isPathChar c = false := by
  have hlower : c.toLower = ' ' := toLower_of_folded h (by decide) (by decide)
  rcases eq_of_toLower hlower with hascii | rfl
  · exact of_codes (P := fun c => c.toLower = ' ' → isPathChar c = false) (by decide) hascii hlower
  · decide

theorem atWordEdge_append {prev : Option Char} {r x : List Char} (h : r ≠ []) :
    atWordEdge ⟨prev, r ++ x⟩ = atWordEdge ⟨prev, r⟩ := by
  obtain ⟨c, r, rfl⟩ := List.exists_cons_of_ne_nil h
  rfl

theorem leads_of_word {u run ning gap x : List Char} (hedge : atWordEdge ⟨u.getLast?, run ++ x⟩ = true)
    (hrun : Folded "run".toList run) (hning : Folded "ning".toList ning ∨ ning = []) (hgap : IsGap gap) :
    Leads (u ++ ((run ++ ning) ++ gap)) := by
  have hstart : run ≠ [] := hrun.ne_nil (by decide)
  refine ⟨u, run ++ ning, gap, rfl, ?_, ?_, hgap⟩
  · rw [atWordEdge_append hstart] at hedge ⊢
    exact hedge
  · rcases hning with hning | rfl
    · exact .inr (hrun.append hning)
    · exact .inl (by rwa [List.append_nil])

theorem exists_of_run_place {here : Cursor} {gs : Groups} {m : Match} {f : Cursor → Groups → Match}
    (h : run (alt (word "the project root") (atLeastOne isPathChar)) here gs (fun next gs => some (f next gs)) =
      some m) :
    ∃ dir v, here.rest = dir ++ v ∧ IsPlace dir v ∧ m = f ⟨lastOf here.prev dir, v⟩ gs := by
  obtain ⟨prev, rest⟩ := here
  rw [run] at h
  split at h
  · next m' hm =>
    obtain rfl := Option.some.inj h
    obtain ⟨dir, v, hrest, hdir, hnext⟩ := exists_of_run_plain (numbers_charsFolded _) hm
    exact ⟨dir, v, hrest, .inl (takes_charsFolded.1 hdir), (Option.some.inj hnext).symm⟩
  · next hnone =>
    have hroot : ∀ x, x <+: rest → ¬ Folded "the project root".toList x := by
      rintro x ⟨t, ht⟩ hx
      have hsome := (isSome_run (word "the project root") ⟨prev, rest⟩ gs (fun next gs => some (f next gs))
        (fun _ => True) fun _ _ => by simp).2 ⟨x, t, ht.symm, takes_charsFolded.2 hx, trivial⟩
      rw [hnone] at hsome
      cases hsome
    have hsplit : rest.takeWhile isPathChar ++ rest.dropWhile isPathChar = rest := List.takeWhile_append_dropWhile
    have hne : rest.takeWhile isPathChar ≠ [] := by
      obtain ⟨x, t, hrest, hx, -⟩ := exists_of_run_plain (by rfl) h
      obtain ⟨hne, hall⟩ := takes_atLeastOne.1 hx
      obtain ⟨c, x, rfl⟩ := List.exists_cons_of_ne_nil hne
      obtain rfl : rest = c :: (x ++ t) := hrest
      rw [List.takeWhile_cons_of_pos (Bool.and_eq_true_iff.1 hall).1]
      exact List.cons_ne_nil _ _
    have hstop : ∀ c ∈ (rest.dropWhile isPathChar).head?, isPathChar c = false := by
      intro c hc
      have hnot := List.head?_dropWhile_not isPathChar rest
      rw [hc] at hnot
      simpa using hnot
    refine ⟨_, _, hsplit.symm, .inr ⟨?_, ⟨hne, List.all_takeWhile⟩, hstop⟩, ?_⟩
    · rwa [hsplit]
    · have htaken : run (atLeastOne isPathChar) ⟨prev, rest.takeWhile isPathChar ++ rest.dropWhile isPathChar⟩ gs
          (fun next gs => some (f next gs)) = _ := run_atLeastOne hne List.all_takeWhile hstop rfl
      rw [hsplit, h] at htaken
      exact Option.some.inj htaken

theorem Names.follows {x dir : List Char} (h : Names x dir) : Follows x := by
  obtain ⟨gap, i, gap', v, rfl, hgap, hi, hgap', hdir⟩ := h
  obtain ⟨d, w, rfl, hd⟩ : ∃ d w, dir = d :: w ∧ isPathChar d = true := by
    rcases hdir with hdir | ⟨-, ⟨hne, hall⟩, -⟩
    · cases hdir with
      | cons h _ => exact ⟨_, _, rfl, isPathChar_of_folded h⟩
    · obtain ⟨d, w, rfl⟩ := List.exists_cons_of_ne_nil hne
      exact ⟨d, w, rfl, (Bool.and_eq_true_iff.1 hall).1⟩
  exact ⟨gap, i, gap', d, w ++ v, rfl, hgap, hi, hgap', hd⟩

theorem Tells.directs {x command dir : List Char} (h : Tells x command dir) : Directs x := by
  obtain ⟨lead, tail, hx, hlead, hcommand, hnames⟩ := h
  exact ⟨lead, command, tail, hx, hlead, hcommand, hnames.follows⟩

/-- What is read off a description is told by it. -/
theorem tells_of_directive? {s : String} {c d : String} (h : directive? s = some (c, d)) :
    ∃ command dir, Tells s.toList command dir ∧ c = String.ofList (trim command) ∧ d = directiveDir dir := by
  obtain ⟨m, hm, hread⟩ := Option.map_eq_some_iff.1 h
  obtain ⟨u, b, hs, hmatch⟩ := exists_of_find hm
  obtain ⟨_, _, rfl, ⟨rfl, hedge⟩, hmatch⟩ := exists_of_run_seq rfl hmatch
  obtain ⟨run, _, rfl, hrun, hmatch⟩ := exists_of_run_seq (numbers_charsFolded _) hmatch
  obtain ⟨ning, _, rfl, hning, hmatch⟩ := exists_of_run_seq (by rfl) hmatch
  obtain ⟨gap, _, rfl, hgap, hmatch⟩ := exists_of_run_seq rfl hmatch
  obtain ⟨_, _, rfl, hopen, hmatch⟩ := exists_of_run_seq (by rfl) hmatch
  obtain ⟨command, _, rfl, hcommand, hmatch⟩ := exists_of_run_plain (p := atLeastOne (· != '\'')) rfl hmatch
  obtain ⟨_, _, rfl, hclose, hmatch⟩ := exists_of_run_seq (by rfl) hmatch
  obtain ⟨gap', _, rfl, hgap', hmatch⟩ := exists_of_run_seq rfl hmatch
  obtain ⟨i, _, rfl, hi, hmatch⟩ := exists_of_run_seq (numbers_charsFolded _) hmatch
  obtain ⟨gap'', rest, rfl, hgap'', hmatch⟩ := exists_of_run_seq rfl hmatch
  obtain ⟨dir, v, hrest, hdir, rfl⟩ := exists_of_run_place hmatch
  obtain rfl : rest = dir ++ v := hrest
  obtain rfl := takes_lit.1 hopen
  obtain rfl := takes_lit.1 hclose
  obtain ⟨hne, hall⟩ := takes_atLeastOne.1 hcommand
  have hquote : '\'' ∉ command := fun hmem => by simpa using List.all_eq_true.1 hall _ hmem
  obtain ⟨rfl, rfl⟩ := Prod.mk.inj hread
  refine ⟨command, dir, ⟨u ++ ((run ++ ning) ++ gap), _, ?_, ?_, ⟨hne, hquote⟩, gap', i, gap'', v, rfl,
    takes_atLeastOne.1 hgap', takes_charsFolded.1 hi, takes_atLeastOne.1 hgap'', hdir⟩, ?_, ?_⟩
  · simp [hs]
  · exact leads_of_word hedge (takes_charsFolded.1 hrun) (hning.imp_left takes_charsFolded.1) (takes_atLeastOne.1 hgap)
  · simp [Match.group?, upTo_append_self]
  · simp [Match.group?, upTo_append_self]

/-- Of a text that holds a directive the pattern takes a part. -/
theorem Directs.exists_takes {x : List Char} (h : Directs x) :
    ∃ u s t, x = u ++ (s ++ t) ∧ directivePattern.Takes u.getLast? s t := by
  obtain ⟨lead, command, tail, hx, ⟨u, r, gap, rfl, hedge, hr, hgap⟩, ⟨hne, hcommand⟩,
    gap', i, gap'', d, v, rfl, hgap', hi, hgap'', hd⟩ := h
  obtain ⟨run, ning, rfl, hrun, hning⟩ : ∃ run ning, r = run ++ ning ∧ Folded "run".toList run ∧
      (Folded "ning".toList ning ∨ ning = []) := by
    rcases hr with hr | hr
    · exact ⟨r, [], (List.append_nil r).symm, hr, .inr rfl⟩
    · exact ⟨r.take 3, r.drop 3, (List.take_append_drop 3 r).symm, List.forall₂_take 3 hr,
        .inl (List.forall₂_drop 3 hr)⟩
  have hstart : run ≠ [] := hrun.ne_nil (by decide)
  have hall : command.all (· != '\'') = true := by
    refine List.all_eq_true.2 fun c hc => ?_
    simpa using fun h : c = '\'' => hcommand (h ▸ hc)
  refine ⟨u, run ++ (ning ++ (gap ++ ("'".toList ++ (command ++ ("'".toList ++ (gap' ++ (i ++ (gap'' ++
    [d])))))))), v, by simpa using hx, ?_⟩
  refine ⟨[], _, rfl, ⟨rfl, ?_⟩, run, _, rfl, takes_charsFolded.2 hrun, ning, _, rfl, ?_, gap, _, rfl,
    takes_atLeastOne.2 hgap, _, _, rfl, takes_lit.2 rfl, command, _, rfl, takes_atLeastOne.2 ⟨hne, hall⟩,
    _, _, rfl, takes_lit.2 rfl, gap', _, rfl, takes_atLeastOne.2 hgap', i, _, rfl,
    takes_charsFolded.2 hi, gap'', _, rfl, takes_atLeastOne.2 hgap'',
    .inr (takes_atLeastOne.2 ⟨by simp, by simpa using hd⟩)⟩
  · rw [List.append_eq, List.append_assoc, atWordEdge_append hstart]
    rwa [atWordEdge_append hstart] at hedge
  · rcases hning with hning | rfl
    · exact .inl (takes_charsFolded.2 hning)
    · exact .inr rfl

theorem isSome_directive? {s : String} : (directive? s).isSome = true ↔ Directs s.toList := by
  constructor
  · intro h
    obtain ⟨⟨c, d⟩, hcd⟩ := Option.isSome_iff_exists.1 h
    obtain ⟨command, dir, htells, -⟩ := tells_of_directive? hcd
    exact htells.directs
  · intro h
    rw [directive?, Option.isSome_map]
    exact test_iff.2 h.exists_takes

/-! ## Where no directive reaches across -/

variable {x y : List Char} {q : Char}

/-- Whether a character stands in no part of a directive but its command and its directory. -/
def stops (c : Char) : Bool :=
  !isBlank c && c != '\'' && "running".toList.all fun a => !sameFolded a c

theorem notMem_of_stops {c : Char} (hc : stops c = true) {w s gap : List Char} (h : Folded w s)
    (hw : w ⊆ "running".toList) (hgap : IsGap gap) : c ∉ s ++ gap := by
  obtain ⟨hc, hletters⟩ := Bool.and_eq_true_iff.1 hc
  obtain ⟨hblank, -⟩ := Bool.and_eq_true_iff.1 hc
  rw [List.mem_append]
  rintro (hmem | hmem)
  · obtain ⟨a, ha, hfold⟩ := h.exists_of_mem_right hmem
    have hnot := List.all_eq_true.1 hletters a (hw ha)
    simp [hfold] at hnot
  · have hb := List.all_eq_true.1 hgap.2 c hmem
    simp [hb] at hblank

/-- What a command follows does not reach over a character that stops it. -/
theorem leads_append (hq : stops q = true) (hword : isWordChar q = false) :
    Leads (x ++ q :: y) ↔ Leads y := by
  have hedge : ∀ u r : List Char,
      atWordEdge ⟨(x ++ q :: u).getLast?, r⟩ = atWordEdge ⟨u.getLast?, r⟩ := by
    intro u r
    cases u with
    | nil => simp [atWordEdge, hword]
    | cons c u => rw [List.append_cons, List.getLast?_append_of_ne_nil _ (List.cons_ne_nil c u)]
  constructor
  · rintro ⟨u, r, gap, hx, he, hr, hgap⟩
    have hnot : q ∉ r ++ gap := by
      rcases hr with hr | hr
      · exact notMem_of_stops hq hr (by decide) hgap
      · exact notMem_of_stops hq hr (by decide) hgap
    obtain ⟨u', rfl, rfl⟩ := exists_of_notMem_right hx.symm hnot
    exact ⟨u', r, gap, rfl, hedge u' r ▸ he, hr, hgap⟩
  · rintro ⟨u, r, gap, rfl, he, hr, hgap⟩
    exact ⟨x ++ q :: u, r, gap, by simp, (hedge u r).symm ▸ he, hr, hgap⟩

/-- What follows a command does not reach over a character that stops it, which may start the
directory. -/
theorem follows_append (hq : stops q = true) : Follows (x ++ q :: y) ↔ Follows (x ++ [q]) := by
  constructor
  · rintro ⟨gap, i, gap', d, v, hx, hgap, hi, hgap', hd⟩
    have hnot : q ∉ gap ++ (i ++ gap') := by
      rw [List.mem_append, not_or]
      refine ⟨fun h => ?_, notMem_of_stops hq hi (by decide) hgap'⟩
      exact notMem_of_stops hq (.nil : Folded [] []) (by simp) hgap h
    obtain ⟨x', rfl, hv⟩ := exists_of_notMem_left hx.symm hnot
    cases x' with
    | nil =>
      obtain ⟨rfl, -⟩ := List.cons.inj hv
      exact ⟨gap, i, gap', d, [], by simp, hgap, hi, hgap', hd⟩
    | cons c x' =>
      obtain ⟨rfl, -⟩ := List.cons.inj hv
      exact ⟨gap, i, gap', d, x' ++ [q], by simp, hgap, hi, hgap', hd⟩
  · rintro ⟨gap, i, gap', d, v, hx, h⟩
    refine ⟨gap, i, gap', d, v ++ y, ?_, h⟩
    rw [List.append_cons, hx]
    simp

theorem follows_of_not_path (hq : stops q = true) (hpath : isPathChar q = false)
    (h : Follows (x ++ q :: y)) : Follows x := by
  obtain ⟨gap, i, gap', d, v, hx, hgap, hi, hgap', hd⟩ := (follows_append hq).1 h
  rcases List.eq_nil_or_concat v with rfl | ⟨v, c, rfl⟩
  · obtain ⟨-, hlast⟩ := List.append_inj' hx rfl
    obtain rfl : q = d := by simpa using hlast
    rw [hd] at hpath
    cases hpath
  · have hx' : x ++ [q] = (gap ++ (i ++ gap') ++ d :: v) ++ [c] := by simpa using hx
    exact ⟨gap, i, gap', d, v, (List.append_inj' hx' rfl).1, hgap, hi, hgap', hd⟩

/-! ## Cutting a text -/

theorem not_directs (h : '\'' ∉ x) : ¬ Directs x := by
  rintro ⟨lead, command, tail, rfl, -⟩
  simp at h

/-- Words without quotes before a directive. -/
theorem directs_append (hx : '\'' ∉ x) (hq : stops q = true) (hword : isWordChar q = false) :
    Directs (x ++ q :: y) ↔ Directs y := by
  have hx' : '\'' ∉ x ++ [q] := by
    rw [List.mem_append, not_or]
    refine ⟨hx, fun h => ?_⟩
    obtain rfl := List.mem_singleton.1 h
    simp [stops] at hq
  constructor
  · rintro ⟨lead, command, tail, htext, hlead, hrest⟩
    rw [List.append_cons] at htext
    obtain ⟨lead', rfl, rfl⟩ := exists_of_notMem_left htext hx'
    rw [← List.append_cons] at hlead
    exact ⟨lead', command, tail, rfl, (leads_append hq hword).1 hlead, hrest⟩
  · rintro ⟨lead, command, tail, rfl, hlead, hrest⟩
    exact ⟨x ++ q :: lead, command, tail, by simp, (leads_append hq hword).2 hlead, hrest⟩

/-- Words without quotes after a directive. -/
theorem directs_before (hy : '\'' ∉ y) (hq : stops q = true) :
    Directs (x ++ q :: y) ↔ Directs (x ++ [q]) := by
  constructor
  · rintro ⟨lead, command, tail, htext, hlead, hcommand, hfollow⟩
    have hnot : '\'' ∉ q :: y := by
      rw [List.mem_cons, not_or]
      refine ⟨?_, hy⟩
      rintro rfl
      simp [stops] at hq
    have htext' : x ++ q :: y = (lead ++ '\'' :: command) ++ '\'' :: tail := by simpa using htext
    obtain ⟨tail', rfl, rfl⟩ := exists_of_notMem_right htext' hnot
    exact ⟨lead, command, tail' ++ [q], by simp, hlead, hcommand, (follows_append hq).1 hfollow⟩
  · rintro ⟨lead, command, tail, htext, hlead, hcommand, gap, i, gap', d, v, rfl, h⟩
    refine ⟨lead, command, _, ?_, hlead, hcommand, gap, i, gap', d, v ++ y, rfl, h⟩
    rw [List.append_cons, htext]
    simp

theorem directs_of_not_path (hy : '\'' ∉ y) (hq : stops q = true) (hpath : isPathChar q = false)
    (h : Directs (x ++ q :: y)) : Directs x := by
  obtain ⟨lead, command, tail, htext, hlead, hcommand, hfollow⟩ := (directs_before hy hq).1 h
  have hnot : '\'' ∉ [q] := by
    rw [List.mem_singleton]
    rintro rfl
    simp [stops] at hq
  have htext' : x ++ [q] = (lead ++ '\'' :: command) ++ '\'' :: tail := by simpa using htext
  obtain ⟨tail', rfl, rfl⟩ := exists_of_notMem_right htext' hnot
  exact ⟨lead, command, tail', by simp, hlead, hcommand, follows_of_not_path hq hpath hfollow⟩

theorem Directs.append (h : Directs x) : Directs (x ++ y) := by
  obtain ⟨lead, command, tail, rfl, hlead, hcommand, gap, i, gap', d, v, rfl, h⟩ := h
  exact ⟨lead, command, _, by simp, hlead, hcommand, gap, i, gap', d, v ++ y, rfl, h⟩

/-- What stands before a command ends with a blank. -/
theorem Leads.isBlank {c : Char} (h : Leads (x ++ [c])) : isBlank c = true := by
  obtain ⟨u, r, gap, hx, -, -, hne, hall⟩ := h
  obtain ⟨gap, d, rfl⟩ := (List.eq_nil_or_concat' gap).resolve_left hne
  have hx : x ++ [c] = (u ++ (r ++ gap)) ++ [d] := by simpa using hx
  obtain ⟨-, hlast⟩ := List.append_inj' hx rfl
  obtain rfl := (List.cons.inj hlast).1
  simp at hall
  exact hall.2

/-- A quotation that no blank stands before the end of, and that is followed by neither a blank nor a
word. -/
theorem directs_quoted {m : List Char} {c : Char} (hx : '\'' ∉ x) (hm : '\'' ∉ m ++ [c])
    (hc : isBlank c = false) (hq : stops q = true) (hword : isWordChar q = false) :
    Directs (x ++ '\'' :: (m ++ [c] ++ '\'' :: q :: y)) ↔ Directs y := by
  constructor
  · rintro ⟨lead, command, tail, htext, hlead, ⟨hne, hcommand⟩, hfollow⟩
    rcases cut_cases htext hx with ⟨rfl, hrest⟩ | ⟨lead', rfl, hrest⟩
    · -- the quotation would be the command, but no blank follows it
      rcases cut_cases hrest.symm hm with ⟨rfl, rfl⟩ | ⟨command', rfl, -⟩
      · obtain ⟨gap, i, gap', d, v, htext, ⟨hgap, hblank⟩, -⟩ := hfollow
        obtain ⟨g, gap, rfl⟩ := List.exists_cons_of_ne_nil hgap
        obtain ⟨rfl, -⟩ := List.cons.inj htext
        have hg : isBlank q = true := (Bool.and_eq_true_iff.1 hblank).1
        simp [stops, hg] at hq
      · simp at hcommand
    · rcases cut_cases hrest hm with ⟨rfl, -⟩ | ⟨lead', rfl, hafter⟩
      · -- the end of the quotation would open the command, but no blank stands before it
        rw [← List.cons_append, ← List.append_assoc] at hlead
        rw [hlead.isBlank] at hc
        cases hc
      · cases lead' with
        | nil =>
          obtain ⟨rfl, -⟩ := List.cons.inj hafter
          simp [stops] at hq
        | cons d lead' =>
          obtain ⟨rfl, rfl⟩ := List.cons.inj hafter
          refine ⟨lead', command, tail, rfl, ?_, ⟨hne, hcommand⟩, hfollow⟩
          refine (leads_append (x := x ++ '\'' :: (m ++ [c] ++ ['\''])) hq hword).1 ?_
          simpa using hlead
  · rintro ⟨lead, command, tail, rfl, hlead, hrest⟩
    refine ⟨(x ++ '\'' :: (m ++ [c] ++ ['\''])) ++ q :: lead, command, tail, by simp, ?_, hrest⟩
    exact (leads_append hq hword).2 hlead

/-! ## What a directive says -/

/-- The word before a command ends with the letter n or g. -/
theorem Leads.ends {b c : Char} (h : Leads (x ++ [c, b])) (hc : Text.isBlank c = false) :
    sameFolded 'n' c = true ∨ sameFolded 'g' c = true := by
  obtain ⟨u, r, gap, hx, -, hword, hne, hall⟩ := h
  obtain ⟨r, d, rfl, hd⟩ : ∃ r' d, r = r' ++ [d] ∧ (sameFolded 'n' d = true ∨ sameFolded 'g' d = true) := by
    rcases hword with hword | hword
    · obtain ⟨r, d, rfl, hd⟩ := Folded.exists_concat (w := "ru".toList) hword
      exact ⟨r, d, rfl, .inl hd⟩
    · obtain ⟨r, d, rfl, hd⟩ := Folded.exists_concat (w := "runnin".toList) hword
      exact ⟨r, d, rfl, .inr hd⟩
  obtain ⟨gap, g, rfl⟩ := (List.eq_nil_or_concat' gap).resolve_left hne
  have hx : (x ++ [c]) ++ [b] = (u ++ (r ++ ([d] ++ gap))) ++ [g] := by simpa using hx
  obtain ⟨hx, -⟩ := List.append_inj' hx rfl
  rcases List.eq_nil_or_concat' gap with rfl | ⟨gap, e, rfl⟩
  · have hx : x ++ [c] = (u ++ r) ++ [d] := by simpa using hx
    obtain ⟨-, hlast⟩ := List.append_inj' hx rfl
    obtain rfl := (List.cons.inj hlast).1
    exact hd
  · have hx : x ++ [c] = (u ++ (r ++ ([d] ++ gap))) ++ [e] := by simpa using hx
    obtain ⟨-, hlast⟩ := List.append_inj' hx rfl
    obtain rfl := (List.cons.inj hlast).1
    simp [hc] at hall

/-- One blank cuts a text that goes on with another character. -/
theorem IsGap.cut {gap s r : List Char} (h : IsGap gap) (htext : ' ' :: r = gap ++ s)
    (hr : ∀ c ∈ r.head?, isBlank c = false) : s = r := by
  obtain ⟨hne, hall⟩ := h
  obtain ⟨g, gap, rfl⟩ := List.exists_cons_of_ne_nil hne
  obtain ⟨-, rfl⟩ := List.cons.inj htext
  cases gap with
  | nil => rfl
  | cons c gap =>
    have hc : isBlank c = false := hr c rfl
    simp [hc] at hall

section
variable {dir dir' v v' : List Char}

theorem isPlace_root : IsPlace "the project root".toList v := .inl (sameFolded_self _)

/-- Characters of a directory before a blank, a slash among them. -/
theorem isPlace_path (hdir : dir.all isPathChar = true) (hslash : '/' ∈ dir) : IsPlace dir (' ' :: v) := by
  refine .inr ⟨?_, ⟨List.ne_nil_of_mem hslash, hdir⟩, by simp [show isPathChar ' ' = false by decide]⟩
  rintro x ⟨t, ht⟩ h
  rcases List.append_eq_append_iff.1 ht with ⟨z, rfl, -⟩ | ⟨z, rfl, -⟩
  · obtain ⟨c, hc, hblank⟩ := h.exists_of_mem_left (a := ' ') (by decide)
    have hpath := List.all_eq_true.1 hdir c (List.mem_append_left z hc)
    rw [isPathChar_of_folded_blank hblank] at hpath
    cases hpath
  · obtain ⟨a, ha, hfold⟩ := h.exists_of_mem_right (List.mem_append_left z hslash)
    have hnone : "the project root".toList.any (sameFolded · '/') = false := by decide
    exact absurd hfold (List.any_eq_false.1 hnone a ha)

/-- One directory is read at a place. -/
theorem IsPlace.unique (h : IsPlace dir v) (h' : IsPlace dir' v') (htext : dir ++ v = dir' ++ v') : dir = dir' := by
  rcases h with h | ⟨hnot, ⟨-, hall⟩, hv⟩
  · rcases h' with h' | ⟨hnot', -⟩
    · exact (List.append_inj htext (h.length_eq.symm.trans h'.length_eq)).1
    · exact absurd h (hnot' _ (htext ▸ List.prefix_append dir v))
  · rcases h' with h' | ⟨-, ⟨-, hall'⟩, hv'⟩
    · exact absurd h' (hnot _ (htext ▸ List.prefix_append dir' v'))
    · exact (append_inj_of_all htext hall hall' hv hv').1

theorem IsPlace.names (h : IsPlace dir v) : Names (" in ".toList ++ (dir ++ v)) dir :=
  ⟨[' '], ['i', 'n'], [' '], v, rfl, ⟨by decide, by decide⟩, sameFolded_self _,
    ⟨by decide, by decide⟩, h⟩

/-- The directory that is read is the one that stands there. -/
theorem Names.eq_of_place (h : Names (" in ".toList ++ (dir' ++ v')) dir) (hplace : IsPlace dir' v')
    (hhead : ∀ c ∈ (dir' ++ v').head?, isBlank c = false) : dir = dir' := by
  obtain ⟨gap, i, gap', v, htext, hgap, hi, hgap', hdir⟩ := h
  have htext : ' ' :: ('i' :: 'n' :: ' ' :: (dir' ++ v')) = gap ++ (i ++ (gap' ++ (dir ++ v))) := by simpa using htext
  have hin := hgap.cut htext (by simp [show isBlank 'i' = false by decide])
  obtain ⟨a, b, rfl⟩ : ∃ a b, i = [a, b] := List.length_eq_two.1 hi.length_eq.symm
  obtain ⟨-, hin⟩ := List.cons.inj hin
  obtain ⟨-, hin⟩ := List.cons.inj hin
  exact hdir.unique hplace (hgap'.cut hin.symm hhead)

end

/-- Where neither what precedes a quotation nor what precedes its end leads to a command, the command is the
second quotation. -/
theorem Tells.second_quotation {m c tail command dir : List Char} (hx : '\'' ∉ x) (hm : '\'' ∉ m) (hy : '\'' ∉ y)
    (hc : '\'' ∉ c) (htail : '\'' ∉ tail) (hlead : ¬ Leads x) (hlead' : ¬ Leads (x ++ '\'' :: m))
    (h : Tells (x ++ '\'' :: (m ++ '\'' :: (y ++ '\'' :: (c ++ '\'' :: tail)))) command dir) :
    command = c ∧ Names tail dir := by
  obtain ⟨lead, tail', htext, hleads, ⟨-, hcommand⟩, hnames⟩ := h
  rcases cut_cases htext hx with ⟨rfl, -⟩ | ⟨lead, rfl, htext₁⟩
  · exact absurd hleads hlead
  rcases cut_cases htext₁ hm with ⟨rfl, -⟩ | ⟨lead, rfl, htext₂⟩
  · exact absurd hleads hlead'
  rcases cut_cases htext₂ hy with ⟨-, htext₃⟩ | ⟨lead, -, htext₃⟩
  · rcases cut_cases htext₃ hcommand with ⟨rfl, rfl⟩ | ⟨r, rfl, -⟩
    · exact ⟨rfl, hnames⟩
    · simp at hc
  · rcases cut_cases htext₃ hc with ⟨-, rfl⟩ | ⟨r, -, rfl⟩
    · simp at htail
    · simp at htail

theorem directiveDir_root : directiveDir "the project root".toList = "." := by decide

/-- A directory is meant without the slash behind it. -/
theorem directiveDir_slash {d : List Char} {c : Char} (hc : c ≠ '/') :
    directiveDir ((d ++ [c]) ++ ['/']) = String.ofList (d ++ [c]) := by
  have hroot : ((d ++ [c]) ++ ['/']).map Char.toLower ≠ "the project root".toList := by
    intro h
    have hmem : '/' ∈ "the project root".toList := by
      rw [← h]
      exact List.mem_map.2 ⟨'/', by simp, by decide⟩
    exact absurd hmem (by decide)
  have hstop : dropEndWhile (· == '.') ((d ++ [c]) ++ ['/']) = (d ++ [c]) ++ ['/'] := by
    rw [dropEndWhile_concat, if_neg (by decide)]
  have hslash : dropEndWhile (· == '/') ((d ++ [c]) ++ ['/']) = d ++ [c] := by
    rw [dropEndWhile_concat, if_pos (by decide), dropEndWhile_concat, if_neg (by simpa using hc)]
  have hempty : (d ++ [c]).isEmpty = false := by simp
  rw [directiveDir, if_neg hroot, hstop, hslash]
  simp only [hempty]
  rfl

end BuildLoop.Worker
