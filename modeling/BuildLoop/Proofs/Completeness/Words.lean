import BuildLoop.Proofs.Completeness.Brackets
import BuildLoop.Proofs.Text.Replace

/-!
# Words in texts

A word has characters that open, close and escape nothing, and end no line. The check of brackets passes
over it, be it in a comment, in a string or outside both. All that counts is that a word is there, since a
backslash before it takes its first character. So texts that differ in their words only are checked alike:

    Alike false s t   →   checkFrom f line opened s = checkFrom f line opened t          (checkFrom_alike)
    needle and new are words   →   Alike false s (replace needle new s)                    (alike_replace)
-/

namespace BuildLoop.Completeness

open Text

/-! ## Words -/

/-- The characters that open, close, escape or end something in a text of some family. -/
def loudChars : List Char :=
  ['\n', '"', '\'', '\x60', '\\', '/', '*', '#', '(', ')', '[', ']', '\x7b', '\x7d']

/-- Whether a character may stand in a word. -/
def isQuiet (c : Char) : Bool := !loudChars.contains c

theorem ne_of_isQuiet {c d : Char} (hc : isQuiet c = true) (hd : isQuiet d = false) : c ≠ d := by
  rintro rfl
  rw [hc] at hd
  cases hd

/-- Characters without a loud one among them. -/
structure IsWord (w : List Char) : Prop where
  nonempty : w ≠ []
  quiet : ∀ c ∈ w, isQuiet c = true

/-- Whether two texts differ in their words only. Behind a character of a word, more of the word may follow
in either text. -/
inductive Alike : Bool → List Char → List Char → Prop
  | nil {b : Bool} : Alike b [] []
  | cons {b : Bool} {s t : List Char} (c : Char) : Alike (isQuiet c) s t → Alike b (c :: s) (c :: t)
  | change {b : Bool} {c d : Char} {s t : List Char} : isQuiet c = true → isQuiet d = true → Alike true s t →
      Alike b (c :: s) (d :: t)
  | left {c : Char} {s t : List Char} : isQuiet c = true → Alike true s t → Alike true (c :: s) t
  | right {c : Char} {s t : List Char} : isQuiet c = true → Alike true s t → Alike true s (c :: t)

namespace Alike

variable {b : Bool} {c : Char} {s t u v r : List Char}

theorem weaken (h : Alike false s t) : Alike b s t := by
  cases h with
  | nil => exact .nil
  | cons c h => exact .cons c h
  | change hc hd h => exact .change hc hd h

theorem refl (s : List Char) : Alike b s s := by
  induction s generalizing b with
  | nil => exact .nil
  | cons c s ih => exact .cons c ih

theorem symm (h : Alike b s t) : Alike b t s := by
  induction h with
  | nil => exact .nil
  | cons c _ ih => exact .cons c ih
  | change hc hd _ ih => exact .change hd hc ih
  | left hc _ ih => exact .right hc ih
  | right hc _ ih => exact .left hc ih

/-- Equal beginnings can be put before texts that are alike. -/
theorem append_left (u : List Char) (h : Alike false s t) : Alike b (u ++ s) (u ++ t) := by
  induction u generalizing b with
  | nil => exact h.weaken
  | cons c u ih => exact .cons c ih

/-- Words can be put before texts that are alike. -/
theorem words (hu : IsWord u) (hv : IsWord v) (h : Alike true s t) : Alike b (u ++ s) (v ++ t) := by
  obtain ⟨c, u, rfl⟩ := List.exists_cons_of_ne_nil hu.nonempty
  obtain ⟨d, v, rfl⟩ := List.exists_cons_of_ne_nil hv.nonempty
  have hleft : ∀ {w s t : List Char}, (∀ c ∈ w, isQuiet c = true) → Alike true s t → Alike true (w ++ s) t := by
    intro w s t hw h
    induction w with
    | nil => exact h
    | cons c w ih =>
      obtain ⟨hc, hw⟩ := List.forall_mem_cons.1 hw
      exact .left hc (ih hw)
  obtain ⟨hc, hu⟩ := List.forall_mem_cons.1 hu.quiet
  obtain ⟨hd, hv⟩ := List.forall_mem_cons.1 hv.quiet
  exact .change hc hd (hleft hu (hleft hv h.symm).symm)

/-- What is no word stands in both texts. -/
theorem of_loud (h : Alike false (u ++ s) t) (hu : u.any isQuiet = false) :
    ∃ t', t = u ++ t' ∧ Alike false s t' := by
  induction u generalizing t with
  | nil => exact ⟨t, rfl, h⟩
  | cons c u ih =>
    obtain ⟨hc, hu⟩ := Bool.or_eq_false_iff.1 hu
    cases h with
    | cons _ h =>
      rw [hc] at h
      obtain ⟨t', rfl, h'⟩ := ih h hu
      exact ⟨t', rfl, h'⟩
    | change hquiet =>
      rw [hc] at hquiet
      cases hquiet

theorem prefix_iff (h : Alike false s t) (hu : u.any isQuiet = false) : u <+: s ↔ u <+: t := by
  have hone : ∀ {s t : List Char}, Alike false s t → u <+: s → u <+: t := by
    rintro s t h ⟨r, rfl⟩
    obtain ⟨t', rfl, -⟩ := h.of_loud hu
    exact List.prefix_append _ _
  exact ⟨hone h, hone h.symm⟩

end Alike

/-- A text and what it becomes when a word is put for another are alike. -/
theorem alike_replace {needle new : List Char} (hneedle : IsWord needle) (hnew : IsWord new) (s : List Char) :
    Alike false s (replace needle new s) := by
  induction s using placesRec hneedle.nonempty with
  | nil => exact .nil
  | place r ih =>
    rw [replace_needle hneedle.nonempty]
    exact .words hneedle hnew ih.weaken
  | other c r h ih =>
    rw [replace_cons_of_not h]
    exact .cons c ih.weaken

/-! ## Ends of comments and strings -/

/-- Whether the ends of two enclosures are on one line, and alike from there on. -/
def AlikeFrom : Option (Nat × List Char) → Option (Nat × List Char) → Prop :=
  Option.Rel fun p p' => p.1 = p'.1 ∧ Alike false p.2 p'.2

section
variable {b : Bool} {c q : Char} {line : Nat} {s t : List Char}

theorem closeComment_quiet (hc : isQuiet c = true) : closeComment line (c :: s) = closeComment line s :=
  closeComment_append (t := [c]) (by simpa using ⟨ne_of_isQuiet hc rfl, ne_of_isQuiet hc rfl⟩)

theorem alike_closeComment (h : Alike b s t) : AlikeFrom (closeComment line s) (closeComment line t) := by
  induction h generalizing line with
  | nil => exact .none
  | @cons _ s t c h ih =>
    by_cases hend : ∃ r, c :: s = '*' :: '/' :: r
    · obtain ⟨r, hr⟩ := hend
      obtain ⟨rfl, rfl⟩ := List.cons.inj hr
      obtain ⟨t', rfl, ht'⟩ := Alike.of_loud (u := ['/']) h (by decide)
      exact .some ⟨rfl, ht'⟩
    · have hend' : ¬ ∃ r, c :: t = '*' :: '/' :: r := by
        rintro ⟨r, hr⟩
        obtain ⟨rfl, rfl⟩ := List.cons.inj hr
        obtain ⟨s', rfl, -⟩ := Alike.of_loud (u := ['/']) h.symm (by decide)
        exact hend ⟨s', rfl⟩
      rw [closeComment, closeComment]
      · exact ih
      · exact fun r hc ht => hend' ⟨r, by rw [hc, ht]⟩
      · exact fun r hc hs => hend ⟨r, by rw [hc, hs]⟩
  | change hc hd _ ih => rw [closeComment_quiet hc, closeComment_quiet hd]; exact ih
  | left hc _ ih => rw [closeComment_quiet hc]; exact ih
  | right hc _ ih => rw [closeComment_quiet hc]; exact ih

/-- What a string's end looks for behind a backslash: it is not in the next character. -/
def behindEscape (close : List Char → Option (Nat × List Char)) : List Char → Option (Nat × List Char)
  | [] => none
  | _ :: r => close r

theorem closeString_escape : closeString q line ('\\' :: s) = behindEscape (closeString q line) s := by
  cases s <;> rfl

theorem closeTriple_escape : closeTriple q line ('\\' :: s) = behindEscape (closeTriple q line) s := by
  cases s <;> rfl

theorem closeString_cons (hc : c ≠ '\\') : closeString q line (c :: s) =
    if c = q then some (line, s)
    else if c = '\n' then if q = '\x60' then closeString q (line + 1) s else none
    else closeString q line s := by
  rw [closeString]
  exact hc

theorem closeTriple_cons (hc : c ≠ '\\') : closeTriple q line (c :: s) =
    if [q, q].isPrefixOf s && c == q then some (line, s.drop 2)
    else closeTriple q (if c = '\n' then line + 1 else line) s := by
  rw [closeTriple]
  exact hc

variable (hq : isQuiet q = false)
include hq

theorem closeString_quiet (hc : isQuiet c = true) : closeString q line (c :: s) = closeString q line s := by
  rw [closeString_cons (ne_of_isQuiet hc rfl), if_neg (ne_of_isQuiet hc hq), if_neg (ne_of_isQuiet hc rfl)]

theorem closeTriple_quiet (hc : isQuiet c = true) : closeTriple q line (c :: s) = closeTriple q line s := by
  have hne : (c == q) = false := beq_eq_false_iff_ne.2 (ne_of_isQuiet hc hq)
  rw [closeTriple_cons (ne_of_isQuiet hc rfl), hne, Bool.and_false, if_neg Bool.false_ne_true,
    if_neg (ne_of_isQuiet hc rfl)]

/-- The induction carries what is found behind an escape, which takes the first character of a word. -/
theorem alike_closeString (h : Alike b s t) : AlikeFrom (closeString q line s) (closeString q line t) ∧
    (b = false → AlikeFrom (behindEscape (closeString q line) s) (behindEscape (closeString q line) t)) := by
  induction h generalizing line with
  | nil => exact ⟨.none, fun _ => .none⟩
  | @cons _ s t c h ih =>
    refine ⟨?_, fun _ => ih.1⟩
    by_cases hback : c = '\\'
    · subst hback
      rw [closeString_escape, closeString_escape]
      exact ih.2 rfl
    · rw [closeString_cons hback, closeString_cons hback]
      split
      · next hend =>
        subst hend
        rw [hq] at h
        exact .some ⟨rfl, h⟩
      · split
        · split
          · exact ih.1
          · exact .none
        · exact ih.1
  | change hc hd _ ih =>
    refine ⟨?_, fun _ => ih.1⟩
    rw [closeString_quiet hq hc, closeString_quiet hq hd]
    exact ih.1
  | left hc _ ih =>
    rw [closeString_quiet hq hc]
    exact ⟨ih.1, fun hb => (by cases hb)⟩
  | right hc _ ih =>
    rw [closeString_quiet hq hc]
    exact ⟨ih.1, fun hb => (by cases hb)⟩

theorem alike_closeTriple (h : Alike b s t) : AlikeFrom (closeTriple q line s) (closeTriple q line t) ∧
    (b = false → AlikeFrom (behindEscape (closeTriple q line) s) (behindEscape (closeTriple q line) t)) := by
  have hquotes : [q, q].any isQuiet = false := by simpa using hq
  induction h generalizing line with
  | nil => exact ⟨.none, fun _ => .none⟩
  | @cons _ s t c h ih =>
    refine ⟨?_, fun _ => ih.1⟩
    by_cases hback : c = '\\'
    · subst hback
      rw [closeTriple_escape, closeTriple_escape]
      exact ih.2 rfl
    · rw [closeTriple_cons hback, closeTriple_cons hback]
      by_cases hend : c = q
      · subst hend
        rw [hq] at h
        by_cases hmore : [c, c] <+: s
        · obtain ⟨s', rfl⟩ := hmore
          obtain ⟨t', rfl, ht'⟩ := h.of_loud hquotes
          have hstart : ∀ r, ([c, c].isPrefixOf ([c, c] ++ r) && c == c) = true := fun r => by
            rw [List.isPrefixOf_iff_prefix.2 (List.prefix_append _ r), beq_self_eq_true, Bool.and_self]
          rw [if_pos (hstart s'), if_pos (hstart t')]
          exact .some ⟨rfl, ht'⟩
        · have hmore' : ¬ [c, c] <+: t := fun hmore' => hmore ((h.prefix_iff hquotes).2 hmore')
          rw [← List.isPrefixOf_iff_prefix, Bool.not_eq_true] at hmore hmore'
          rw [hmore, hmore', Bool.false_and, if_neg Bool.false_ne_true, if_neg Bool.false_ne_true]
          exact ih.1
      · have hne : (c == q) = false := beq_eq_false_iff_ne.2 hend
        rw [hne, Bool.and_false, Bool.and_false, if_neg Bool.false_ne_true, if_neg Bool.false_ne_true]
        exact ih.1
  | change hc hd _ ih =>
    refine ⟨?_, fun _ => ih.1⟩
    rw [closeTriple_quiet hq hc, closeTriple_quiet hq hd]
    exact ih.1
  | left hc _ ih =>
    rw [closeTriple_quiet hq hc]
    exact ⟨ih.1, fun hb => (by cases hb)⟩
  | right hc _ ih =>
    rw [closeTriple_quiet hq hc]
    exact ⟨ih.1, fun hb => (by cases hb)⟩

omit hq in
theorem alike_dropLine (h : Alike b s t) : Alike false (dropLine s) (dropLine t) := by
  have hquiet : ∀ {c : Char} {s : List Char}, isQuiet c = true → dropLine (c :: s) = dropLine s := fun hc =>
    dropLine_append (t := [_]) (by simpa using (ne_of_isQuiet hc rfl).symm)
  induction h with
  | nil => exact .nil
  | @cons _ s t c h ih =>
    by_cases hc : c = '\n'
    · subst hc
      exact .cons '\n' h
    · have hskip : ∀ s, dropLine (c :: s) = dropLine s := fun s =>
        dropLine_append (t := [c]) (by simpa using Ne.symm hc)
      rw [hskip, hskip]
      exact ih
  | change hc hd _ ih => rw [hquiet hc, hquiet hd]; exact ih
  | left hc _ ih => rw [hquiet hc]; exact ih
  | right hc _ ih => rw [hquiet hc]; exact ih

end

/-! ## The check -/

section
variable {f : Family} {b : Bool} {c q : Char} {line : Nat} {opened : List (Char × Nat)} {s t r : List Char}

theorem blockComment?_eq_some : f.blockComment? s = some r ↔ f ≠ .python ∧ s = '/' :: '*' :: r := by
  constructor
  · intro h
    unfold Family.blockComment? at h
    split at h
    · cases h
    · next hne =>
      cases h
      exact ⟨hne, rfl⟩
    · cases h
  · rintro ⟨hf, rfl⟩
    cases f with
    | python => exact absurd rfl hf
    | script | style => rfl

theorem opensLineComment_iff : f.opensLineComment s = true ↔
    f = .script ∧ ['/', '/'] <+: s ∨ f = .python ∧ ['#'] <+: s := by
  constructor
  · intro h
    unfold Family.opensLineComment at h
    split at h
    · exact .inl ⟨rfl, List.prefix_append _ _⟩
    · exact .inr ⟨rfl, List.prefix_append _ _⟩
    · cases h
  · rintro (⟨rfl, r, rfl⟩ | ⟨rfl, r, rfl⟩) <;> rfl

theorem tripleQuote?_eq_some : f.tripleQuote? s = some (q, r) ↔
    f = .python ∧ (q = '"' ∨ q = '\'') ∧ s = q :: q :: q :: r := by
  constructor
  · intro h
    unfold Family.tripleQuote? at h
    split at h
    · cases h
      exact ⟨rfl, .inl rfl, rfl⟩
    · cases h
      exact ⟨rfl, .inr rfl, rfl⟩
    · cases h
  · rintro ⟨rfl, rfl | rfl, rfl⟩ <;> rfl

theorem isQuiet_of_tripleQuote? (h : f.tripleQuote? s = some (q, r)) : isQuiet q = false := by
  obtain ⟨-, rfl | rfl, -⟩ := tripleQuote?_eq_some.1 h <;> rfl

theorem blockComment?_alike (h : Alike false s t) (hs : f.blockComment? s = some r) :
    ∃ r', f.blockComment? t = some r' ∧ Alike false r r' := by
  obtain ⟨hf, rfl⟩ := blockComment?_eq_some.1 hs
  obtain ⟨r', rfl, hr⟩ := Alike.of_loud (u := ['/', '*']) h (by decide)
  exact ⟨r', blockComment?_eq_some.2 ⟨hf, rfl⟩, hr⟩

theorem blockComment?_eq_none (h : Alike false s t) (hs : f.blockComment? s = none) : f.blockComment? t = none := by
  rw [Option.eq_none_iff_forall_ne_some]
  intro r hr
  obtain ⟨r', hr', -⟩ := blockComment?_alike h.symm hr
  cases hs.symm.trans hr'

theorem opensLineComment_alike (h : Alike false s t) : f.opensLineComment s = f.opensLineComment t := by
  rw [Bool.eq_iff_iff, opensLineComment_iff, opensLineComment_iff, h.prefix_iff (by decide), h.prefix_iff (by decide)]

theorem tripleQuote?_alike (h : Alike false s t) (hs : f.tripleQuote? s = some (q, r)) :
    ∃ r', f.tripleQuote? t = some (q, r') ∧ Alike false r r' := by
  have hloud := isQuiet_of_tripleQuote? hs
  obtain ⟨hf, hq, rfl⟩ := tripleQuote?_eq_some.1 hs
  obtain ⟨r', rfl, hr⟩ := Alike.of_loud (u := [q, q, q]) h (by simpa using hloud)
  exact ⟨r', tripleQuote?_eq_some.2 ⟨hf, hq, rfl⟩, hr⟩

theorem tripleQuote?_eq_none (h : Alike false s t) (hs : f.tripleQuote? s = none) : f.tripleQuote? t = none := by
  rw [Option.eq_none_iff_forall_ne_some]
  rintro ⟨q, r⟩ hr
  obtain ⟨r', hr', -⟩ := tripleQuote?_alike h.symm hr
  cases hs.symm.trans hr'

theorem checkFrom_quiet (hc : isQuiet c = true) : checkFrom f line opened (c :: s) = checkFrom f line opened s := by
  refine checkFrom_single (ne_of_isQuiet hc rfl) ?_ ?_ ?_ ?_ ?_
  · rw [Option.eq_none_iff_forall_ne_some]
    intro r hr
    obtain ⟨rfl, -⟩ := List.cons.inj (blockComment?_eq_some.1 hr).2
    cases hc
  · rw [Bool.eq_false_iff]
    intro hline
    rcases opensLineComment_iff.1 hline with ⟨-, hmark⟩ | ⟨-, hmark⟩
    · obtain ⟨rfl, -⟩ := List.cons_prefix_cons.1 hmark
      cases hc
    · obtain ⟨rfl, -⟩ := List.cons_prefix_cons.1 hmark
      cases hc
  · rw [Option.eq_none_iff_forall_ne_some]
    rintro ⟨q, r⟩ hr
    obtain ⟨-, hq, htext⟩ := tripleQuote?_eq_some.1 hr
    obtain ⟨rfl, -⟩ := List.cons.inj htext
    rcases hq with rfl | rfl <;> cases hc
  · have hne : ∀ d, isQuiet d = false → (c == d) = false := fun d hd => beq_eq_false_iff_ne.2 (ne_of_isQuiet hc hd)
    simp [Family.isQuote, hne '"' rfl, hne '\'' rfl, hne '\x60' rfl]
  · unfold pass
    have hopener : isOpener c = false := by
      have hne : ∀ d, isQuiet d = false → (c == d) = false := fun d hd =>
        beq_eq_false_iff_ne.2 (ne_of_isQuiet hc hd)
      simp [isOpener, hne '(' rfl, hne '[' rfl, hne '\x7b' rfl]
    have hcloser : opener? c = none := by
      unfold opener?
      split <;> first | rfl | cases hc
    rw [hopener, hcloser]
    rfl

theorem AlikeFrom.elim {x x' : Option (Nat × List Char)} {P : Prop} (h : AlikeFrom x x')
    (hend : ∀ line r r', x = some (line, r) → x' = some (line, r') → Alike false r r' → P)
    (hopen : x = none → x' = none → P) : P := by
  cases h with
  | none => exact hopen rfl rfl
  | @some p p' h =>
    obtain ⟨hline, hrest⟩ := h
    exact hend p.1 p.2 p'.2 rfl (by rw [hline]) hrest

/-- What opens at a loud character opens in both texts, and ends in both or in neither. -/
theorem checkFrom_loud (hc : isQuiet c = false) (h : Alike false s t)
    (ih : ∀ line opened s' t', s'.length + t'.length < (c :: s).length + (c :: t).length → Alike false s' t' →
      checkFrom f line opened s' = checkFrom f line opened t') :
    checkFrom f line opened (c :: s) = checkFrom f line opened (c :: t) := by
  have hboth : Alike false (c :: s) (c :: t) := .cons c (by rwa [hc])
  have hrest : s.length + t.length < (c :: s).length + (c :: t).length := by
    simp only [List.length_cons]
    omega
  by_cases hfeed : c = '\n'
  · subst hfeed
    rw [checkFrom_line, checkFrom_line]
    exact ih _ _ _ _ hrest h
  cases hs : f.blockComment? (c :: s) with
  | some r =>
    obtain ⟨r', ht, hr⟩ := blockComment?_alike hboth hs
    have := length_of_blockComment? hs
    have := length_of_blockComment? ht
    have hends : AlikeFrom (closeComment line r) (closeComment line r') := alike_closeComment hr
    refine hends.elim (fun line' x x' hx hx' hxx => ?_) fun hx hx' => ?_
    · rw [checkFrom_blockComment hfeed hs hx, checkFrom_blockComment hfeed ht hx']
      have := length_of_closeComment hx
      have := length_of_closeComment hx'
      exact ih _ _ _ _ (by omega) hxx
    · rw [checkFrom_blockComment_of_none hfeed hs hx, checkFrom_blockComment_of_none hfeed ht hx']
  | none =>
  have ht := blockComment?_eq_none hboth hs
  cases hline : f.opensLineComment (c :: s) with
  | true =>
    rw [checkFrom_lineComment hfeed hs hline,
      checkFrom_lineComment hfeed ht ((opensLineComment_alike hboth).symm.trans hline)]
    have := length_dropLine_le s
    have := length_dropLine_le t
    exact ih _ _ _ _ (by omega) (alike_dropLine h)
  | false =>
  have hline' := (opensLineComment_alike hboth).symm.trans hline
  cases htriple : f.tripleQuote? (c :: s) with
  | some p =>
    obtain ⟨q, r⟩ := p
    obtain ⟨r', htriple', hr⟩ := tripleQuote?_alike hboth htriple
    have := length_of_tripleQuote? htriple
    have := length_of_tripleQuote? htriple'
    have hends : AlikeFrom (closeTriple q line r) (closeTriple q line r') :=
      (alike_closeTriple (isQuiet_of_tripleQuote? htriple) hr).1
    refine hends.elim (fun line' x x' hx hx' hxx => ?_) fun hx hx' => ?_
    · rw [checkFrom_tripled hfeed hs hline htriple hx, checkFrom_tripled hfeed ht hline' htriple' hx']
      have := length_of_closeTriple hx
      have := length_of_closeTriple hx'
      exact ih _ _ _ _ (by omega) hxx
    · rw [checkFrom_tripled_of_none hfeed hs hline htriple hx, checkFrom_tripled_of_none hfeed ht hline' htriple' hx']
  | none =>
  have htriple' := tripleQuote?_eq_none hboth htriple
  cases hquote : f.isQuote c with
  | true =>
    have hends : AlikeFrom (closeString c line s) (closeString c line t) := (alike_closeString hc h).1
    refine hends.elim (fun line' x x' hx hx' hxx => ?_) fun hx hx' => ?_
    · rw [checkFrom_string hfeed hs hline htriple hquote hx, checkFrom_string hfeed ht hline' htriple' hquote hx']
      have := length_of_closeString hx
      have := length_of_closeString hx'
      exact ih _ _ _ _ (by omega) hxx
    · rw [checkFrom_string_of_none hfeed hs hline htriple hquote hx,
        checkFrom_string_of_none hfeed ht hline' htriple' hquote hx']
  | false =>
    rw [checkFrom_single_eq hfeed hs hline htriple hquote, checkFrom_single_eq hfeed ht hline' htriple' hquote]
    exact congrArg (pass c line opened >>= ·) (funext fun opened => ih _ _ _ _ hrest h)

/-- Texts that differ in their words only are checked alike. -/
theorem checkFrom_alike (h : Alike b s t) : checkFrom f line opened s = checkFrom f line opened t := by
  generalize hn : s.length + t.length = n
  induction n using Nat.strong_induction_on generalizing b line opened s t with
  | _ n ih =>
    subst hn
    cases h with
    | nil => rfl
    | change hc hd h =>
      rw [checkFrom_quiet hc, checkFrom_quiet hd]
      exact ih _ (by simp only [List.length_cons]; omega) h rfl
    | left hc h =>
      rw [checkFrom_quiet hc]
      exact ih _ (by simp only [List.length_cons]; omega) h rfl
    | right hc h =>
      rw [checkFrom_quiet hc]
      exact ih _ (by simp only [List.length_cons]; omega) h rfl
    | cons c h =>
      by_cases hc : isQuiet c = true
      · rw [checkFrom_quiet hc, checkFrom_quiet hc]
        exact ih _ (by simp only [List.length_cons]; omega) h rfl
      · rw [Bool.not_eq_true] at hc
        rw [hc] at h
        exact checkFrom_loud hc h fun _ _ _ _ hlength h => ih _ hlength h rfl

end

end BuildLoop.Completeness
