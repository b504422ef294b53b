import BuildLoop.Completeness.Brackets

/-!
# Steps of the check of brackets

What the check does at one place, by what stands there: a line feed, a comment, a string or any other
character. Where comments and strings end does not depend on what stands in them, as long as it cannot
end them:

    closeComment line inside = some (line', rest)   →   the check goes on at `rest`
                                                                               (checkFrom_blockComment)
-/

namespace BuildLoop.Completeness

open Text

/-! ## Comments -/

theorem closeComment_append {line : Nat} {t s : List Char} (ht : ∀ c ∈ t, c ≠ '*' ∧ c ≠ '\n') :
    closeComment line (t ++ s) = closeComment line s := by
  induction t with
  | nil => rfl
  | cons c t ih =>
    obtain ⟨hstar, hline⟩ := ht c List.mem_cons_self
    rw [List.cons_append, closeComment, if_neg hline, ih fun d hd => ht d (List.mem_cons_of_mem _ hd)]
    rintro r rfl
    exact absurd rfl hstar

theorem dropLine_append {t s : List Char} (ht : '\n' ∉ t) : dropLine (t ++ s) = dropLine s := by
  refine List.dropWhile_append_of_pos fun c hc => ?_
  rw [bne_iff_ne]
  rintro rfl
  exact ht hc

/-! ## Steps -/

section
variable {f : Family} {line line' : Nat} {opened opened' : List (Char × Nat)} {c : Char}
  {r inside rest : List Char}

theorem checkFrom_line : checkFrom f line opened ('\n' :: r) = checkFrom f (line + 1) opened r := by
  rw [checkFrom, if_pos rfl]

variable (hc : c ≠ '\n')
include hc

theorem checkFrom_blockComment_eq (hb : f.blockComment? (c :: r) = some inside) :
    checkFrom f line opened (c :: r) = (closeComment line inside).elim
      (.error ⟨line, "unterminated block comment"⟩) fun p => checkFrom f p.1 opened p.2 := by
  rw [checkFrom, if_neg hc]
  split
  · next i hi =>
    obtain rfl := Option.some.inj (hb.symm.trans hi)
    split
    · next hs => rw [hs]; rfl
    · next hs => rw [hs]; rfl
  · next hi => rw [hb] at hi; cases hi

theorem checkFrom_blockComment (hb : f.blockComment? (c :: r) = some inside)
    (hclose : closeComment line inside = some (line', rest)) :
    checkFrom f line opened (c :: r) = checkFrom f line' opened rest := by
  rw [checkFrom_blockComment_eq hc hb, hclose]
  rfl

theorem checkFrom_blockComment_of_none (hb : f.blockComment? (c :: r) = some inside)
    (hclose : closeComment line inside = none) :
    checkFrom f line opened (c :: r) = .error ⟨line, "unterminated block comment"⟩ := by
  rw [checkFrom_blockComment_eq hc hb, hclose]
  rfl

theorem checkFrom_lineComment (hb : f.blockComment? (c :: r) = none)
    (hl : f.opensLineComment (c :: r) = true) :
    checkFrom f line opened (c :: r) = checkFrom f line opened (dropLine r) := by
  rw [checkFrom, if_neg hc]
  split
  · next i hi => rw [hb] at hi; cases hi
  · rw [if_pos hl]

theorem checkFrom_tripled_eq {q : Char} (hb : f.blockComment? (c :: r) = none)
    (hl : f.opensLineComment (c :: r) = false) (ht : f.tripleQuote? (c :: r) = some (q, inside)) :
    checkFrom f line opened (c :: r) = (closeTriple q line inside).elim
      (.error ⟨line, "unterminated triple-quoted string"⟩) fun p => checkFrom f p.1 opened p.2 := by
  rw [checkFrom, if_neg hc]
  split
  · next i hi => rw [hb] at hi; cases hi
  · rw [if_neg (by rw [hl]; decide)]
    split
    · next q' i hi =>
      obtain ⟨rfl, rfl⟩ := Prod.mk.inj (Option.some.inj (ht.symm.trans hi))
      split
      · next hs => rw [hs]; rfl
      · next hs => rw [hs]; rfl
    · next hi => rw [ht] at hi; cases hi

theorem checkFrom_tripled {q : Char} (hb : f.blockComment? (c :: r) = none)
    (hl : f.opensLineComment (c :: r) = false) (ht : f.tripleQuote? (c :: r) = some (q, inside))
    (hclose : closeTriple q line inside = some (line', rest)) :
    checkFrom f line opened (c :: r) = checkFrom f line' opened rest := by
  rw [checkFrom_tripled_eq hc hb hl ht, hclose]
  rfl

theorem checkFrom_tripled_of_none {q : Char} (hb : f.blockComment? (c :: r) = none)
    (hl : f.opensLineComment (c :: r) = false) (ht : f.tripleQuote? (c :: r) = some (q, inside))
    (hclose : closeTriple q line inside = none) :
    checkFrom f line opened (c :: r) = .error ⟨line, "unterminated triple-quoted string"⟩ := by
  rw [checkFrom_tripled_eq hc hb hl ht, hclose]
  rfl

theorem checkFrom_string_eq (hb : f.blockComment? (c :: r) = none)
    (hl : f.opensLineComment (c :: r) = false) (ht : f.tripleQuote? (c :: r) = none) (hq : f.isQuote c = true) :
    checkFrom f line opened (c :: r) = (closeString c line r).elim
      (.error ⟨line, "unterminated string literal " ++ c.toString⟩) fun p => checkFrom f p.1 opened p.2 := by
  rw [checkFrom, if_neg hc]
  split
  · next i hi => rw [hb] at hi; cases hi
  · rw [if_neg (by rw [hl]; decide)]
    split
    · next i j hi => rw [ht] at hi; cases hi
    · rw [if_pos hq]
      split
      · next hs => rw [hs]; rfl
      · next hs => rw [hs]; rfl

theorem checkFrom_string (hb : f.blockComment? (c :: r) = none)
    (hl : f.opensLineComment (c :: r) = false) (ht : f.tripleQuote? (c :: r) = none)
    (hq : f.isQuote c = true) (hclose : closeString c line r = some (line', rest)) :
    checkFrom f line opened (c :: r) = checkFrom f line' opened rest := by
  rw [checkFrom_string_eq hc hb hl ht hq, hclose]
  rfl

theorem checkFrom_string_of_none (hb : f.blockComment? (c :: r) = none)
    (hl : f.opensLineComment (c :: r) = false) (ht : f.tripleQuote? (c :: r) = none)
    (hq : f.isQuote c = true) (hclose : closeString c line r = none) :
    checkFrom f line opened (c :: r) = .error ⟨line, "unterminated string literal " ++ c.toString⟩ := by
  rw [checkFrom_string_eq hc hb hl ht hq, hclose]
  rfl

theorem checkFrom_single_eq (hb : f.blockComment? (c :: r) = none)
    (hl : f.opensLineComment (c :: r) = false) (ht : f.tripleQuote? (c :: r) = none)
    (hq : f.isQuote c = false) :
    checkFrom f line opened (c :: r) = pass c line opened >>= fun opened => checkFrom f line opened r := by
  rw [checkFrom, if_neg hc]
  split
  · next i hi => rw [hb] at hi; cases hi
  · rw [if_neg (by rw [hl]; decide)]
    split
    · next i j hi => rw [ht] at hi; cases hi
    · rw [if_neg (by rw [hq]; decide)]
      cases pass c line opened <;> rfl

theorem checkFrom_single (hb : f.blockComment? (c :: r) = none)
    (hl : f.opensLineComment (c :: r) = false) (ht : f.tripleQuote? (c :: r) = none)
    (hq : f.isQuote c = false) (hpass : pass c line opened = .ok opened') :
    checkFrom f line opened (c :: r) = checkFrom f line opened' r := by
  rw [checkFrom_single_eq hc hb hl ht hq, hpass]
  rfl

end

end BuildLoop.Completeness
