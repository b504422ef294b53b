import BuildLoop.Proofs.Text.Occurs

/-!
# Lines

A line is a part of the text. A word that holds no end of a line occurs in a text if some line holds it:

    l ∈ lines s            →   l is an infix of s                                  (infix_of_mem_lines)
    w is an infix of s     →   w is an infix of some line of s                       (exists_mem_lines)

What is put behind a text leaves its lines as they are:

    lines (s ++ '\n' :: l ++ ['\n']) = lines s ++ [l]   if s ends within a line      (lines_append_line)
-/

namespace BuildLoop.Text

variable {w s l : List Char} {p : Char → Bool}

/-! ## Pieces -/

theorem infix_of_mem_splitFrom {piece : List Char} (h : l ∈ splitFrom p piece [] s) : l <:+: piece.reverse ++ s := by
  induction s generalizing piece with
  | nil =>
    obtain rfl : l = piece.reverse := by simpa [splitFrom] using h
    rw [List.append_nil]
  | cons c r ih =>
    rw [splitFrom] at h
    split at h
    · rw [splitFrom_append, List.reverse_singleton, List.singleton_append, List.mem_cons] at h
      rcases h with rfl | h
      · exact (List.prefix_append _ _).isInfix
      · exact (ih h).trans ((List.suffix_cons c r).trans (List.suffix_append _ _)).isInfix
    · simpa using ih h

theorem exists_mem_splitFrom (hw : ∀ c ∈ w, p c = false) (piece : List Char) (h : w <:+: piece.reverse ++ s) :
    ∃ l ∈ splitFrom p piece [] s, w <:+: l := by
  induction s generalizing piece with
  | nil =>
    rw [List.append_nil] at h
    exact ⟨piece.reverse, by simp [splitFrom], h⟩
  | cons c r ih =>
    rw [splitFrom]
    split
    · next hc =>
      have hfree : c ∉ w := fun hmem => by
        rw [hw c hmem] at hc
        cases hc
      rw [splitFrom_append, List.reverse_singleton, List.singleton_append]
      rcases (infix_append_cons hfree).1 h with h | h
      · exact ⟨piece.reverse, List.mem_cons_self, h⟩
      · obtain ⟨l, hl, hwl⟩ := ih [] h
        exact ⟨l, List.mem_cons_of_mem _ hl, hwl⟩
    · exact ih (c :: piece) (by simpa using h)

/-! ## Lines -/

theorem dropReturn_eq (l : List Char) : dropReturn l = l ∨ l = dropReturn l ++ ['\r'] := by
  unfold dropReturn
  split
  · next r hr => exact .inr (by simpa using congrArg List.reverse hr)
  · exact .inl rfl

/-- The lines of a text are its pieces without their returns, but for an empty last one. -/
theorem mem_lines (h : l ∈ lines s) : ∃ q ∈ splitAtEach (· == '\n') s, l = q ∨ l = dropReturn q := by
  have hmem : ∀ q, q ∈ (splitAtEach (· == '\n') s).reverse ↔ q ∈ splitAtEach (· == '\n') s := fun q => List.mem_reverse
  unfold lines at h
  split at h
  · cases h
  · next rest hrest =>
    obtain ⟨q, hq, rfl⟩ := List.mem_map.1 (List.mem_reverse.1 h)
    exact ⟨q, (hmem q).1 (hrest ▸ List.mem_cons_of_mem _ hq), .inr rfl⟩
  · next last rest _ hrest =>
    rcases List.mem_cons.1 (List.mem_reverse.1 h) with rfl | h
    · exact ⟨l, (hmem l).1 (hrest ▸ List.mem_cons_self), .inl rfl⟩
    · obtain ⟨q, hq, rfl⟩ := List.mem_map.1 h
      exact ⟨q, (hmem q).1 (hrest ▸ List.mem_cons_of_mem _ hq), .inr rfl⟩

theorem mem_lines_of_mem {q : List Char} (hne : q ≠ []) (hq : q ∈ splitAtEach (· == '\n') s) :
    q ∈ lines s ∨ dropReturn q ∈ lines s := by
  rw [← List.mem_reverse] at hq
  unfold lines
  split
  · next hnil =>
    rw [hnil] at hq
    cases hq
  · next rest hrest =>
    rw [hrest] at hq
    have hq : q ∈ rest := (List.mem_cons.1 hq).resolve_left hne
    exact .inr (List.mem_reverse.2 (List.mem_map_of_mem hq))
  · next last rest _ hrest =>
    rw [hrest] at hq
    rcases List.mem_cons.1 hq with rfl | hq
    · exact .inl (by simp)
    · exact .inr (List.mem_reverse.2 (List.mem_cons_of_mem _ (List.mem_map_of_mem hq)))

theorem infix_of_mem_lines (h : l ∈ lines s) : l <:+: s := by
  obtain ⟨q, hq, hl⟩ := mem_lines h
  have hqs : q <:+: s := infix_of_mem_splitFrom hq
  rcases hl with rfl | rfl
  · exact hqs
  · rcases dropReturn_eq q with heq | heq
    · rwa [heq]
    · rw [heq] at hqs
      exact (List.prefix_append _ _).isInfix.trans hqs

/-- A word without an end of a line occurs in some line. -/
theorem exists_mem_lines (hne : w ≠ []) (hfeed : '\n' ∉ w) (hreturn : '\r' ∉ w) (h : w <:+: s) :
    ∃ l ∈ lines s, w <:+: l := by
  have hfree : ∀ c ∈ w, (c == '\n') = false := fun c hc => beq_eq_false_iff_ne.2 fun heq => hfeed (heq ▸ hc)
  obtain ⟨q, hq, hwq⟩ := exists_mem_splitFrom hfree [] h
  have hqne : q ≠ [] := fun hnil => hne (List.infix_nil.1 (hnil ▸ hwq))
  rcases mem_lines_of_mem hqne hq with hl | hl
  · exact ⟨q, hl, hwq⟩
  · refine ⟨dropReturn q, hl, ?_⟩
    rcases dropReturn_eq q with heq | heq
    · rwa [heq]
    · rw [heq, infix_append_cons hreturn] at hwq
      exact hwq.resolve_right fun hnil => hne (List.infix_nil.1 hnil)

/-! ## Behind the last line -/

section
variable {c : Char}

/-- A character that separates nothing is put to the last piece. -/
theorem splitAtEach_concat (hc : p c = false) (s : List Char) :
    ∃ before last, splitAtEach p (s ++ [c]) = before ++ [last ++ [c]] := by
  have hfrom : ∀ piece acc, ∃ before last, splitFrom p piece acc (s ++ [c]) = before ++ [last ++ [c]] := by
    induction s with
    | nil => exact fun piece acc => ⟨acc.reverse, piece.reverse, by simp [splitFrom, hc]⟩
    | cons d s ih =>
      intro piece acc
      rw [List.cons_append, splitFrom]
      split
      · exact ih _ _
      · exact ih _ _
  exact hfrom [] []

theorem dropReturn_concat (hc : c ≠ '\r') (l : List Char) : dropReturn (l ++ [c]) = l ++ [c] := by
  unfold dropReturn
  split
  · next h =>
    rw [List.reverse_append] at h
    exact absurd (List.cons.inj h).1 hc
  · rfl

/-- The lines of a text that ends within a line. -/
theorem lines_concat (hfeed : c ≠ '\n') (hreturn : c ≠ '\r') (s : List Char) :
    lines (s ++ [c]) = (splitAtEach (· == '\n') (s ++ [c])).map dropReturn := by
  obtain ⟨before, last, hpieces⟩ := splitAtEach_concat (p := (· == '\n')) (beq_eq_false_iff_ne.2 hfeed) s
  unfold lines
  rw [hpieces, List.reverse_append, List.map_append, List.map_singleton, dropReturn_concat hreturn]
  simp only [List.reverse_singleton, List.singleton_append]
  split
  · next h => cases h
  · next h => simp at h
  · next h =>
    obtain ⟨rfl, rfl⟩ := List.cons.inj h
    simp

/-- The lines of a text whose last line is ended. -/
theorem lines_feed (s : List Char) : lines (s ++ ['\n']) = (splitAtEach (· == '\n') s).map dropReturn := by
  have hpieces : splitAtEach (· == '\n') (s ++ ['\n']) = splitAtEach (· == '\n') s ++ [[]] :=
    splitAtEach_append_cons rfl s []
  unfold lines
  rw [hpieces, List.reverse_append]
  simp

theorem dropReturn_of_free {l : List Char} (h : '\r' ∉ l) : dropReturn l = l :=
  (dropReturn_eq l).resolve_right fun heq => h (by rw [heq]; simp)

/-- A line without blanks is one line. -/
theorem lines_word {l : List Char} (hl : ∀ c ∈ l, isBlank c = false) : lines (l ++ ['\n']) = [l] := by
  have hfree : ∀ d, isBlank d = true → d ∉ l := by
    intro d hd hmem
    rw [hl d hmem] at hd
    cases hd
  have hfeed : ∀ c ∈ l, (c == '\n') = false := fun c hc =>
    beq_eq_false_iff_ne.2 fun heq => hfree '\n' (by decide) (heq ▸ hc)
  rw [lines_feed, splitAtEach_of_free hfeed, List.map_singleton, dropReturn_of_free (hfree '\r' (by decide))]

/-- What follows the end of a line has its own lines. -/
theorem lines_append_line {l : List Char} (hl : ∀ c ∈ l, isBlank c = false) (hc : isBlank c = false) (s : List Char) :
    lines (s ++ [c] ++ '\n' :: (l ++ ['\n'])) = lines (s ++ [c]) ++ [l] := by
  have hne : ∀ d, isBlank d = true → c ≠ d := by
    rintro d hd rfl
    rw [hc] at hd
    cases hd
  have hpieces : splitAtEach (· == '\n') (s ++ [c] ++ '\n' :: l) =
      splitAtEach (· == '\n') (s ++ [c]) ++ splitAtEach (· == '\n') l := splitAtEach_append_cons rfl _ _
  have hend : s ++ [c] ++ '\n' :: (l ++ ['\n']) = (s ++ [c] ++ '\n' :: l) ++ ['\n'] := by simp
  rw [hend, lines_feed, hpieces, List.map_append, ← lines_feed l, lines_word hl,
    lines_concat (hne _ (by decide)) (hne _ (by decide))]

end

end BuildLoop.Text
