import BuildLoop.Json.Source

/-!
# Numbers in a text

A number is printed as a numeral, and what is read for a number is made of the same characters. How many of
them are read depends on its digits; that no others are does not:

    Numeral n.text.toList                                                                   (numeral_text)
    readNumber negative s = .ok (n, s')   →   s = u ++ s' where u has characters of numbers
                                                                                       (counts_readNumber)
-/

namespace BuildLoop.Json

/-! ## What is read -/

/-- A character that a number can be printed with. -/
def isNumberChar (c : Char) : Bool := c.isDigit || c == '+' || c == '-' || c == '.' || c == 'e' || c == 'E'

theorem ne_of_number {c d : Char} (hc : isNumberChar c = true) (hd : isNumberChar d = false) : c ≠ d := by
  rintro rfl
  rw [hc] at hd
  cases hd

theorem not_blank_of_number {c : Char} (hc : isNumberChar c = true) :
    ¬ (c = ' ' ∨ c = '\n' ∨ c = '\t' ∨ c = '\r') := by
  rintro (rfl | rfl | rfl | rfl) <;> exact absurd hc (by decide)

/-- Whether all that lies before some rest of a text can be of a number. -/
def Behind (s rest : List Char) : Prop := ∃ u, s = u ++ rest ∧ ∀ c ∈ u, isNumberChar c = true

namespace Behind

variable {s s' s'' r : List Char} {c : Char}

theorem refl (s : List Char) : Behind s s := ⟨[], rfl, by simp⟩

theorem trans (h : Behind s s') (h' : Behind s' s'') : Behind s s'' := by
  obtain ⟨u, rfl, hu⟩ := h
  obtain ⟨v, rfl, hv⟩ := h'
  exact ⟨u ++ v, (List.append_assoc ..).symm, fun c hc => (List.mem_append.1 hc).elim (hu c) (hv c)⟩

theorem cons (hc : isNumberChar c = true) (h : Behind r s) : Behind (c :: r) s := by
  obtain ⟨u, rfl, hu⟩ := h
  exact ⟨c :: u, rfl, List.forall_mem_cons.2 ⟨hc, hu⟩⟩

theorem digit (hc : c.isDigit = true) (h : Behind r s) : Behind (c :: r) s :=
  .cons (by rw [isNumberChar, hc]; rfl) h

end Behind

/-- Whether a reader passes over nothing but what can be of a number. -/
def Counts {α : Type} (x : Read α) (s : List Char) : Prop := ∀ a s', x = .ok (a, s') → Behind s s'.rest

theorem counts_error {α : Type} (e : Stop) (s : List Char) : Counts (.error e : Read α) s := by
  intro a s' h
  cases h

theorem counts_ok {α : Type} (a : α) (s : Source) : Counts (.ok (a, s)) s.rest := by
  intro a s' h
  cases h
  exact .refl _

theorem Counts.behind {α : Type} {x : Read α} {s r : List Char} (h : Counts x r) (hr : Behind s r) : Counts x s :=
  fun a s' hx => hr.trans (h a s' hx)

theorem behind_readDigits (n count : Nat) (m : Mark) (s : List Char) : Behind s (readDigits n count m s).2.rest := by
  induction s generalizing n count m with
  | nil => exact .refl _
  | cons c r ih =>
    rw [readDigits]
    split
    · next hdigit =>
      simp only
      split
      · exact .digit hdigit (ih _ _ _)
      · exact .refl _
    · exact .refl _

theorem behind_skipDigits (count : Nat) (m : Mark) (s : List Char) : Behind s (skipDigits count m s).2.rest := by
  induction s generalizing count m with
  | nil => exact .refl _
  | cons c r ih =>
    rw [skipDigits]
    split
    · next hdigit => exact .digit hdigit (ih _ _)
    · exact .refl _

theorem behind_readExponentDigits (n : Nat) (m : Mark) (s : List Char) :
    Behind s (readExponentDigits n m s).2.rest := by
  induction s generalizing n m with
  | nil => exact .refl _
  | cons c r ih =>
    rw [readExponentDigits]
    split
    · next hdigit =>
      simp only
      split
      · exact .digit hdigit (ih _ _)
      · exact .digit hdigit (.refl _)
    · exact .refl _

section
variable (negative : Bool) (n : Nat) (exponent : Int) (s : Source)

theorem counts_decimal : Counts (decimal negative n exponent s) s.rest := by
  unfold decimal
  split
  · exact counts_ok _ s
  · exact counts_error _ _

variable {s} in
theorem behind_drop {c : Char} {r : List Char} (hs : s.rest = c :: r) (hc : isNumberChar c = true) :
    Behind s.rest s.drop.rest := by
  unfold Source.drop
  rw [hs]
  exact .cons hc (.refl r)

theorem counts_readExponent : Counts (readExponent negative n exponent s) s.rest := by
  unfold readExponent
  split
  next down s' hsign =>
  have hbehind : Behind s.rest s'.rest := by
    split at hsign
    · next hs =>
      cases hsign
      exact behind_drop hs (by decide)
    · next hs =>
      cases hsign
      exact behind_drop hs (by decide)
    · cases hsign
      exact .refl _
  refine Counts.behind ?_ hbehind
  split
  · exact counts_error _ _
  split
  · have hdigits := behind_readExponentDigits 0 s'.mark s'.rest
    split
    · next hread =>
      rw [hread] at hdigits
      exact Counts.behind (counts_decimal _ _ _ _) hdigits
    · next hread =>
      rw [hread] at hdigits
      split
      · exact counts_error _ _
      · exact Counts.behind (counts_ok _ _) (hdigits.trans (behind_skipDigits _ _ _))
  · exact counts_error _ _

theorem counts_readTail : Counts (readTail negative n exponent s) s.rest := by
  unfold readTail
  split
  · next hs => exact (counts_readExponent _ _ _ _).behind (behind_drop hs (by decide))
  · next hs => exact (counts_readExponent _ _ _ _).behind (behind_drop hs (by decide))
  · exact counts_decimal _ _ _ _

theorem counts_readPlaces : Counts (readPlaces negative n exponent s) s.rest := by
  have hdigits := behind_readDigits n 0 s.mark s.rest
  unfold readPlaces
  split
  next n' count tooLarge s' hread =>
  rw [hread] at hdigits
  refine Counts.behind ?_ hdigits
  split
  · exact (counts_readTail _ _ _ _).behind (behind_skipDigits _ _ _)
  split
  · split
    · exact counts_error _ _
    · exact counts_error _ _
  · exact counts_readTail _ _ _ _

theorem counts_wholeNumber : Counts (wholeNumber negative n s) s.rest := by
  unfold wholeNumber
  split
  · exact counts_ok _ s
  split
  · split
    · exact counts_ok _ s
    · exact counts_error _ _
  · exact counts_ok _ s

theorem counts_readFraction : Counts (readFraction negative n s) s.rest := by
  unfold readFraction
  split
  · next hs => exact (counts_readPlaces _ _ _ _).behind (behind_drop hs (by decide))
  · next hs => exact (counts_readExponent _ _ _ _).behind (behind_drop hs (by decide))
  · next hs => exact (counts_readExponent _ _ _ _).behind (behind_drop hs (by decide))
  · exact counts_wholeNumber _ _ _

/-- A number is read from characters of numbers alone. -/
theorem counts_readNumber : Counts (readNumber negative s) s.rest := by
  unfold readNumber
  split
  · exact counts_error _ _
  · next r hs =>
    have hzero : Counts (readFraction negative 0 s.drop) s.rest :=
      (counts_readFraction _ _ _).behind (behind_drop hs (by decide))
    split
    · split
      · exact counts_error _ _
      · exact hzero
    · exact hzero
  split
  · have hdigits := behind_readDigits 0 0 s.mark s.rest
    split
    next n count tooLarge s' hread =>
    rw [hread] at hdigits
    refine Counts.behind ?_ hdigits
    split
    · have hskip := behind_skipDigits 0 s'.mark s'.rest
      split
      next dropped s'' hskipped =>
      rw [hskipped] at hskip
      refine Counts.behind ?_ hskip
      split
      · next hs => exact (counts_readPlaces _ _ _ _).behind (behind_drop hs (by decide))
      · exact counts_readTail _ _ _ _
    · exact counts_readFraction _ _ _
  · exact counts_error _ _

end

/-! ## What is printed -/

/-- Whether a text looks like a number: it starts as one and holds nothing else. -/
structure Numeral (s : List Char) : Prop where
  first : ∃ c r, s = c :: r ∧ (c = '-' ∨ c.isDigit = true)
  chars : ∀ c ∈ s, isNumberChar c = true

section
variable {s t : List Char}

theorem isNumberChar_of_digits (h : ∀ c ∈ s, c.isDigit = true) : ∀ c ∈ s, isNumberChar c = true := fun c hc => by
  rw [isNumberChar, h c hc]
  rfl

theorem numeral_of_digits (hne : s ≠ []) (h : ∀ c ∈ s, c.isDigit = true) : Numeral s := by
  obtain ⟨c, r, rfl⟩ := List.exists_cons_of_ne_nil hne
  exact ⟨⟨c, r, rfl, .inr (h c List.mem_cons_self)⟩, isNumberChar_of_digits h⟩

theorem Numeral.append (hs : Numeral s) (ht : ∀ c ∈ t, isNumberChar c = true) : Numeral (s ++ t) := by
  obtain ⟨⟨c, r, rfl, hc⟩, hchars⟩ := hs
  exact ⟨⟨c, r ++ t, rfl, hc⟩, List.forall_mem_append.2 ⟨hchars, ht⟩⟩

theorem Numeral.negative (hs : Numeral s) : Numeral ('-' :: s) :=
  ⟨⟨'-', s, rfl, .inl rfl⟩, List.forall_mem_cons.2 ⟨by decide, hs.chars⟩⟩

end

theorem digits_toString (n : Nat) : (toString n).toList ≠ [] ∧ ∀ c ∈ (toString n).toList, c.isDigit = true := by
  rw [Nat.toString_eq_ofList_toDigits, String.toList_ofList]
  exact ⟨Nat.toDigits_ne_nil, fun c hc => Nat.isDigit_of_mem_toDigits (by decide) (by decide) hc⟩

theorem numeral_toString (n : Nat) : Numeral (toString n).toList :=
  numeral_of_digits (digits_toString n).1 (digits_toString n).2

theorem isNumberChar_zeros (n : Nat) : ∀ c ∈ (Number.zeros n).toList, isNumberChar c = true := by
  intro c hc
  rw [Number.zeros, String.toList_ofList] at hc
  rw [List.eq_of_mem_replicate hc]
  rfl

theorem isNumberChar_exponentText (x : Int) : ∀ c ∈ (Number.exponentText x).toList, isNumberChar c = true := by
  rw [Number.exponentText, String.toList_append]
  refine List.forall_mem_append.2 ⟨?_, (numeral_toString _).chars⟩
  split
  · exact List.all_eq_true.1 (by decide)
  · exact List.all_eq_true.1 (by decide)

theorem numeral_layOut (d : Nat) (k : Int) : Numeral (Number.layOut d k).toList := by
  obtain ⟨hne, hdigits⟩ := digits_toString d
  have hpart : ∀ c ∈ (toString d).toList, isNumberChar c = true := isNumberChar_of_digits hdigits
  have htake : ∀ i, 0 < i → Numeral ((toString d).toList.take i) := fun i hi =>
    numeral_of_digits (by simp [Nat.pos_iff_ne_zero.1 hi]) fun c hc => hdigits c (List.mem_of_mem_take hc)
  have hdrop : ∀ i, ∀ c ∈ (toString d).toList.drop i, isNumberChar c = true := fun i c hc =>
    hpart c (List.mem_of_mem_drop hc)
  unfold Number.layOut
  simp only
  split
  · rw [String.toList_append, String.toList_append]
    exact ((numeral_toString d).append (isNumberChar_zeros _)).append (List.all_eq_true.1 (by decide))
  split
  · next hpoint =>
    simp only [String.toList_append, String.toList_ofList]
    exact ((htake _ (by omega)).append (List.all_eq_true.1 (by decide))).append (hdrop _)
  split
  · rw [String.toList_append, String.toList_append]
    have hzero : Numeral "0.".toList := ⟨⟨'0', ['.'], rfl, .inr rfl⟩, List.all_eq_true.1 (by decide)⟩
    exact (hzero.append (isNumberChar_zeros _)).append hpart
  · have htail : ∀ tail : String, (∀ c ∈ tail.toList, isNumberChar c = true) →
        ∀ c ∈ (if tail.isEmpty then "" else "." ++ tail).toList, isNumberChar c = true := by
      intro tail h
      split
      · simp
      · rw [String.toList_append]
        exact List.forall_mem_append.2 ⟨List.all_eq_true.1 (by decide), h⟩
    simp only [String.toList_append, String.toList_ofList]
    exact ((htake 1 Nat.one_pos).append (htail _ (by simpa using hdrop 1))).append (isNumberChar_exponentText _)

theorem numeral_text (n : Json.Number) : Numeral n.text.toList := by
  cases n with
  | whole n =>
    cases n with
    | ofNat n => exact numeral_toString n
    | negSucc n =>
      have hsign : (Number.whole (.negSucc n)).text = "-" ++ toString (n + 1) := rfl
      rw [hsign, String.toList_append]
      exact (numeral_toString _).negative
  | real b =>
    have hsign : ∀ body : String, Numeral body.toList → Numeral ((if b.negative then "-" else "") ++ body).toList := by
      intro body h
      rw [String.toList_append]
      split
      · exact h.negative
      · exact h
    rw [Number.text, Number.Binary.text]
    simp only
    split
    · exact hsign _ ⟨⟨'0', ['.', '0'], rfl, .inr rfl⟩, List.all_eq_true.1 (by decide)⟩
    · exact hsign _ (numeral_layOut _ _)

end BuildLoop.Json
