import Mathlib.Data.List.Forall2
import BuildLoop.Text.Pattern

/-!
# Matching up to a stop

A character that no class of a pattern holds stops every way of the pattern. So what is found in a text
up to a stop depends neither on what follows it nor on which stop it is, as long as both are characters
of words or neither is:

    p.avoids b, p.avoids b'   →   the ways of p from s ++ b :: t and s ++ b' :: t' are the same
                                                                                        (related_run)
    what is found in s ++ [b] is found first in s ++ b' :: t                           (found_prefix)
-/

namespace BuildLoop.Text.Pattern

/-! ## Stops -/

/-- How many characters a pattern takes at least. -/
def least : Pattern → Nat
  | one _ => 1
  | seq p q => p.least + q.least
  | alt p q => min p.least q.least
  | group _ p => p.least
  | empty | many _ | few _ | again _ | wordEdge | lineStart | textStart => 0

/-- Whether no class of a pattern holds a character, and what it repeats takes one at least. -/
def avoids (b : Char) : Pattern → Bool
  | one holds | many holds | few holds => !holds b
  | seq p q | alt p q => p.avoids b && q.avoids b
  | again p => p.avoids b && decide (0 < p.least)
  | group _ p => p.avoids b
  | empty | wordEdge | lineStart | textStart => true

variable {b b' : Char} {t t' : List Char} {α β : Type} {r : α → β → Prop}

/-- The places before a stop that are reached by taking characters of a class, up to what follows the
stop. -/
theorem related_places {holds : Char → Bool} (hb : holds b = false) (hb' : holds b' = false) (s : List Char) (n : Nat)
    (prev : Option Char) (acc acc' : List Cursor) (hn : s.length ≤ n)
    (hacc : List.Forall₂ (fun here here' => ∃ prev s', s'.length ≤ n ∧
      here = ⟨prev, s' ++ b :: t⟩ ∧ here' = ⟨prev, s' ++ b' :: t'⟩) acc acc') :
    List.Forall₂ (fun here here' => ∃ prev s', s'.length ≤ n ∧
      here = ⟨prev, s' ++ b :: t⟩ ∧ here' = ⟨prev, s' ++ b' :: t'⟩)
      (places holds acc prev (s ++ b :: t)) (places holds acc' prev (s ++ b' :: t')) := by
  induction s generalizing prev acc acc' with
  | nil =>
    rw [List.nil_append, List.nil_append, places, places, if_neg (by simp [hb]), if_neg (by simp [hb'])]
    exact .cons ⟨prev, [], hn, rfl, rfl⟩ hacc
  | cons c s ih =>
    have hhere : List.Forall₂ _ _ _ := List.Forall₂.cons ⟨prev, c :: s, hn, rfl, rfl⟩ hacc
    rw [List.cons_append, List.cons_append, places, places]
    split
    · exact ih _ _ _ (Nat.le_of_succ_le hn) hhere
    · exact hhere

theorem related_or {x y : Option α} {x' y' : Option β} : Option.Rel r x x' → Option.Rel r y y' →
    Option.Rel r (match x with | some a => some a | none => y)
      (match x' with | some a => some a | none => y') := by
  intro h h'
  cases h with
  | some h => exact .some h
  | none => exact h'

theorem related_findSome? {γ δ : Type} {R : γ → δ → Prop} {f : γ → Option α} {g : δ → Option β}
    (hf : ∀ x y, R x y → Option.Rel r (f x) (g y)) {l : List γ} {l' : List δ}
    (h : List.Forall₂ R l l') : Option.Rel r (l.findSome? f) (l'.findSome? g) := by
  induction h with
  | nil => exact .none
  | cons hxy _ ih =>
    rw [List.findSome?_cons, List.findSome?_cons]
    exact related_or (hf _ _ hxy) ih

/-- Turns that each take a character never run out before the stop. -/
theorem related_turns {step : Cursor → Groups → (Cursor → Groups → Option α) → Option α}
    {step' : Cursor → Groups → (Cursor → Groups → Option β) → Option β}
    {k : Cursor → Groups → Option α} {k' : Cursor → Groups → Option β}
    (hstep : ∀ (s : List Char) (prev : Option Char) (gs gs' : Groups)
      (k : Cursor → Groups → Option α) (k' : Cursor → Groups → Option β),
      (∀ prev s', s'.length < s.length → ∀ gs gs',
        Option.Rel r (k ⟨prev, s' ++ b :: t⟩ gs) (k' ⟨prev, s' ++ b' :: t'⟩ gs')) →
      Option.Rel r (step ⟨prev, s ++ b :: t⟩ gs k) (step' ⟨prev, s ++ b' :: t'⟩ gs' k'))
    (ahead ahead' s : List Char) (prev : Option Char) (gs gs' : Groups)
    (h : s.length < ahead.length) (h' : s.length < ahead'.length)
    (hk : ∀ prev s', s'.length ≤ s.length → ∀ gs gs',
      Option.Rel r (k ⟨prev, s' ++ b :: t⟩ gs) (k' ⟨prev, s' ++ b' :: t'⟩ gs')) :
    Option.Rel r (turns step ahead ⟨prev, s ++ b :: t⟩ gs k)
      (turns step' ahead' ⟨prev, s ++ b' :: t'⟩ gs' k') := by
  induction ahead generalizing ahead' s prev gs gs' with
  | nil => exact absurd h (Nat.not_lt_zero _)
  | cons a ahead ih =>
    cases ahead' with
    | nil => exact absurd h' (Nat.not_lt_zero _)
    | cons a' ahead' =>
      rw [List.length_cons] at h h'
      rw [turns, turns]
      refine related_or (hstep s prev gs gs' _ _ fun prev₁ s₁ hs₁ gs₁ gs₁' => ?_)
        (hk prev s (Nat.le_refl _) gs gs')
      exact ih ahead' s₁ prev₁ gs₁ gs₁' (by omega) (by omega) fun prev₂ s₂ hs₂ =>
        hk prev₂ s₂ (by omega)

/-- The ways of a pattern before a stop do not depend on what follows it, if what is done at their ends
does not. -/
theorem related_run (hw : isWordChar b = isWordChar b') (p : Pattern) (hp : p.avoids b = true)
    (hp' : p.avoids b' = true) (s : List Char) (prev : Option Char) (gs gs' : Groups)
    {k : Cursor → Groups → Option α} {k' : Cursor → Groups → Option β}
    (hk : ∀ prev s', s'.length + p.least ≤ s.length → ∀ gs gs',
      Option.Rel r (k ⟨prev, s' ++ b :: t⟩ gs) (k' ⟨prev, s' ++ b' :: t'⟩ gs')) :
    Option.Rel r (run p ⟨prev, s ++ b :: t⟩ gs k) (run p ⟨prev, s ++ b' :: t'⟩ gs' k') := by
  induction p generalizing s prev gs gs' k k' with
  | empty => exact hk prev s (Nat.le_refl _) gs gs'
  | one holds =>
    cases s with
    | nil =>
      have hb : holds b = false := by simpa [avoids] using hp
      have hb' : holds b' = false := by simpa [avoids] using hp'
      simp only [run, List.nil_append, hb, hb']
      exact .none
    | cons c s =>
      simp only [run, List.cons_append]
      split
      · exact hk (some c) s (Nat.le_refl _) gs gs'
      · exact .none
  | many holds =>
    have hb : holds b = false := by simpa [avoids] using hp
    have hb' : holds b' = false := by simpa [avoids] using hp'
    refine related_findSome? ?_ (related_places hb hb' s s.length prev [] [] (Nat.le_refl _) .nil)
    rintro _ _ ⟨prev, s', hs', rfl, rfl⟩
    exact hk prev s' hs' gs gs'
  | few holds =>
    have hb : holds b = false := by simpa [avoids] using hp
    have hb' : holds b' = false := by simpa [avoids] using hp'
    refine related_findSome? ?_
      (List.rel_reverse (related_places hb hb' s s.length prev [] [] (Nat.le_refl _) .nil))
    rintro _ _ ⟨prev, s', hs', rfl, rfl⟩
    exact hk prev s' hs' gs gs'
  | seq p q ihp ihq =>
    obtain ⟨hp, hq⟩ := Bool.and_eq_true_iff.1 hp
    obtain ⟨hp', hq'⟩ := Bool.and_eq_true_iff.1 hp'
    refine ihp hp hp' s prev gs gs' fun prev₁ s₁ hs₁ gs₁ gs₁' => ?_
    refine ihq hq hq' s₁ prev₁ gs₁ gs₁' fun prev₂ s₂ hs₂ gs₂ gs₂' => ?_
    exact hk prev₂ s₂ (by simp only [least]; omega) gs₂ gs₂'
  | alt p q ihp ihq =>
    obtain ⟨hp, hq⟩ := Bool.and_eq_true_iff.1 hp
    obtain ⟨hp', hq'⟩ := Bool.and_eq_true_iff.1 hp'
    have hfirst := ihp hp hp' s prev gs gs' fun prev₁ s₁ hs₁ =>
      hk prev₁ s₁ (by simp only [least]; omega)
    have hsecond := ihq hq hq' s prev gs gs' fun prev₁ s₁ hs₁ =>
      hk prev₁ s₁ (by simp only [least]; omega)
    exact related_or hfirst hsecond
  | again p ih =>
    obtain ⟨hp, hpos⟩ := Bool.and_eq_true_iff.1 hp
    obtain ⟨hp', -⟩ := Bool.and_eq_true_iff.1 hp'
    have hpos : 0 < p.least := of_decide_eq_true hpos
    refine related_turns (fun s prev gs gs' k k' hk => ?_) _ _ s prev gs gs' (by simp) (by simp)
      fun prev₁ s₁ hs₁ => hk prev₁ s₁ hs₁
    exact ih hp hp' s prev gs gs' fun prev₁ s₁ hs₁ => hk prev₁ s₁ (by omega)
  | group n p ih =>
    exact ih hp hp' s prev gs gs' fun prev₁ s₁ hs₁ gs₁ gs₁' => hk prev₁ s₁ hs₁ _ _
  | wordEdge =>
    have hedge : atWordEdge ⟨prev, s ++ b :: t⟩ = atWordEdge ⟨prev, s ++ b' :: t'⟩ := by
      cases s with
      | nil => simp [atWordEdge, hw]
      | cons c s => rfl
    simp only [run, hedge]
    split
    · exact hk prev s (Nat.le_refl _) gs gs'
    · exact .none
  | lineStart =>
    simp only [run]
    split
    · exact hk prev s (Nat.le_refl _) gs gs'
    · exact .none
  | textStart =>
    simp only [run]
    split
    · exact hk prev s (Nat.le_refl _) gs gs'
    · exact .none

/-! ## Searching -/

theorem upTo_append (s s' u : List Char) : upTo (s ++ u) (s' ++ u) = s.take (s.length - s'.length) := by
  have hlen : (s ++ u).length - (s' ++ u).length = s.length - s'.length := by
    rw [List.length_append, List.length_append]
    omega
  rw [upTo, hlen, List.take_append_of_le_length (Nat.sub_le _ _)]

theorem upTo_append_self (s u : List Char) : upTo (s ++ u) u = s := by simp [upTo]

/-- What is matched at a place before a stop, and that it ends there at the latest. -/
theorem related_matchAt (hw : isWordChar b = isWordChar b') {p : Pattern} (hp : p.avoids b = true)
    (hp' : p.avoids b' = true) (s : List Char) (prev : Option Char) :
    Option.Rel (fun m m' : Match => m.prev = m'.prev ∧ m.text = m'.text ∧ m.text.length ≤ s.length)
      (matchAt p ⟨prev, s ++ b :: t⟩) (matchAt p ⟨prev, s ++ b' :: t'⟩) := by
  refine related_run hw p hp hp' s prev [] [] fun prev' s' _ gs gs' => .some ⟨rfl, ?_, ?_⟩
  · simp only [upTo_append]
  · simp only [upTo_append, List.length_take]
    omega

/-- A pattern that takes a character matches nowhere at a stop. -/
theorem matchAt_stop {p : Pattern} (hp : p.avoids b = true) (hleast : 0 < p.least) (prev : Option Char) :
    matchAt p ⟨prev, b :: t⟩ = none := by
  have hnone : Option.Rel (fun _ _ : Match => False) (matchAt p ⟨prev, b :: t⟩)
      (matchAt p ⟨prev, b :: t⟩) := by
    refine related_run rfl p hp hp [] prev [] [] fun prev' s' hs' => ?_
    rw [List.length_nil] at hs'
    omega
  cases hnone' : matchAt p ⟨prev, b :: t⟩ with
  | none => rfl
  | some m =>
    rw [hnone'] at hnone
    cases hnone with
    | some h => exact h.elim

/-- What a match says wherever it is: the character before it and its text. -/
def Match.found (m : Match) : Option Char × List Char := (m.prev, m.text)

theorem findAllFrom_eq (p : Pattern) (acc : List Match) (prev : Option Char) (skip : Nat)
    (s : List Char) : findAllFrom p acc prev skip s = acc.reverse ++ findAllFrom p [] prev skip s := by
  induction s generalizing acc prev skip with
  | nil => cases skip <;> simp [findAllFrom]
  | cons c s ih =>
    cases skip with
    | succ skip => exact ih acc (some c) skip
    | zero =>
      rw [findAllFrom, findAllFrom]
      split
      · next m _ =>
        rw [ih (m :: acc), ih [m], List.reverse_cons, List.reverse_singleton, List.append_assoc]
      · exact ih acc (some c) 0

/-- Each match is the preferred one at some place. -/
theorem exists_of_mem_findAllFrom {p : Pattern} {acc : List Match} {prev : Option Char} {skip : Nat}
    {s : List Char} {m : Match} (h : m ∈ findAllFrom p acc prev skip s) :
    m ∈ acc ∨ ∃ a b prev, s = a ++ b ∧ matchAt p ⟨prev, b⟩ = some m := by
  induction s generalizing acc prev skip with
  | nil =>
    rw [findAllFrom, List.mem_reverse] at h
    exact .inl h
  | cons c r ih =>
    have hlater : (∃ a b prev, r = a ++ b ∧ matchAt p ⟨prev, b⟩ = some m) →
        ∃ a b prev, c :: r = a ++ b ∧ matchAt p ⟨prev, b⟩ = some m := by
      rintro ⟨a, b, prev, rfl, hmatch⟩
      exact ⟨c :: a, b, prev, rfl, hmatch⟩
    cases skip with
    | succ skip => exact (ih h).imp_right hlater
    | zero =>
      rw [findAllFrom] at h
      split at h
      · next m' hmatch =>
        rcases ih h with hacc | hlate
        · rcases List.mem_cons.1 hacc with rfl | hacc
          · exact .inr ⟨[], c :: r, prev, rfl, hmatch⟩
          · exact .inl hacc
        · exact .inr (hlater hlate)
      · exact (ih h).imp_right hlater

theorem exists_of_mem_findAll {p : Pattern} {s : List Char} {m : Match} (h : m ∈ findAll p s) :
    ∃ a b prev, s = a ++ b ∧ matchAt p ⟨prev, b⟩ = some m :=
  (exists_of_mem_findAllFrom h).resolve_left List.not_mem_nil

/-- What is found up to a stop does not depend on which stop comes and on what follows. -/
theorem foundFrom_append (hw : isWordChar b = isWordChar b') {p : Pattern} (hp : p.avoids b = true)
    (hp' : p.avoids b' = true) (hleast : 0 < p.least) (prev : Option Char) (s t : List Char) :
    (findAllFrom p [] prev 0 (s ++ b' :: t)).map Match.found =
      (findAllFrom p [] prev 0 (s ++ [b])).map Match.found ++
        (findAllFrom p [] (some b') 0 t).map Match.found := by
  have hfrom : ∀ (s : List Char) (prev : Option Char) (skip : Nat), skip ≤ s.length →
      (findAllFrom p [] prev skip (s ++ b' :: t)).map Match.found =
        (findAllFrom p [] prev skip (s ++ [b])).map Match.found ++
          (findAllFrom p [] (some b') 0 t).map Match.found := by
    intro s
    induction s with
    | nil =>
      intro prev skip hskip
      obtain rfl := Nat.le_zero.1 hskip
      rw [List.nil_append, List.nil_append, findAllFrom, matchAt_stop hp' hleast, findAllFrom,
        matchAt_stop hp hleast]
      rfl
    | cons c s ih =>
      intro prev skip hskip
      rw [List.length_cons] at hskip
      cases skip with
      | succ skip => exact ih (some c) skip (by omega)
      | zero =>
        have hmatch : Option.Rel _ (matchAt p ⟨prev, c :: (s ++ [b])⟩)
            (matchAt p ⟨prev, c :: (s ++ b' :: t)⟩) := related_matchAt hw hp hp' (c :: s) prev
        rw [List.cons_append, List.cons_append, findAllFrom, findAllFrom]
        generalize matchAt p ⟨prev, c :: (s ++ [b])⟩ = x at hmatch
        generalize matchAt p ⟨prev, c :: (s ++ b' :: t)⟩ = x' at hmatch
        cases hmatch with
        | none => exact ih (some c) 0 (Nat.zero_le _)
        | @some m m' h =>
          obtain ⟨hprev, htext, hlen⟩ := h
          have hfound : m.found = m'.found := by rw [Match.found, Match.found, hprev, htext]
          rw [List.length_cons] at hlen
          simp only
          rw [findAllFrom_eq p [m], findAllFrom_eq p [m'], List.reverse_singleton,
            List.reverse_singleton, List.map_append, List.map_append, List.map_singleton,
            List.map_singleton, hfound, htext, List.append_assoc, ih (some c) _ (by rw [← htext]; omega)]
  exact hfrom s prev 0 (Nat.zero_le _)

theorem found_append (hw : isWordChar b = isWordChar b') {p : Pattern} (hp : p.avoids b = true)
    (hp' : p.avoids b' = true) (hleast : 0 < p.least) (s t : List Char) :
    (findAll p (s ++ b' :: t)).map Match.found = (findAll p (s ++ [b])).map Match.found ++
      (findAllFrom p [] (some b') 0 t).map Match.found :=
  foundFrom_append hw hp hp' hleast none s t

/-- What is found up to a stop is found first. -/
theorem found_prefix (hw : isWordChar b = isWordChar b') {p : Pattern} (hp : p.avoids b = true)
    (hp' : p.avoids b' = true) (hleast : 0 < p.least) (s t : List Char) :
    (findAll p (s ++ [b])).map Match.found <+: (findAll p (s ++ b' :: t)).map Match.found :=
  ⟨_, (found_append hw hp hp' hleast s t).symm⟩

end BuildLoop.Text.Pattern
