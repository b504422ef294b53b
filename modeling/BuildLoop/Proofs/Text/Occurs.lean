import Mathlib.Data.List.Infix
import BuildLoop.Proofs.Text.Cut
import BuildLoop.Proofs.Text.Pattern
import BuildLoop.Proofs.Text.Takes

/-!
# Where fixed texts occur

A text that does not hold a separator occurs on one side of it. A pattern that begins with a fixed text
matches where that text first occurs, if at all, and the group that follows it is what reaches up to the
first character outside its class:

    occurs w s = true                 ↔   w is an infix of s                            (occurs_iff)
    c ∉ w, w in x ++ c :: y           →   w in x or w in y                      (infix_append_cons)
    w not in s                        →   no match of a pattern that begins with w   (find_eq_none)
    c only ever begins a match        →   a match at c is among those found   (exists_mem_findAllFrom)

What is found stands in the text one after another                                    (strewn_findAll).
-/

namespace BuildLoop.Text

theorem occurs_iff {needle s : List Char} : occurs needle s = true ↔ needle <:+: s := by
  induction s with
  | nil => rw [occurs, List.isEmpty_iff, List.infix_nil]
  | cons c r ih => rw [occurs, Bool.or_eq_true, List.isPrefixOf_iff_prefix, ih, List.infix_cons_iff]

theorem contains_iff {s needle : String} : contains s needle = true ↔ needle.toList <:+: s.toList :=
  occurs_iff

/-! ## At a separator -/

section
variable {u v w x y : List Char} {c : Char}

theorem infix_append_cons (hc : c ∉ w) : w <:+: x ++ c :: y ↔ w <:+: x ∨ w <:+: y := by
  constructor
  · rintro ⟨a, b, h⟩
    rw [List.append_assoc] at h
    rcases List.append_eq_append_iff.1 h with ⟨a', rfl, hw⟩ | ⟨r, rfl, hr⟩
    · obtain ⟨a'', rfl, -⟩ := exists_of_notMem_left hw hc
      exact .inl ⟨a, a'', by simp⟩
    · cases r with
      | nil =>
        cases w with
        | nil => exact .inr List.nil_infix
        | cons d w =>
          obtain ⟨rfl, -⟩ := List.cons.inj hr
          simp at hc
      | cons d r =>
        obtain ⟨rfl, rfl⟩ := List.cons.inj hr
        exact .inr ⟨r, b, by simp⟩
  · rintro (h | h)
    · exact h.trans (List.prefix_append x _).isInfix
    · exact h.trans ((List.suffix_cons c y).trans (List.suffix_append x _)).isInfix

theorem infix_append_of_eq {m : List Char} (hm : m = c :: y) (hc : c ∉ w) (h : w <:+: x ++ m) :
    w <:+: x ∨ w <:+: y := by
  rwa [hm, infix_append_cons hc] at h

/-- A text that holds neither of two separators occurs before, between or behind them. -/
theorem infix_across {d : Char} {m m₁ m₂ m₃ : List Char} (hm : m = m₁ ++ c :: (m₂ ++ d :: m₃)) (hc : c ∉ w)
    (hd : d ∉ w) (h : w <:+: x ++ (m ++ y)) : w <:+: x ++ m₁ ∨ w <:+: m₂ ∨ w <:+: m₃ ++ y := by
  have hsplit : x ++ (m ++ y) = (x ++ m₁) ++ c :: (m₂ ++ d :: (m₃ ++ y)) := by
    rw [hm]
    simp
  rwa [hsplit, infix_append_cons hc, infix_append_cons hd] at h

theorem prefix_append_cons (hc : c ∉ w) (h : w <+: x ++ c :: y) : w <+: x := by
  obtain ⟨b, h⟩ := h
  obtain ⟨b', rfl, -⟩ := exists_of_notMem_left h hc
  exact List.prefix_append w b'

/-- A text that does not occur in what stands before a separator does not begin there either. -/
theorem not_prefix_of_append {pre t : List Char} (hc : c ∉ w) (hpre : ¬ w <:+: pre)
    (h : pre ++ [c] = x ++ y) (hy : y ≠ []) : ¬ w <+: y ++ t := by
  rcases List.eq_nil_or_concat y with rfl | ⟨y, d, rfl⟩
  · exact absurd rfl hy
  rw [List.concat_eq_append] at h ⊢
  rw [← List.append_assoc] at h
  obtain ⟨rfl, hd⟩ := List.append_inj' h rfl
  obtain rfl := (List.cons.inj hd).1
  rw [List.append_assoc]
  intro hw
  exact hpre ((prefix_append_cons hc hw).isInfix.trans (List.suffix_append x y).isInfix)

/-- A text that holds a separator occurs across the first separator, or behind it. -/
theorem infix_cut (hu : c ∉ u) (hx : c ∉ x) (h : u ++ c :: v <:+: x ++ c :: y) :
    u <:+ x ∧ v <+: y ∨ u ++ c :: v <:+: y := by
  obtain ⟨a, b, h⟩ := h
  have hcut : (a ++ u) ++ c :: (v ++ b) = x ++ c :: y := by simpa using h
  obtain ⟨t, ht, hy⟩ := exists_of_notMem_left hcut.symm hx
  cases t with
  | nil =>
    obtain ⟨-, rfl⟩ := List.cons.inj hy
    exact .inl ⟨⟨a, by simpa using ht⟩, List.prefix_append v b⟩
  | cons d t =>
    -- the separator of the text stands further behind, so all of the text does
    obtain ⟨rfl, rfl⟩ := List.cons.inj hy
    obtain ⟨a', rfl, hu'⟩ := exists_of_notMem_right ht hu
    exact .inr ⟨a', b, by simp⟩

/-- A text that begins with a character starts behind what does not hold it. -/
theorem infix_of_append_left (hc : c ∉ x) (h : c :: w <:+: x ++ y) : c :: w <:+: y := by
  induction x with
  | nil => exact h
  | cons d x ih =>
    rw [List.cons_append, List.infix_cons_iff] at h
    rcases h with h | h
    · obtain ⟨rfl, -⟩ := List.cons_prefix_cons.1 h
      exact absurd List.mem_cons_self hc
    · exact ih (fun hx => hc (List.mem_cons_of_mem _ hx)) h

/-- A text that begins before what does not hold its last character ends before it. -/
theorem prefix_of_append (hc : c ∉ y) (h : w ++ [c] <+: x ++ y) : w ++ [c] <+: x := by
  rcases List.prefix_or_prefix_of_prefix h (List.prefix_append x y) with hx | ⟨rest, hrest⟩
  · exact hx
  · rcases List.eq_nil_or_concat' rest with rfl | ⟨v, d, rfl⟩
    · rw [← hrest, List.append_nil]
    · rw [← hrest, List.prefix_append_right_inj] at h
      rw [← List.append_assoc] at hrest
      obtain ⟨-, hd⟩ := List.append_inj' hrest rfl
      obtain rfl : d = c := by simpa using hd
      exact absurd (h.subset (by simp)) hc

/-- So it stands before it, if anywhere. -/
theorem infix_of_append_right (hc : c ∉ y) (h : w ++ [c] <:+: x ++ y) : w ++ [c] <:+: x := by
  induction x with
  | nil => exact absurd (h.subset (by simp)) hc
  | cons d x ih =>
    rw [List.cons_append] at h
    rcases List.infix_cons_iff.1 h with h | h
    · exact (prefix_of_append hc h).isInfix
    · exact (ih h).trans (List.suffix_cons d x).isInfix

/-- Where a text that holds its last character but once is found first, it cuts. -/
theorem cutAt_concat (hc : c ∉ w) (hx : ¬ w ++ [c] <:+: x) (y : List Char) :
    cutAt (w ++ [c]) (x ++ ((w ++ [c]) ++ y)) = some (x, y) := by
  have hfrom : ∀ before, cutFrom (w ++ [c]) before (x ++ ((w ++ [c]) ++ y)) = some (x.reverse ++ before, y) := by
    induction x with
    | nil =>
      intro before
      have hhere := after?_append (w ++ [c]) y
      rw [List.nil_append]
      cases hs : (w ++ [c]) ++ y with
      | nil => simp at hs
      | cons d r =>
        rw [hs] at hhere
        rw [cutFrom, hhere]
        rfl
    | cons d x ih =>
      intro before
      have hnone : after? (w ++ [c]) (d :: (x ++ ((w ++ [c]) ++ y))) = none := by
        rw [Option.eq_none_iff_forall_ne_some]
        intro r hr
        have hlong : w ++ [c] <+: (d :: x) ++ (w ++ c :: y) := ⟨r, by simpa using (eq_of_after? hr).symm⟩
        have hshort : w ++ [c] <+: (d :: x) ++ w := by
          refine List.prefix_of_prefix_length_le hlong ?_ (by simp)
          exact ⟨c :: y, by simp⟩
        exact hx (prefix_of_append hc hshort).isInfix
      rw [List.cons_append, cutFrom, hnone]
      simp only
      rw [ih (fun h => hx (h.trans (List.suffix_cons d x).isInfix)), List.reverse_cons, List.append_assoc]
      rfl
  rw [cutAt, hfrom, List.append_nil]
  simp

/-- A text stands behind what does not hold its first character, -/
theorem infix_of_head (hw : w.head? = some c) (hx : c ∉ x) (h : w <:+: x ++ y) : w <:+: y := by
  cases w with
  | nil => exact List.nil_infix
  | cons d w =>
    obtain rfl := Option.some.inj hw
    exact infix_of_append_left hx h

/-- and before what does not hold its last one. -/
theorem infix_of_last (hw : w.getLast? = some c) (hy : c ∉ y) (h : w <:+: x ++ y) : w <:+: x := by
  rcases List.eq_nil_or_concat' w with rfl | ⟨w, d, rfl⟩
  · exact List.nil_infix
  · rw [List.getLast?_concat] at hw
    obtain rfl := Option.some.inj hw
    exact infix_of_append_right hy h

theorem not_infix_of_count (h : x.count c < w.count c) : ¬ w <:+: x := fun hw =>
  absurd (hw.sublist.count_le c) (Nat.not_le.2 h)

theorem not_infix_of_mem (hw : c ∈ w) (hx : c ∉ x) : ¬ w <:+: x := fun h => hx (h.subset hw)

end

theorem infix_intercalate {sep : List Char} {l : List (List Char)} (h : w ∈ l) : w <:+: sep.intercalate l := by
  induction l with
  | nil => cases h
  | cons u l ih =>
    cases l with
    | nil =>
      obtain rfl := List.mem_singleton.1 h
      simp
    | cons v l =>
      rw [List.intercalate_cons_cons, List.append_assoc]
      rcases List.mem_cons.1 h with rfl | h
      · exact (List.prefix_append _ _).isInfix
      · exact (ih h).trans ((List.suffix_append sep _).trans (List.suffix_append u _)).isInfix

/-! ## Patterns that begin with a fixed text -/

namespace Pattern

variable {α : Type} {p q : Pattern} {w : String} {s : List Char}

theorem run_chars (w : List Char) (here : Cursor) (gs : Groups) (k : Cursor → Groups → Option α) :
    run (chars w) here gs k = (after? w here.rest).bind fun r => k ⟨lastOf here.prev w, r⟩ gs := by
  induction w generalizing here with
  | nil => rfl
  | cons a w ih =>
    have hone : ∀ k : Cursor → Groups → Option α, run (one (· == a)) here gs k =
        (after? [a] here.rest).bind fun r => k ⟨some a, r⟩ gs := by
      intro k
      rw [run]
      cases here.rest with
      | nil => rfl
      | cons c r =>
        by_cases hc : c = a
        · subst hc
          simp [after?]
        · simp [after?, hc, Ne.symm hc]
    cases w with
    | nil => exact hone k
    | cons b w =>
      have hchars : chars (a :: b :: w) = seq (one (· == a)) (chars (b :: w)) := rfl
      rw [hchars, run, hone]
      cases here.rest with
      | nil => rfl
      | cons c r =>
        by_cases hac : a = c
        · subst hac
          have hone : after? [a] (a :: r) = some r := after?_append [a] r
          have hmore : after? (a :: b :: w) (a :: r) = after? (b :: w) r := if_pos rfl
          rw [hone, hmore, Option.bind_some, ih, lastOf_cons here.prev]
        · have hone : after? [a] (c :: r) = none := if_neg hac
          have hmore : after? (a :: b :: w) (c :: r) = none := if_neg hac
          rw [hone, hmore]
          rfl

theorem run_lit (w : String) (here : Cursor) (gs : Groups) (k : Cursor → Groups → Option α) :
    run (lit w) here gs k = (after? w.toList here.rest).bind fun r => k ⟨lastOf here.prev w.toList, r⟩ gs :=
  run_chars w.toList here gs k

theorem find_eq_none (h : ¬ w.toList <:+: s) : find (seq (lit w) q) s = none := by
  rw [← Option.not_isSome_iff_eq_none]
  intro hsome
  obtain ⟨u, x, t, rfl, v, y, rfl, hv, -⟩ := test_iff.1 hsome
  rw [takes_lit.1 hv] at h
  exact h ⟨u, y ++ t, by simp⟩

/-- What is found first, if the fixed text occurs nowhere before. -/
theorem find_of_first {P : Match → Prop} {pre rest : List Char}
    (hfirst : ∀ a b, pre = a ++ b → b ≠ [] → ¬ w.toList <+: b ++ (w.toList ++ rest))
    (hmatch : ∀ prev, ∃ m, matchAt (seq (lit w) q) ⟨prev, w.toList ++ rest⟩ = some m ∧ P m) :
    ∃ m, find (seq (lit w) q) (pre ++ (w.toList ++ rest)) = some m ∧ P m := by
  have hfrom : ∀ prev, ∃ m, findFrom (seq (lit w) q) prev (pre ++ (w.toList ++ rest)) = some m ∧ P m := by
    induction pre with
    | nil =>
      intro prev
      obtain ⟨m, hm, hP⟩ := hmatch prev
      refine ⟨m, ?_, hP⟩
      rw [List.nil_append]
      cases h : w.toList ++ rest with
      | nil => rw [findFrom, ← h, hm]
      | cons c r => rw [findFrom, ← h, hm]
    | cons c pre ih =>
      intro prev
      have hnone : matchAt (seq (lit w) q) ⟨prev, c :: (pre ++ (w.toList ++ rest))⟩ = none := by
        have hafter : after? w.toList (c :: (pre ++ (w.toList ++ rest))) = none := by
          rw [Option.eq_none_iff_forall_ne_some]
          intro r hr
          exact hfirst [] (c :: pre) rfl (List.cons_ne_nil c pre) ⟨r, (eq_of_after? hr).symm⟩
        rw [matchAt, run, run_lit, hafter, Option.bind_none]
      rw [List.cons_append, findFrom, hnone]
      exact ih (fun a b hab hb => hfirst (c :: a) b (by rw [hab, List.cons_append]) hb) (some c)
  exact hfrom none

/-! ## Groups -/

theorem places_eq (holds : Char → Bool) (acc : List Cursor) (prev : Option Char) (s t : List Char)
    (hs : s.all holds = true) (ht : ∀ c ∈ t.head?, holds c = false) :
    ∃ l, places holds acc prev (s ++ t) = ⟨lastOf prev s, t⟩ :: l := by
  induction s generalizing acc prev with
  | nil =>
    cases t with
    | nil => exact ⟨acc, rfl⟩
    | cons c t =>
      have hc : holds c = false := ht c rfl
      exact ⟨acc, by rw [List.nil_append, places, hc]; rfl⟩
  | cons c s ih =>
    obtain ⟨hc, hs⟩ := Bool.and_eq_true_iff.1 hs
    rw [List.cons_append, places, if_pos hc, lastOf_cons]
    exact ih _ (some c) hs

/-- Characters of a class are taken up to the first one outside it, if the place there is accepted. -/
theorem run_atLeastOne {holds : Char → Bool} {prev : Option Char} {gs : Groups}
    {k : Cursor → Groups → Option α} {s t : List Char} (hne : s ≠ []) (hs : s.all holds = true)
    (ht : ∀ c ∈ t.head?, holds c = false) (hk : (k ⟨lastOf prev s, t⟩ gs).isSome = true) :
    run (atLeastOne holds) ⟨prev, s ++ t⟩ gs k = k ⟨lastOf prev s, t⟩ gs := by
  obtain ⟨c, s, rfl⟩ := List.exists_cons_of_ne_nil hne
  obtain ⟨hc, hs⟩ := Bool.and_eq_true_iff.1 hs
  obtain ⟨l, hl⟩ := places_eq holds [] (some c) s t hs ht
  have hone : run (atLeastOne holds) ⟨prev, c :: s ++ t⟩ gs k =
      (places holds [] (some c) (s ++ t)).findSome? fun next => k next gs := if_pos hc
  rw [lastOf_cons] at hk ⊢
  obtain ⟨r, hr⟩ := Option.isSome_iff_exists.1 hk
  rw [hone, hl, List.findSome?_cons, hr]

/-- A group of characters of a class reaches up to the first one outside it. -/
theorem run_group_atLeastOne {holds : Char → Bool} {n : Nat} {prev : Option Char} {gs : Groups}
    {k : Cursor → Groups → Option α} {r : α} {s t : List Char} (hne : s ≠ []) (hs : s.all holds = true)
    (ht : ∀ c ∈ t.head?, holds c = false)
    (hk : k ⟨lastOf prev s, t⟩ ((n, s ++ t, t) :: gs) = some r) :
    run (group n (atLeastOne holds)) ⟨prev, s ++ t⟩ gs k = some r := by
  rw [← hk]
  exact run_atLeastOne (k := fun next gs => k next ((n, s ++ t, next.rest) :: gs)) hne hs ht (by rw [hk]; rfl)

/-- The numbers of the groups of a pattern. -/
def numbers : Pattern → List Nat
  | seq p q | alt p q => p.numbers ++ q.numbers
  | again p => p.numbers
  | group n p => n :: p.numbers
  | empty | one _ | many _ | few _ | wordEdge | lineStart | textStart => []

theorem numbers_chars (w : List Char) : (chars w).numbers = [] := by
  induction w with
  | nil => rfl
  | cons a w ih =>
    cases w with
    | nil => rfl
    | cons b w => exact ih

theorem numbers_charsFolded (w : List Char) : (charsFolded w).numbers = [] := by
  induction w with
  | nil => rfl
  | cons a w ih =>
    cases w with
    | nil => rfl
    | cons b w => exact ih

theorem exists_of_turns {step : Cursor → Groups → (Cursor → Groups → Option α) → Option α} {ns : List Nat}
    {T : Option Char → List Char → List Char → Prop} {r : α}
    (hstep : ∀ here gs k, step here gs k = some r → ∃ s t new, here.rest = s ++ t ∧ T here.prev s t ∧
      k ⟨lastOf here.prev s, t⟩ (new ++ gs) = some r ∧ ∀ g ∈ new, g.1 ∈ ns)
    {ahead : List Char} {here : Cursor} {gs : Groups} {k : Cursor → Groups → Option α}
    (h : turns step ahead here gs k = some r) :
    ∃ s t new, here.rest = s ++ t ∧ Turned T ahead.length here.prev s t ∧
      k ⟨lastOf here.prev s, t⟩ (new ++ gs) = some r ∧ ∀ g ∈ new, g.1 ∈ ns := by
  induction ahead generalizing here gs with
  | nil => exact ⟨[], here.rest, [], rfl, rfl, h, by simp⟩
  | cons a ahead ih =>
    rw [turns] at h
    split at h
    · next r' hr' =>
      obtain rfl := Option.some.inj h
      obtain ⟨u, x, new, hrest, hu, hnext, hnew⟩ := hstep _ _ _ hr'
      obtain ⟨v, t, new', rfl, hv, hnext', hnew'⟩ := ih hnext
      refine ⟨u ++ v, t, new' ++ new, by rw [hrest, List.append_assoc], .inr ⟨u, v, rfl, hu, hv⟩, ?_,
        fun g hg => (List.mem_append.1 hg).elim (hnew' g) (hnew g)⟩
      rw [List.append_assoc, lastOf_append]
      exact hnext'
    · exact ⟨[], here.rest, [], rfl, .inl rfl, h, by simp⟩

theorem exists_of_places {holds : Char → Bool} {here : Cursor} {gs : Groups}
    {k : Cursor → Groups → Option α} {r : α} {next : Cursor} {ns : List Nat}
    (hnext : next ∈ places holds [] here.prev here.rest) (h : k next gs = some r) :
    ∃ s t new, here.rest = s ++ t ∧ s.all holds = true ∧ k ⟨lastOf here.prev s, t⟩ (new ++ gs) = some r ∧
      ∀ g ∈ new, g.1 ∈ ns := by
  rcases mem_places.1 hnext with hnil | ⟨s, t, hrest, hs, rfl⟩
  · cases hnil
  · exact ⟨s, t, [], hrest, hs, h, by simp⟩

/-- The answer comes from a text that the pattern takes. A pattern keeps the groups passed before it and
adds its own. -/
theorem exists_of_run {here : Cursor} {gs : Groups} {k : Cursor → Groups → Option α} {r : α}
    (h : run p here gs k = some r) :
    ∃ s t new, here.rest = s ++ t ∧ p.Takes here.prev s t ∧ k ⟨lastOf here.prev s, t⟩ (new ++ gs) = some r ∧
      ∀ g ∈ new, g.1 ∈ p.numbers := by
  induction p generalizing here gs k with
  | empty => exact ⟨[], here.rest, [], rfl, rfl, h, by simp⟩
  | one holds =>
    rw [run] at h
    split at h
    · cases h
    · next c r hrest =>
      split at h
      · next hc => exact ⟨[c], r, [], hrest, ⟨c, rfl, hc⟩, h, by simp⟩
      · cases h
  | many holds | few holds =>
    rw [run] at h
    obtain ⟨next, hmem, hnext⟩ := List.exists_of_findSome?_eq_some h
    exact exists_of_places (by simpa using hmem) hnext
  | seq p q ihp ihq =>
    obtain ⟨u, x, new, hrest, hu, hnext, hnew⟩ := ihp h
    obtain ⟨v, t, new', rfl, hv, hnext', hnew'⟩ := ihq hnext
    refine ⟨u ++ v, t, new' ++ new, by rw [hrest, List.append_assoc], ⟨u, v, rfl, hu, hv⟩, ?_,
      fun g hg => ?_⟩
    · rw [List.append_assoc, lastOf_append]
      exact hnext'
    · rw [numbers, List.mem_append]
      exact (List.mem_append.1 hg).elim (fun hg => .inr (hnew' g hg)) fun hg => .inl (hnew g hg)
  | alt p q ihp ihq =>
    rw [run] at h
    split at h
    · next r' hr' =>
      obtain rfl := Option.some.inj h
      obtain ⟨s, t, new, hrest, hs, hnext, hnew⟩ := ihp hr'
      exact ⟨s, t, new, hrest, .inl hs, hnext, fun g hg => List.mem_append_left _ (hnew g hg)⟩
    · obtain ⟨s, t, new, hrest, hs, hnext, hnew⟩ := ihq h
      exact ⟨s, t, new, hrest, .inr hs, hnext, fun g hg => List.mem_append_right _ (hnew g hg)⟩
  | again p ih =>
    obtain ⟨s, t, new, hrest, hs, hnext, hnew⟩ := exists_of_turns (fun _ _ _ h => ih h) h
    exact ⟨s, t, new, hrest, by rw [hrest] at hs; exact hs, hnext, hnew⟩
  | group n p ih =>
    obtain ⟨s, t, new, hrest, hs, hnext, hnew⟩ := ih h
    refine ⟨s, t, (n, here.rest, t) :: new, hrest, hs, hnext, fun g hg => ?_⟩
    rcases List.mem_cons.1 hg with rfl | hg
    · exact List.mem_cons_self
    · exact List.mem_cons_of_mem _ (hnew g hg)
  | wordEdge | lineStart | textStart =>
    rw [run] at h
    split at h
    · next hat => exact ⟨[], here.rest, [], rfl, ⟨rfl, hat⟩, h, by simp⟩
    · cases h

/-- The text of a match is one that the pattern takes. -/
theorem takes_of_matchAt {here : Cursor} {m : Match} (h : matchAt p here = some m) :
    ∃ t, here.rest = m.text ++ t ∧ p.Takes here.prev m.text t ∧ m.prev = here.prev := by
  obtain ⟨s, t, new, hrest, hs, hm, -⟩ := exists_of_run h
  obtain rfl := Option.some.inj hm
  have htext : upTo here.rest t = s := by simp [hrest, upTo]
  exact ⟨t, by rw [htext, hrest], by rwa [htext], rfl⟩

/-- Whether texts stand in a text one after another, with anything between them. -/
inductive Strewn : List (List Char) → List Char → Prop
  | nil (s : List Char) : Strewn [] s
  | cons (gap x : List Char) {xs : List (List Char)} {s : List Char} :
      Strewn xs s → Strewn (x :: xs) (gap ++ (x ++ s))

theorem Strewn.append_left {xs : List (List Char)} {s : List Char} (h : Strewn xs s) (gap : List Char) :
    Strewn xs (gap ++ s) := by
  cases h with
  | nil => exact .nil _
  | cons gap' x h =>
    rw [← List.append_assoc]
    exact .cons (gap ++ gap') x h

theorem Strewn.sublist {xs ys : List (List Char)} {s : List Char} (h : Strewn xs s) (hys : ys.Sublist xs) :
    Strewn ys s := by
  induction h generalizing ys with
  | nil s => rw [List.sublist_nil.1 hys]; exact .nil s
  | @cons gap x xs s _ ih =>
    cases hys with
    | cons _ hys =>
      rw [← List.append_assoc]
      exact (ih hys).append_left _
    | cons_cons _ hys => exact .cons gap x (ih hys)

theorem Strewn.infix_of_mem {xs : List (List Char)} {s x : List Char} (h : Strewn xs s) (hx : x ∈ xs) : x <:+: s := by
  obtain ⟨a, b, hxs⟩ := List.append_of_mem hx
  have hone : Strewn [x] s := h.sublist (by rw [hxs]; simp)
  cases hone with
  | @cons gap x _ s h => exact ⟨gap, s, by simp⟩

/-- What is found stands in what is left of the text. -/
theorem strewn_findAllFrom (prev : Option Char) (skip : Nat) (s : List Char) :
    Strewn ((findAllFrom p [] prev skip s).map (·.text)) (s.drop skip) := by
  induction s generalizing prev skip with
  | nil =>
    rw [findAllFrom]
    exact .nil _
  | cons c r ih =>
    cases skip with
    | succ skip => exact ih (some c) skip
    | zero =>
      rw [findAllFrom]
      split
      · next m hm =>
        obtain ⟨t, hrest, -, -⟩ := takes_of_matchAt hm
        have hrest : c :: r = m.text ++ t := hrest
        have hlater := ih (some c) (m.text.length - 1)
        rw [findAllFrom_eq, List.reverse_singleton, List.singleton_append, List.map_cons, List.drop_zero]
        cases htext : m.text with
        | nil =>
          rw [htext] at hlater
          exact .cons [] [] (hlater.append_left [c])
        | cons d u =>
          rw [htext] at hlater hrest
          have hr : r = u ++ t := (List.cons.inj hrest).2
          have hdrop : r.drop ((d :: u).length - 1) = t := by simp [hr]
          rw [hdrop] at hlater
          rw [hrest]
          exact .cons [] (d :: u) hlater
      · exact (ih (some c) 0).append_left [c]

theorem strewn_findAll (p : Pattern) (s : List Char) : Strewn ((findAll p s).map (·.text)) s :=
  strewn_findAllFrom none 0 s

/-- What is found is matched at some place. -/
theorem exists_of_find {m : Match} (h : find p s = some m) :
    ∃ a b, s = a ++ b ∧ matchAt p ⟨a.getLast?, b⟩ = some m := by
  have hfrom : ∀ prev, findFrom p prev s = some m → ∃ a b, s = a ++ b ∧ matchAt p ⟨lastOf prev a, b⟩ = some m := by
    clear h
    induction s with
    | nil => exact fun prev h => ⟨[], [], rfl, h⟩
    | cons c r ih =>
      intro prev h
      rw [findFrom] at h
      split at h
      · next m' hm =>
        obtain rfl := Option.some.inj h
        exact ⟨[], c :: r, rfl, hm⟩
      · obtain ⟨a, b, rfl, hm⟩ := ih (some c) h
        exact ⟨c :: a, b, rfl, by rwa [lastOf_cons]⟩
  obtain ⟨a, b, hs, hm⟩ := hfrom none h
  exact ⟨a, b, hs, by rwa [lastOf, Option.or_none] at hm⟩

/-- Of the places where the pattern matches, one is found that begins with a character which no match holds
behind its first one. -/
theorem exists_mem_findAllFrom {c : Char} {a b : List Char} (hs : s = a ++ c :: b)
    (hfree : ∀ x y prev m, s = x ++ y → matchAt p ⟨prev, y⟩ = some m → c ∉ m.text.tail)
    (hmatch : ∀ prev, (matchAt p ⟨prev, c :: b⟩).isSome = true) {skip : Nat} (hskip : c ∉ s.take skip)
    (prev : Option Char) :
    ∃ m ∈ findAllFrom p [] prev skip s, ∃ prev, matchAt p ⟨prev, c :: b⟩ = some m := by
  induction a generalizing s skip prev with
  | nil =>
    subst hs
    cases skip with
    | succ skip => simp at hskip
    | zero =>
      obtain ⟨m, hm⟩ := Option.isSome_iff_exists.1 (hmatch prev)
      refine ⟨m, ?_, prev, hm⟩
      rw [List.nil_append, findAllFrom, hm]
      simp only
      rw [findAllFrom_eq]
      simp
  | cons d a ih =>
    subst hs
    have hrest : ∀ x y prev m, a ++ c :: b = x ++ y → matchAt p ⟨prev, y⟩ = some m → c ∉ m.text.tail :=
      fun x y prev m hxy => hfree (d :: x) y prev m (congrArg (List.cons d) hxy)
    cases skip with
    | succ skip => exact ih rfl hrest (fun hmem => hskip (List.mem_cons_of_mem d hmem)) (some d)
    | zero =>
      rw [List.cons_append, findAllFrom]
      split
      · next m hm =>
        -- no place within the match begins with the character
        obtain ⟨t, htext, -⟩ := takes_of_matchAt hm
        have htext : d :: (a ++ c :: b) = m.text ++ t := htext
        have hwithin : c ∉ (a ++ c :: b).take (m.text.length - 1) := by
          have htail := hfree [] (d :: (a ++ c :: b)) prev m rfl hm
          cases hmtext : m.text with
          | nil => simp
          | cons e r =>
            rw [hmtext] at htext htail
            have hr : a ++ c :: b = r ++ t := (List.cons.inj htext).2
            rw [hr, List.length_cons, Nat.add_sub_cancel, List.take_left]
            exact htail
        obtain ⟨m', hm', hfound⟩ := ih rfl hrest hwithin (some d)
        refine ⟨m', ?_, hfound⟩
        rw [findAllFrom_eq]
        exact List.mem_append_right _ hm'
      · exact ih rfl hrest (by simp) (some d)

theorem exists_of_run_plain (hp : p.numbers = []) {here : Cursor} {gs : Groups}
    {k : Cursor → Groups → Option α} {r : α} (h : run p here gs k = some r) :
    ∃ s t, here.rest = s ++ t ∧ p.Takes here.prev s t ∧ k ⟨lastOf here.prev s, t⟩ gs = some r := by
  obtain ⟨s, t, new, hrest, hs, hnext, hnew⟩ := exists_of_run h
  obtain rfl : new = [] := List.eq_nil_iff_forall_not_mem.2 fun g hg => by
    have := hnew g hg
    rw [hp] at this
    cases this
  exact ⟨s, t, hrest, hs, hnext⟩

theorem exists_of_run_seq (hp : p.numbers = []) {here : Cursor} {gs : Groups}
    {k : Cursor → Groups → Option α} {r : α} (h : run (seq p q) here gs k = some r) :
    ∃ s t, here.rest = s ++ t ∧ p.Takes here.prev s t ∧ run q ⟨lastOf here.prev s, t⟩ gs k = some r :=
  exists_of_run_plain hp h

/-- A match of a fixed text and a group of characters of a class, whatever may follow them. -/
theorem matchAt_group {holds : Char → Bool} {n : Nat} {t : List Char} (hne : s ≠ [])
    (hs : s.all holds = true) (ht : ∀ c ∈ t.head?, holds c = false) (hn : n ∉ q.numbers)
    (hq : ∀ (here : Cursor) (gs : Groups) (k : Cursor → Groups → Option Match),
      (∀ next gs, (k next gs).isSome = true) → (run q here gs k).isSome = true) (prev : Option Char) :
    ∃ m, matchAt (seq (lit w) (seq (group n (atLeastOne holds)) q)) ⟨prev, w.toList ++ (s ++ t)⟩ = some m ∧
      m.group? n = some s := by
  obtain ⟨m, hm⟩ := Option.isSome_iff_exists.1 (hq ⟨lastOf (lastOf prev w.toList) s, t⟩ [(n, s ++ t, t)]
    (fun next gs => some {
      prev := prev
      text := upTo (w.toList ++ (s ++ t)) next.rest
      groups := gs.map fun g => (g.1, upTo g.2.1 g.2.2)
      next := next }) fun _ _ => rfl)
  refine ⟨m, ?_, ?_⟩
  · rw [matchAt, run, run_lit, after?_append, Option.bind_some, run]
    exact run_group_atLeastOne hne hs ht hm
  · obtain ⟨s', t', new, -, -, hnext, hnew⟩ := exists_of_run hm
    obtain rfl := Option.some.inj hnext
    have hskip : (new.map fun g => (g.1, upTo g.2.1 g.2.2)).find? (·.1 == n) = none := by
      rw [List.find?_eq_none]
      intro g hg hgn
      obtain ⟨g', hg', rfl⟩ := List.mem_map.1 hg
      exact hn (beq_iff_eq.1 hgn ▸ hnew g' hg')
    have hupTo : upTo (s ++ t) t = s := by simp [upTo]
    simp [Match.group?, hskip, hupTo]

end Pattern

end BuildLoop.Text
