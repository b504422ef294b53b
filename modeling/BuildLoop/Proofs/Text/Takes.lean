import Mathlib.Data.List.Forall2
import BuildLoop.Text.Pattern

/-!
# What a pattern takes

Whether a pattern matches does not depend on the order of preference among its ways. `Takes p prev s t`
says that some way of `p` takes the text `s`, with `prev` before it and `t` after it:

    run p ⟨prev, x⟩ … accepts   ↔   x = s ++ t, p takes s, and the rest accepts there        (isSome_run)
    test p x                    ↔   x = u ++ s ++ t and p takes s between u and t              (test_iff)
    p is loose, x in y   →   test p x implies test p y                          (Loose.test_of_part)
-/

namespace BuildLoop.Text.Pattern

/-- The last character of a text, or the one before it. -/
def lastOf (prev : Option Char) (s : List Char) : Option Char := s.getLast?.or prev

@[simp] theorem lastOf_nil (prev : Option Char) : lastOf prev [] = prev := rfl

@[simp] theorem lastOf_cons (prev : Option Char) (c : Char) (s : List Char) :
    lastOf prev (c :: s) = lastOf (some c) s := by
  simp only [lastOf, List.getLast?_cons, Option.some_or]
  cases s.getLast? <;> rfl

theorem lastOf_append (prev : Option Char) (s t : List Char) :
    lastOf prev (s ++ t) = lastOf (lastOf prev s) t := by
  induction s generalizing prev with
  | nil => rfl
  | cons c s ih => simp only [List.cons_append, lastOf_cons, ih]

/-- At most `n` turns, one after the other. -/
def Turned (T : Option Char → List Char → List Char → Prop) :
    Nat → Option Char → List Char → List Char → Prop
  | 0, _, s, _ => s = []
  | n + 1, prev, s, t =>
    s = [] ∨ ∃ u v, s = u ++ v ∧ T prev u (v ++ t) ∧ Turned T n (lastOf prev u) v t

/-- Whether some way of a pattern takes the text `s`, with `prev` before it and `t` after it. -/
def Takes : Pattern → Option Char → List Char → List Char → Prop
  | empty, _, s, _ => s = []
  | one holds, _, s, _ => ∃ c, s = [c] ∧ holds c = true
  | many holds, _, s, _ | few holds, _, s, _ => s.all holds = true
  | seq p q, prev, s, t => ∃ u v, s = u ++ v ∧ p.Takes prev u (v ++ t) ∧ q.Takes (lastOf prev u) v t
  | alt p q, prev, s, t => p.Takes prev s t ∨ q.Takes prev s t
  | again p, prev, s, t => Turned p.Takes (s ++ t).length prev s t
  | group _ p, prev, s, t => p.Takes prev s t
  | wordEdge, prev, s, t => s = [] ∧ atWordEdge ⟨prev, t⟩ = true
  | lineStart, prev, s, _ => s = [] ∧ prev.all (· == '\n') = true
  | textStart, prev, s, _ => s = [] ∧ prev.isNone = true

/-! ## Matching -/

variable {α : Type}

theorem mem_places {holds : Char → Bool} {acc : List Cursor} {prev : Option Char} {x : List Char}
    {next : Cursor} : next ∈ places holds acc prev x ↔ next ∈ acc ∨
      ∃ s t, x = s ++ t ∧ s.all holds = true ∧ next = ⟨lastOf prev s, t⟩ := by
  induction x generalizing acc prev with
  | nil =>
    rw [places, List.mem_cons, or_comm]
    refine or_congr Iff.rfl ⟨fun h => ⟨[], [], rfl, rfl, h⟩, ?_⟩
    rintro ⟨s, t, hx, -, rfl⟩
    obtain ⟨rfl, rfl⟩ := List.append_eq_nil_iff.1 hx.symm
    rfl
  | cons c r ih =>
    rw [places]
    split
    · next hc =>
      rw [ih, List.mem_cons, or_comm (a := next = _), or_assoc]
      refine or_congr Iff.rfl ⟨?_, ?_⟩
      · rintro (rfl | ⟨s, t, rfl, hs, rfl⟩)
        · exact ⟨[], c :: r, rfl, rfl, rfl⟩
        · exact ⟨c :: s, t, rfl, by simpa [hc] using hs, by rw [lastOf_cons]⟩
      · rintro ⟨s, t, hx, hs, rfl⟩
        cases s with
        | nil => exact .inl (by rw [← List.nil_append t, ← hx]; rfl)
        | cons d s =>
          obtain ⟨rfl, rfl⟩ := List.cons.inj hx
          exact .inr ⟨s, t, rfl, (Bool.and_eq_true_iff.1 hs).2, by rw [lastOf_cons]⟩
    · next hc =>
      rw [List.mem_cons, or_comm]
      refine or_congr Iff.rfl ⟨fun h => ⟨[], c :: r, rfl, rfl, h⟩, ?_⟩
      rintro ⟨s, t, hx, hs, rfl⟩
      cases s with
      | nil => rw [← List.nil_append t, ← hx]; rfl
      | cons d s =>
        obtain ⟨rfl, rfl⟩ := List.cons.inj hx
        exact absurd (Bool.and_eq_true_iff.1 hs).1 hc

/-- Whether what is done at the end of a text accepts it. -/
def Accepts (k : Cursor → Groups → Option α) (good : Cursor → Prop) : Prop :=
  ∀ next gs, (k next gs).isSome = true ↔ good next

theorem isSome_places {k : Cursor → Groups → Option α} {good : Cursor → Prop} (hk : Accepts k good)
    (holds : Char → Bool) (here : Cursor) (gs : Groups) :
    (∃ next ∈ places holds [] here.prev here.rest, (k next gs).isSome = true) ↔
      ∃ s t, here.rest = s ++ t ∧ s.all holds = true ∧ good ⟨lastOf here.prev s, t⟩ := by
  constructor
  · rintro ⟨next, hnext, hsome⟩
    rcases mem_places.1 hnext with hnil | ⟨s, t, hx, hs, rfl⟩
    · cases hnil
    · exact ⟨s, t, hx, hs, (hk _ gs).1 hsome⟩
  · rintro ⟨s, t, hx, hs, hgood⟩
    exact ⟨_, mem_places.2 (.inr ⟨s, t, hx, hs, rfl⟩), (hk _ gs).2 hgood⟩

theorem isSome_turns {step : Cursor → Groups → (Cursor → Groups → Option α) → Option α}
    {T : Option Char → List Char → List Char → Prop}
    (hstep : ∀ (here : Cursor) (gs : Groups) (k : Cursor → Groups → Option α) (good : Cursor → Prop),
      Accepts k good → ((step here gs k).isSome = true ↔
        ∃ s t, here.rest = s ++ t ∧ T here.prev s t ∧ good ⟨lastOf here.prev s, t⟩))
    (ahead : List Char) (here : Cursor) (gs : Groups) {k : Cursor → Groups → Option α}
    {good : Cursor → Prop} (hk : Accepts k good) :
    (turns step ahead here gs k).isSome = true ↔
      ∃ s t, here.rest = s ++ t ∧ Turned T ahead.length here.prev s t ∧ good ⟨lastOf here.prev s, t⟩ := by
  induction ahead generalizing here gs with
  | nil =>
    rw [turns, hk]
    constructor
    · exact fun h => ⟨[], here.rest, rfl, rfl, h⟩
    · rintro ⟨s, t, hx, rfl, h⟩
      rw [List.nil_append] at hx
      rwa [← hx] at h
  | cons a ahead ih =>
    have hor : (turns step (a :: ahead) here gs k).isSome = true ↔
        (step here gs fun next gs' => turns step ahead next gs' k).isSome = true ∨
          (k here gs).isSome = true := by
      rw [turns]
      split <;> simp_all
    rw [hor, hk, hstep here gs _ _ fun next gs' => ih next gs']
    constructor
    · rintro (⟨u, x, hx, hu, v, t, rfl, hv, hgood⟩ | hgood)
      · refine ⟨u ++ v, t, by rw [hx, List.append_assoc], .inr ⟨u, v, rfl, hu, hv⟩, ?_⟩
        rwa [lastOf_append]
      · exact ⟨[], here.rest, rfl, .inl rfl, hgood⟩
    · rintro ⟨s, t, hx, rfl | ⟨u, v, rfl, hu, hv⟩, hgood⟩
      · rw [List.nil_append] at hx
        rw [← hx] at hgood
        exact .inr hgood
      · rw [lastOf_append] at hgood
        exact .inl ⟨u, v ++ t, by rw [hx, List.append_assoc], hu, v, t, rfl, hv, hgood⟩

theorem isSome_stay {k : Cursor → Groups → Option α} {good : Cursor → Prop} (hk : Accepts k good)
    (here : Cursor) (gs : Groups) (P : Prop) [Decidable P] :
    (if P then k here gs else none).isSome = true ↔
      ∃ s t, here.rest = s ++ t ∧ (s = [] ∧ P) ∧ good ⟨lastOf here.prev s, t⟩ := by
  constructor
  · intro h
    split at h
    · next hP => exact ⟨[], here.rest, rfl, ⟨rfl, hP⟩, (hk here gs).1 h⟩
    · cases h
  · rintro ⟨s, t, hx, ⟨rfl, hP⟩, hgood⟩
    rw [List.nil_append] at hx
    rw [← hx] at hgood
    rw [if_pos hP]
    exact (hk here gs).2 hgood

/-- A pattern matches if it takes a text after which the rest accepts. -/
theorem isSome_run (p : Pattern) (here : Cursor) (gs : Groups) (k : Cursor → Groups → Option α)
    (good : Cursor → Prop) (hk : Accepts k good) :
    (run p here gs k).isSome = true ↔
      ∃ s t, here.rest = s ++ t ∧ p.Takes here.prev s t ∧ good ⟨lastOf here.prev s, t⟩ := by
  induction p generalizing here gs k good with
  | empty =>
    constructor
    · exact fun h => ⟨[], here.rest, rfl, rfl, (hk here gs).1 h⟩
    · rintro ⟨s, t, hx, rfl, hgood⟩
      rw [List.nil_append] at hx
      rw [← hx] at hgood
      exact (hk here gs).2 hgood
  | one holds =>
    rw [run]
    split
    · next hx =>
      simp only [hx, Option.isSome_none, Bool.false_eq_true, false_iff]
      rintro ⟨s, t, hx, ⟨c, rfl, -⟩, -⟩
      cases hx
    · next c r hx =>
      constructor
      · intro h
        split at h
        · next hc => exact ⟨[c], r, hx, ⟨c, rfl, hc⟩, (hk _ gs).1 h⟩
        · cases h
      · rintro ⟨s, t, hx', ⟨d, rfl, hd⟩, hgood⟩
        rw [hx] at hx'
        obtain ⟨rfl, rfl⟩ := List.cons.inj hx'
        rw [if_pos hd]
        exact (hk _ gs).2 hgood
  | many holds =>
    rw [run, List.isSome_findSome?, List.any_eq_true]
    exact isSome_places hk holds here gs
  | few holds =>
    rw [run, List.isSome_findSome?, List.any_eq_true]
    simp only [List.mem_reverse]
    exact isSome_places hk holds here gs
  | seq p q ihp ihq =>
    rw [run, ihp here gs _ _ fun next gs' => ihq next gs' k good hk]
    constructor
    · rintro ⟨u, x, hx, hu, v, t, rfl, hv, hgood⟩
      refine ⟨u ++ v, t, by rw [hx, List.append_assoc], ⟨u, v, rfl, hu, hv⟩, ?_⟩
      rwa [lastOf_append]
    · rintro ⟨s, t, hx, ⟨u, v, rfl, hu, hv⟩, hgood⟩
      rw [lastOf_append] at hgood
      exact ⟨u, v ++ t, by rw [hx, List.append_assoc], hu, v, t, rfl, hv, hgood⟩
  | alt p q ihp ihq =>
    have hor : (run (alt p q) here gs k).isSome = true ↔
        (run p here gs k).isSome = true ∨ (run q here gs k).isSome = true := by
      rw [run]
      split <;> simp_all
    rw [hor, ihp here gs k good hk, ihq here gs k good hk]
    constructor
    · rintro (⟨s, t, hx, hs, hgood⟩ | ⟨s, t, hx, hs, hgood⟩)
      · exact ⟨s, t, hx, .inl hs, hgood⟩
      · exact ⟨s, t, hx, .inr hs, hgood⟩
    · rintro ⟨s, t, hx, hs | hs, hgood⟩
      · exact .inl ⟨s, t, hx, hs, hgood⟩
      · exact .inr ⟨s, t, hx, hs, hgood⟩
  | again p ih =>
    rw [run, isSome_turns (fun here gs k good hk => ih here gs k good hk) here.rest here gs hk]
    refine exists_congr fun s => exists_congr fun t => and_congr_right fun hx => ?_
    rw [hx]
    rfl
  | group n p ih => exact ih here gs _ good fun next gs' => hk next _
  | wordEdge =>
    refine (isSome_stay hk here gs (atWordEdge here = true)).trans ?_
    refine exists_congr fun s => exists_congr fun t => and_congr_right fun hx => and_congr_left fun _ =>
      and_congr_right fun hs => ?_
    rw [hs, List.nil_append] at hx
    rw [← hx]
  | lineStart => exact isSome_stay hk here gs (here.prev.all (· == '\n') = true)
  | textStart => exact isSome_stay hk here gs (here.prev.isNone = true)

/-! ## Searching -/

theorem isSome_matchAt {p : Pattern} {prev : Option Char} {x : List Char} :
    (matchAt p ⟨prev, x⟩).isSome = true ↔ ∃ s t, x = s ++ t ∧ p.Takes prev s t := by
  rw [matchAt, isSome_run p ⟨prev, x⟩ [] _ (fun _ => True) fun _ _ => by simp]
  simp only [and_true]

/-- A pattern is found in a text if it takes a part of it. -/
theorem test_iff {p : Pattern} {x : List Char} :
    test p x = true ↔ ∃ u s t, x = u ++ (s ++ t) ∧ p.Takes u.getLast? s t := by
  have hfrom : ∀ prev, (findFrom p prev x).isSome = true ↔
      ∃ u s t, x = u ++ (s ++ t) ∧ p.Takes (lastOf prev u) s t := by
    induction x with
    | nil =>
      intro prev
      rw [findFrom, isSome_matchAt]
      constructor
      · rintro ⟨s, t, hx, hs⟩
        exact ⟨[], s, t, hx, hs⟩
      · rintro ⟨u, s, t, hx, hs⟩
        obtain ⟨rfl, hrest⟩ := List.append_eq_nil_iff.1 hx.symm
        exact ⟨s, t, hrest.symm, hs⟩
    | cons c r ih =>
      intro prev
      have hor : (findFrom p prev (c :: r)).isSome = true ↔
          (matchAt p ⟨prev, c :: r⟩).isSome = true ∨ (findFrom p (some c) r).isSome = true := by
        rw [findFrom]
        split <;> simp_all
      rw [hor, isSome_matchAt, ih]
      constructor
      · rintro (⟨s, t, hx, hs⟩ | ⟨u, s, t, rfl, hs⟩)
        · exact ⟨[], s, t, hx, hs⟩
        · exact ⟨c :: u, s, t, rfl, by rwa [lastOf_cons]⟩
      · rintro ⟨u, s, t, hx, hs⟩
        cases u with
        | nil => exact .inl ⟨s, t, hx, hs⟩
        | cons d u =>
          obtain ⟨rfl, rfl⟩ := List.cons.inj hx
          rw [lastOf_cons] at hs
          exact .inr ⟨u, s, t, rfl, hs⟩
  have hlast : ∀ u : List Char, lastOf none u = u.getLast? := fun u => Option.or_none
  simp only [test, find, hfrom, hlast]

/-! ## Common patterns -/

theorem takes_chars {w s t : List Char} {prev : Option Char} : (chars w).Takes prev s t ↔ s = w := by
  induction w generalizing prev s with
  | nil => rfl
  | cons a w ih =>
    have hone : ∀ {u v prev}, (one (· == a)).Takes prev u v ↔ u = [a] := by
      intro u v prev
      simp [Takes]
    cases w with
    | nil => exact hone
    | cons b w =>
      constructor
      · rintro ⟨u, v, rfl, hu, hv⟩
        rw [hone.1 hu, ih.1 hv]
        rfl
      · rintro rfl
        exact ⟨[a], b :: w, rfl, hone.2 rfl, ih.2 rfl⟩

theorem takes_charsFolded {w s t : List Char} {prev : Option Char} :
    (charsFolded w).Takes prev s t ↔ List.Forall₂ (fun a c => sameFolded a c = true) w s := by
  induction w generalizing prev s with
  | nil =>
    rw [List.forall₂_nil_left_iff]
    rfl
  | cons a w ih =>
    have hone : ∀ {u v prev}, (one (sameFolded a)).Takes prev u v ↔
        ∃ c, u = [c] ∧ sameFolded a c = true := Iff.rfl
    cases w with
    | nil =>
      refine hone.trans ⟨?_, fun h => ?_⟩
      · rintro ⟨c, rfl, hc⟩
        exact .cons hc .nil
      · cases h with
        | cons hc h =>
          cases h
          exact ⟨_, rfl, hc⟩
    | cons b w =>
      constructor
      · rintro ⟨u, v, rfl, ⟨c, rfl, hc⟩, hv⟩
        exact .cons hc (ih.1 hv)
      · intro h
        cases h with
        | @cons _ c _ v hc hv => exact ⟨[c], v, rfl, ⟨c, rfl, hc⟩, ih.2 hv⟩

/-- A text is taken for itself in any letter case. -/
theorem sameFolded_self (w : List Char) : List.Forall₂ (fun a c => sameFolded a c = true) w w :=
  List.forall₂_same.2 fun c _ => by simp [sameFolded]

theorem takes_lit {w : String} {s t : List Char} {prev : Option Char} :
    (lit w).Takes prev s t ↔ s = w.toList := takes_chars

theorem takes_any {ps : List Pattern} {prev : Option Char} {s t : List Char} :
    (any ps).Takes prev s t ↔ ∃ p ∈ ps, p.Takes prev s t := by
  induction ps with
  | nil => simp [any, Takes]
  | cons p ps ih =>
    cases ps with
    | nil => simp [any]
    | cons q ps =>
      have hany : any (p :: q :: ps) = alt p (any (q :: ps)) := rfl
      rw [hany, Takes, ih]
      simp

theorem takes_atLeastOne {holds : Char → Bool} {s t : List Char} {prev : Option Char} :
    (atLeastOne holds).Takes prev s t ↔ s ≠ [] ∧ s.all holds = true := by
  constructor
  · rintro ⟨_, v, rfl, ⟨c, rfl, hc⟩, hv⟩
    exact ⟨by simp, Bool.and_eq_true_iff.2 ⟨hc, hv⟩⟩
  · rintro ⟨hne, hs⟩
    obtain ⟨c, v, rfl⟩ := List.exists_cons_of_ne_nil hne
    obtain ⟨hc, hv⟩ := Bool.and_eq_true_iff.1 hs
    exact ⟨[c], v, rfl, ⟨c, rfl, hc⟩, hv⟩

/-! ## Patterns that look at nothing around a text -/

/-- Whether what stands around a text does not matter to a pattern. -/
def Loose (p : Pattern) : Prop := ∀ prev prev' s t t', p.Takes prev s t → p.Takes prev' s t'

theorem loose_lit (w : String) : Loose (lit w) := fun _ _ _ _ _ h => takes_lit.2 (takes_lit.1 h)

theorem loose_word (w : String) : Loose (word w) := fun _ _ _ _ _ h =>
  takes_charsFolded.2 (takes_charsFolded.1 h)

theorem loose_any {ps : List Pattern} (h : ∀ p ∈ ps, Loose p) : Loose (any ps) := by
  intro prev prev' s t t' htakes
  obtain ⟨p, hp, htakes⟩ := takes_any.1 htakes
  exact takes_any.2 ⟨p, hp, h p hp prev prev' s t t' htakes⟩

/-- What is found in a part of a text is found in the text. -/
theorem Loose.test_of_part {p : Pattern} (hp : Loose p) {x y : List Char} (hxy : x <:+: y) (h : test p x = true) :
    test p y = true := by
  obtain ⟨u, s, t, rfl, htakes⟩ := test_iff.1 h
  obtain ⟨a, b, rfl⟩ := hxy
  exact test_iff.2 ⟨a ++ u, s, t ++ b, by simp, hp _ _ _ _ _ htakes⟩

end BuildLoop.Text.Pattern
