import BuildLoop.Proofs.Text.Occurs

/-!
# Counting and replacing

Both go through a text from place to place: at a place they step over it, anywhere else by one character.

    replace needle new (needle ++ s) = new ++ replace needle new s                       (replace_needle)
    replace needle new (c :: s) = c :: replace needle new s      away from a place  (replace_cons_of_not)
    count needle (needle ++ s) = count needle s + 1                                       (count_needle)

A text that holds no place is left as it is, before or behind another.
-/

namespace BuildLoop.Text

variable {needle new s t u : List Char} {c n : Char}

/-! ## Places -/

/-- A text is empty, starts with a place, or starts with a character away from one. -/
theorem placesRec {needle : List Char} (hne : needle ≠ []) {motive : List Char → Prop} (nil : motive [])
    (place : ∀ r, motive r → motive (needle ++ r))
    (other : ∀ c r, ¬ needle <+: c :: r → motive r → motive (c :: r)) (s : List Char) : motive s := by
  generalize hlen : s.length = n
  induction n using Nat.strong_induction_on generalizing s with
  | _ n ih =>
    subst hlen
    cases s with
    | nil => exact nil
    | cons c r =>
      by_cases h : needle <+: c :: r
      · obtain ⟨rest, hrest⟩ := h
        have hpos : 0 < needle.length := List.length_pos_of_ne_nil hne
        have hlt : rest.length < (c :: r).length := by
          rw [← hrest, List.length_append]
          omega
        rw [← hrest]
        exact place rest (ih _ hlt rest rfl)
      · exact other c r h (ih _ (by simp) r rfl)

/-! ## Replacing -/

theorem replaceFrom_eq (acc : List Char) (skip : Nat) (s : List Char) :
    replaceFrom needle new acc skip s = acc.reverse ++ replaceFrom needle new [] skip s := by
  induction s generalizing acc skip with
  | nil => cases skip <;> simp [replaceFrom]
  | cons c r ih =>
    cases skip with
    | succ skip => exact ih acc skip
    | zero =>
      simp only [replaceFrom]
      split
      · rw [ih, ih (new.reverse ++ [])]
        simp
      · rw [ih, ih [c]]
        simp

theorem replaceFrom_skip (u s : List Char) :
    replaceFrom needle new [] u.length (u ++ s) = replace needle new s := by
  induction u with
  | nil => rfl
  | cons c r ih => exact ih

@[simp] theorem replace_nil : replace needle new [] = [] := rfl

theorem replace_cons_of_not (h : ¬ needle <+: c :: s) :
    replace needle new (c :: s) = c :: replace needle new s := by
  rw [replace, replaceFrom, if_neg (by rwa [List.isPrefixOf_iff_prefix]), replaceFrom_eq]
  rfl

theorem replace_needle (hne : needle ≠ []) (s : List Char) :
    replace needle new (needle ++ s) = new ++ replace needle new s := by
  cases needle with
  | nil => exact absurd rfl hne
  | cons n ns =>
    have hplace : (n :: ns).isPrefixOf (n :: (ns ++ s)) = true :=
      List.isPrefixOf_iff_prefix.2 (List.prefix_append (n :: ns) s)
    rw [replace, List.cons_append, replaceFrom, if_pos hplace, replaceFrom_eq,
      List.length_cons, Nat.add_sub_cancel, replaceFrom_skip]
    simp

/-- A place by itself is filled. -/
theorem replace_self (hne : needle ≠ []) : replace needle new needle = new := by
  have h : replace needle new (needle ++ []) = new ++ replace needle new [] := replace_needle hne []
  simpa using h

theorem replace_append_of_free (h : ∀ a b, u = a ++ b → b ≠ [] → ¬ needle <+: b ++ t) :
    replace needle new (u ++ t) = u ++ replace needle new t := by
  induction u with
  | nil => rfl
  | cons c r ih =>
    have hrest : ∀ a b, r = a ++ b → b ≠ [] → ¬ needle <+: b ++ t := fun a b hr hb =>
      h (c :: a) b (by rw [hr, List.cons_append]) hb
    have hhere : ¬ needle <+: c :: (r ++ t) := h [] (c :: r) rfl (by simp)
    rw [List.cons_append, replace_cons_of_not hhere, ih hrest, List.cons_append]

/-- What holds no character with which a place starts is left as it is. -/
theorem replace_append_left (hn : n ∉ u) (t : List Char) :
    replace (n :: needle) new (u ++ t) = u ++ replace (n :: needle) new t := by
  refine replace_append_of_free fun a b hab hb hpre => ?_
  cases b with
  | nil => exact hb rfl
  | cons d b =>
    obtain ⟨rfl, -⟩ := List.cons_prefix_cons.1 hpre
    exact hn (by simp [hab])

/-- What holds no character with which a place ends is left as it is. -/
theorem replace_append_right (hn : n ∉ t) (s : List Char) :
    replace (needle ++ [n]) new (s ++ t) = replace (needle ++ [n]) new s ++ t := by
  have hne : needle ++ [n] ≠ [] := by simp
  induction s using placesRec hne with
  | nil =>
    have hfree : replace (needle ++ [n]) new (t ++ []) = t ++ replace (needle ++ [n]) new [] := by
      refine replace_append_of_free fun a b hab _ hpre => hn ?_
      rw [List.append_nil] at hpre
      rw [hab]
      exact List.mem_append_right _ (hpre.subset (by simp))
    simpa using hfree
  | place r ih => rw [List.append_assoc, replace_needle hne, ih, replace_needle hne, List.append_assoc]
  | other c r h ih =>
    rw [replace_cons_of_not h, List.cons_append, replace_cons_of_not fun hpre => h ?_, ih, List.cons_append]
    exact prefix_of_append hn hpre

/-- No place reaches over a character that it does not hold. -/
theorem replace_append_cons (hne : needle ≠ []) (hc : c ∉ needle) (s t : List Char) :
    replace needle new (s ++ c :: t) = replace needle new s ++ c :: replace needle new t := by
  induction s using placesRec hne with
  | nil =>
    refine replace_cons_of_not fun hpre => hc ?_
    obtain ⟨n, needle, rfl⟩ := List.exists_cons_of_ne_nil hne
    rw [(List.cons_prefix_cons.1 hpre).1]
    exact List.mem_cons_self
  | place r ih => rw [List.append_assoc, replace_needle hne, ih, replace_needle hne, List.append_assoc]
  | other d r h ih =>
    rw [replace_cons_of_not h, List.cons_append, replace_cons_of_not fun hpre => h ?_, ih, List.cons_append]
    exact prefix_append_cons hc hpre

/-- What stands between two characters that no place holds becomes what it becomes by itself. -/
theorem infix_replace {d : Char} {w : List Char} (new : List Char) (hne : needle ≠ []) (hc : c ∉ needle)
    (hd : d ∉ needle) (h : c :: (w ++ [d]) <:+: s) : c :: (replace needle new w ++ [d]) <:+: replace needle new s := by
  obtain ⟨a, b, rfl⟩ := h
  have hsplit : a ++ c :: (w ++ [d]) ++ b = a ++ c :: (w ++ d :: b) := by simp
  rw [hsplit, replace_append_cons hne hc, replace_append_cons hne hd]
  exact ⟨replace needle new a, replace needle new b, by simp⟩

theorem mem_replace (hne : needle ≠ []) (h : c ∈ replace needle new s) : c ∈ new ∨ c ∈ s := by
  induction s using placesRec hne with
  | nil => cases h
  | place r ih =>
    rw [replace_needle hne] at h
    exact (List.mem_append.1 h).elim .inl fun h => (ih h).imp id (List.mem_append_right needle)
  | other d r hd ih =>
    rw [replace_cons_of_not hd] at h
    rcases List.mem_cons.1 h with rfl | h
    · exact .inr List.mem_cons_self
    · exact (ih h).imp id (List.mem_cons_of_mem d)

/-- A text without places is left as it is. -/
theorem replace_eq_self (h : ¬ needle <:+: s) : replace needle new s = s := by
  have hfree : replace needle new (s ++ []) = s ++ replace needle new [] := by
    refine replace_append_of_free fun a b hab _ hpre => h ?_
    rw [List.append_nil] at hpre
    rw [hab]
    exact hpre.isInfix.trans (List.suffix_append a b).isInfix
  simpa using hfree

/-- Two characters come together in what a text becomes only if they do in the text, or the first comes
before a place. -/
theorem not_infix_replace {d : Char} (hnew : c ∉ new) (hplace : ¬ [c, n] <:+: s) (h : ¬ [c, d] <:+: s) :
    ¬ [c, d] <:+: replace (n :: needle) new s := by
  induction s using placesRec (List.cons_ne_nil n needle) with
  | nil => simp
  | place r ih =>
    have hsuffix : r <:+: n :: needle ++ r := (List.suffix_append _ r).isInfix
    rw [replace_needle (List.cons_ne_nil n needle)]
    exact fun hmem => ih (fun hr => hplace (hr.trans hsuffix)) (fun hr => h (hr.trans hsuffix))
      (infix_of_append_left hnew hmem)
  | other a r hr ih =>
    have hsuffix : r <:+: a :: r := (List.suffix_cons a r).isInfix
    rw [replace_cons_of_not hr]
    intro hmem
    rcases List.infix_cons_iff.1 hmem with hmem | hmem
    · obtain ⟨rfl, hnext⟩ := List.cons_prefix_cons.1 hmem
      by_cases hstart : n :: needle <+: r
      · obtain ⟨t, rfl⟩ := hstart
        exact hplace ⟨[], needle ++ t, rfl⟩
      · cases r with
        | nil => simp at hnext
        | cons b r =>
          rw [replace_cons_of_not hstart] at hnext
          obtain ⟨rfl, -⟩ := List.cons_prefix_cons.1 hnext
          exact h ⟨[], r, rfl⟩
    · exact ih (fun hr => hplace (hr.trans hsuffix)) (fun hr => h (hr.trans hsuffix)) hmem

theorem length_replace_le (hne : needle ≠ []) (s : List Char) :
    (replace needle new s).length ≤ s.length * max 1 new.length := by
  induction s using placesRec hne with
  | nil => simp
  | place r ih =>
    have hpos := List.length_pos_of_ne_nil hne
    have hmax : new.length ≤ needle.length * max 1 new.length :=
      (Nat.le_max_right 1 _).trans (Nat.le_mul_of_pos_left _ hpos)
    rw [replace_needle hne, List.length_append, List.length_append, Nat.add_mul]
    omega
  | other c r h ih =>
    rw [replace_cons_of_not h, List.length_cons, List.length_cons, Nat.add_mul]
    omega

/-! ## Counting -/

theorem countFrom_eq (k skip : Nat) (s : List Char) :
    countFrom needle k skip s = k + countFrom needle 0 skip s := by
  induction s generalizing k skip with
  | nil => cases skip <;> simp [countFrom]
  | cons c r ih =>
    cases skip with
    | succ skip => exact ih k skip
    | zero =>
      simp only [countFrom]
      split
      · rw [ih, ih 1]
        omega
      · exact ih k 0

theorem countFrom_skip (u s : List Char) : countFrom needle 0 u.length (u ++ s) = count needle s := by
  induction u with
  | nil => rfl
  | cons c r ih => exact ih

theorem count_cons_of_not (h : ¬ needle <+: c :: s) : count needle (c :: s) = count needle s := by
  rw [count, countFrom, if_neg (by rwa [List.isPrefixOf_iff_prefix])]
  rfl

theorem count_needle (hne : needle ≠ []) (s : List Char) : count needle (needle ++ s) = count needle s + 1 := by
  cases needle with
  | nil => exact absurd rfl hne
  | cons n ns =>
    have hplace : (n :: ns).isPrefixOf (n :: (ns ++ s)) = true :=
      List.isPrefixOf_iff_prefix.2 (List.prefix_append (n :: ns) s)
    rw [count, List.cons_append, countFrom, if_pos hplace, countFrom_eq, List.length_cons,
      Nat.add_sub_cancel, countFrom_skip]
    omega

theorem count_append_left (hn : n ∉ u) (t : List Char) :
    count (n :: needle) (u ++ t) = count (n :: needle) t := by
  induction u with
  | nil => rfl
  | cons c r ih =>
    have hne : n ≠ c := fun h => hn (h ▸ List.mem_cons_self)
    rw [List.cons_append, count_cons_of_not fun hpre => hne (List.cons_prefix_cons.1 hpre).1]
    exact ih fun h => hn (List.mem_cons_of_mem _ h)

end BuildLoop.Text
