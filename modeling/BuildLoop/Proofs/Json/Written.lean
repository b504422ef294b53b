import BuildLoop.Proofs.Json.Extent

/-!
# The texts of a value

A value may be laid out in many ways: blanks may stand wherever two of its parts meet. The compact text and
the indented one are two of them.

    Written j (compact j),  Written j (indentedAt n j)                    (written_compact, written_indented)

Items and members are read one after the other, whatever reads each of them:

    each item is read            →   so are all, up to the bracket                            (readItems_series)
    each member leads a step on  →   all lead to the last state                             (readMembers_series)
-/

namespace BuildLoop.Json

/-- Parts behind commas, with blanks around them; the first one has no comma in front. -/
inductive Series {α : Type} (part : α → List Char → Prop) : Bool → List α → List Char → Prop where
  | nil {first : Bool} {w : List Char} (hw : Blanks w) : Series part first [] w
  | first {a : α} {as : List α} {w s r : List Char} (hw : Blanks w) (hs : part a s) (hr : Series part false as r) :
      Series part true (a :: as) (w ++ (s ++ r))
  | next {a : α} {as : List α} {w w' s r : List Char} (hw : Blanks w) (hw' : Blanks w') (hs : part a s)
      (hr : Series part false as r) : Series part false (a :: as) (w ++ ',' :: (w' ++ (s ++ r)))

/-- A value behind its key and a colon. -/
inductive Keyed (value : Json → List Char → Prop) : String × Json → List Char → Prop where
  | mk {k : String} {j : Json} {w w' s : List Char} (hw : Blanks w) (hw' : Blanks w') (hs : value j s) :
      Keyed value (k, j) ((textString k).toList ++ (w ++ ':' :: (w' ++ s)))

/-- The texts of a value. -/
inductive Written : Json → List Char → Prop where
  | null : Written .null "null".toList
  | bool (b : Bool) : Written (.bool b) (if b then "true" else "false").toList
  | number (n : Json.Number) : Written (.number n) n.text.toList
  | text (s : String) : Written (.text s) (textString s).toList
  | list {js : List Json} {r : List Char} (h : Series Written true js r) : Written (.list js) ('[' :: (r ++ [']']))
  | object {ms : List (String × Json)} {r : List Char} (h : Series (Keyed Written) true ms r) :
      Written (.object ms) ('\x7b' :: (r ++ ['\x7d']))

/-! ## Blanks and series -/

theorem blanks_nil : Blanks [] := by simp [Blanks]

theorem blanks_space : Blanks [' '] := by simp [Blanks]

theorem Blanks.append {w w' : List Char} (hw : Blanks w) (hw' : Blanks w') : Blanks (w ++ w') := fun c hc =>
  (List.mem_append.1 hc).elim (hw c) (hw' c)

theorem Blanks.ends {w : List Char} (hw : Blanks w) {c : Char} (hc : isNumberChar c = false) (x : List Char) :
    Ends (w ++ c :: x) := by
  cases w with
  | nil => exact ends_cons hc x
  | cons d w =>
    refine ends_cons ?_ _
    rcases hw d List.mem_cons_self with rfl | rfl | rfl | rfl <;> decide

namespace Series

variable {α : Type} {part : α → List Char → Prop} {first : Bool} {a : α} {as : List α} {r w : List Char}

/-- What came first comes next behind a comma. -/
theorem comma (h : Series part true (a :: as) r) : Series part false (a :: as) (',' :: r) := by
  cases h with
  | first hw hs hr => exact .next blanks_nil hw hs hr

theorem append_blanks (h : Series part first as r) (hw : Blanks w) : Series part first as (r ++ w) := by
  induction h with
  | nil hr => exact .nil (hr.append hw)
  | first hw' hs hr ih => simpa using Series.first hw' hs ih
  | next hw' hw'' hs hr ih => simpa using Series.next hw' hw'' hs ih

theorem length_le (h : Series part first as r) : as.length ≤ r.length + first.toNat := by
  induction h with
  | nil => simp
  | first _ _ _ ih =>
    simp only [List.length_cons, List.length_append, Bool.toNat_true, Bool.toNat_false] at ih ⊢
    omega
  | next _ _ _ _ ih =>
    simp only [List.length_cons, List.length_append, Bool.toNat_false] at ih ⊢
    omega

/-- The characters up to a bracket are turns enough for all parts. -/
theorem turns_le (h : Series part first as r) (c : Char) (t : List Char) : as.length ≤ (r ++ c :: t).length := by
  have hlength := h.length_le
  have hfirst := first.toNat_le
  rw [List.length_append, List.length_cons]
  omega

theorem ends (h : Series part false as r) (c : Char) (hc : isNumberChar c = false) (t : List Char) :
    Ends (r ++ c :: t) := by
  cases h with
  | nil hw => exact hw.ends hc t
  | next hw _ _ _ => simpa using hw.ends (by decide) _

end Series

/-! ## The two printers -/

mutual

theorem written_compact : ∀ j : Json, Written j (compact j).toList
  | .null => by rw [compact]; exact .null
  | .bool b => by rw [compact]; exact .bool b
  | .number n => by rw [compact]; exact .number n
  | .text s => by rw [compact]; exact .text s
  | .list js => by
    rw [compact]
    simpa using Written.list (series_compactItems js)
  | .object ms => by
    rw [compact]
    simpa using Written.object (series_compactMembers ms)

theorem series_compactItems : ∀ js : List Json, Series Written true js (compactItems js).toList
  | [] => by rw [compactItems]; exact .nil blanks_nil
  | [j] => by
    rw [compactItems]
    simpa using Series.first blanks_nil (written_compact j) (.nil blanks_nil)
  | j :: i :: js => by
    rw [compactItems]
    · simpa using Series.first blanks_nil (written_compact j) (series_compactItems (i :: js)).comma
    · exact fun h => List.cons_ne_nil _ _ h

theorem series_compactMembers : ∀ ms : List (String × Json),
    Series (Keyed Written) true ms (compactMembers ms).toList
  | [] => by rw [compactMembers]; exact .nil blanks_nil
  | [(k, j)] => by
    rw [compactMembers]
    simpa using Series.first blanks_nil (Keyed.mk (k := k) blanks_nil blanks_nil (written_compact j)) (.nil blanks_nil)
  | (k, j) :: m :: ms => by
    rw [compactMembers]
    · simpa using Series.first blanks_nil (Keyed.mk (k := k) blanks_nil blanks_nil (written_compact j))
        (series_compactMembers (m :: ms)).comma
    · exact fun h => List.cons_ne_nil _ _ h

end

mutual

theorem written_indented (n : Nat) : ∀ j : Json, Written j (indentedAt n j).toList
  | .null => by rw [indentedAt]; exact .null
  | .bool b => by rw [indentedAt]; exact .bool b
  | .number a => by rw [indentedAt]; exact .number a
  | .text s => by rw [indentedAt]; exact .text s
  | .list [] => by rw [indentedAt]; exact .list (.nil blanks_nil)
  | .list (j :: js) => by
    rw [indentedAt]
    simpa using Written.list ((series_indentedItems (n + 1) (j :: js)).append_blanks (blanks_newline n))
  | .object [] => by rw [indentedAt]; exact .object (.nil blanks_nil)
  | .object (m :: ms) => by
    rw [indentedAt]
    simpa using Written.object ((series_indentedMembers (n + 1) (m :: ms)).append_blanks (blanks_newline n))

theorem series_indentedItems (n : Nat) : ∀ js : List Json, Series Written true js (indentedItems n js).toList
  | [] => by rw [indentedItems]; exact .nil blanks_nil
  | [j] => by
    rw [indentedItems]
    simpa using Series.first (blanks_newline n) (written_indented n j) (.nil blanks_nil)
  | j :: i :: js => by
    rw [indentedItems]
    · simpa using Series.first (blanks_newline n) (written_indented n j) (series_indentedItems n (i :: js)).comma
    · exact fun h => List.cons_ne_nil _ _ h

theorem series_indentedMembers (n : Nat) : ∀ ms : List (String × Json),
    Series (Keyed Written) true ms (indentedMembers n ms).toList
  | [] => by rw [indentedMembers]; exact .nil blanks_nil
  | [(k, j)] => by
    rw [indentedMembers]
    simpa using Series.first (blanks_newline n) (Keyed.mk (k := k) blanks_nil blanks_space (written_indented n j))
      (.nil blanks_nil)
  | (k, j) :: m :: ms => by
    rw [indentedMembers]
    · simpa using Series.first (blanks_newline n) (Keyed.mk (k := k) blanks_nil blanks_space (written_indented n j))
        (series_indentedMembers n (m :: ms)).comma
    · exact fun h => List.cons_ne_nil _ _ h

end

/-- A written value starts with a character that is no blank and closes no list, and like null only if it is. -/
theorem Written.exists_cons {j : Json} {s : List Char} (h : Written j s) : ∃ c r, s = c :: r ∧
    ¬ (c = ' ' ∨ c = '\n' ∨ c = '\t' ∨ c = '\r') ∧ c ≠ ']' ∧ (j ≠ .null → c ≠ 'n') := by
  cases h with
  | null => exact ⟨'n', _, rfl, by decide, by decide, fun h => absurd rfl h⟩
  | bool b =>
    cases b with
    | false => exact ⟨'f', _, rfl, by decide, by decide, fun _ => by decide⟩
    | true => exact ⟨'t', _, rfl, by decide, by decide, fun _ => by decide⟩
  | number a =>
    obtain ⟨⟨c, r, hr, -⟩, hchars⟩ := numeral_text a
    have hnumber := hchars c (by rw [hr]; exact List.mem_cons_self)
    exact ⟨c, r, hr, not_blank_of_number hnumber, ne_of_number hnumber (by decide),
      fun _ => ne_of_number hnumber (by decide)⟩
  | text s => exact ⟨'"', _, toList_textString s, by decide, by decide, fun _ => by decide⟩
  | list _ => exact ⟨'[', _, rfl, by decide, by decide, fun _ => by decide⟩
  | object _ => exact ⟨'\x7b', _, rfl, by decide, by decide, fun _ => by decide⟩

/-! ## Readers -/

/-- Whether a reader takes every text of `j` for `a`, behind blanks and before what ends it. -/
def Reads {α : Type} (read : Source → Read α) (j : Json) (a : α) : Prop :=
  ∀ ⦃w s t : List Char⦄ (m : Mark), Blanks w → Written j s → Ends t →
    ∃ m', read ⟨w ++ (s ++ t), m⟩ = .ok (a, ⟨t, m'⟩)

/-- Whether every text of `j` behind the key `k` leads a reader of members from `st` to `st'`. -/
def Enters {σ : Type} (member : σ → String → Source → Read σ) (k : String) (j : Json) (st st' : σ) : Prop :=
  ∀ ⦃w w' s t : List Char⦄ (m : Mark), Blanks w → Blanks w' → Written j s → Ends t →
    ∃ m', member st k ⟨w ++ ':' :: (w' ++ (s ++ t)), m⟩ = .ok (st', ⟨t, m'⟩)

/-- Whether members lead a reader from one state to another, step by step. -/
inductive Folds {σ : Type} (member : σ → String → Source → Read σ) : List (String × Json) → σ → σ → Prop where
  | nil (st : σ) : Folds member [] st st
  | cons {k : String} {j : Json} {ms : List (String × Json)} {st st' st'' : σ} (h : Enters member k j st st')
      (hms : Folds member ms st' st'') : Folds member ((k, j) :: ms) st st''

/-- The first of some items lies ahead, and the others behind it. -/
theorem Series.exists_item {first : Bool} {j : Json} {js : List Json} {r : List Char}
    (h : Series Written first (j :: js) r) : ∃ s r', Written j s ∧ Series Written false js r' ∧ ∀ t m, ∃ m',
      readNext first ⟨r ++ ']' :: t, m⟩ = .ok (some ⟨s ++ (r' ++ ']' :: t), m'⟩) := by
  cases h with
  | @first _ _ w s r' hw hs hr =>
    obtain ⟨c, x, rfl, hc, hclose, -⟩ := hs.exists_cons
    exact ⟨_, r', hs, hr, fun t m => by simpa using readNext_first hw hc hclose (x ++ (r' ++ ']' :: t)) m⟩
  | @next _ _ w w' s r' hw hw' hs hr =>
    obtain ⟨c, x, rfl, hc, hclose, -⟩ := hs.exists_cons
    exact ⟨_, r', hs, hr, fun t m => by simpa using readNext_comma hw hw' hc hclose (x ++ (r' ++ ']' :: t)) m⟩

/-- The first of some keys is read; its value lies ahead, and the other members behind that. -/
theorem Series.exists_key {first : Bool} {k : String} {j : Json} {ms : List (String × Json)} {r : List Char}
    (h : Series (Keyed Written) first ((k, j) :: ms) r) : ∃ w w' s r', Blanks w ∧ Blanks w' ∧ Written j s ∧
      Series (Keyed Written) false ms r' ∧ ∀ t m, ∃ m', readKey first ⟨r ++ '\x7d' :: t, m⟩ =
        .ok (some k, ⟨w ++ ':' :: (w' ++ (s ++ (r' ++ '\x7d' :: t))), m'⟩) := by
  cases h with
  | @first _ _ v p r' hv hp hr =>
    obtain @⟨_, _, w, w', s, hw, hw', hs⟩ := hp
    refine ⟨w, w', s, r', hw, hw', hs, hr, fun t m => ?_⟩
    simpa using readKey_first hv k (w ++ ':' :: (w' ++ (s ++ (r' ++ '\x7d' :: t)))) m
  | @next _ _ v v' p r' hv hv' hp hr =>
    obtain @⟨_, _, w, w', s, hw, hw', hs⟩ := hp
    refine ⟨w, w', s, r', hw, hw', hs, hr, fun t m => ?_⟩
    simpa using readKey_comma hv hv' k (w ++ ':' :: (w' ++ (s ++ (r' ++ '\x7d' :: t)))) m

section
variable {α : Type} {item : Nat → Source → Read α} {i : Nat} {s s₁ s₂ : Source} {a : α}

theorem readItems_none (h : readNext (i == 0) s = .ok none) (turns : List Char) (acc : List α) :
    readItems item turns i acc s = .ok (acc.reverse, s.skip) := by
  rw [readItems.eq_def]
  simp only [h]

theorem readItems_some (hnext : readNext (i == 0) s = .ok (some s₁)) (hitem : item i s₁ = .ok (a, s₂)) (u : Char)
    (turns : List Char) (acc : List α) :
    readItems item (u :: turns) i acc s = readItems item turns (i + 1) (a :: acc) s₂ := by
  rw [readItems.eq_def]
  simp only [hnext, hitem]

/-- Items are read one after the other, up to the closing bracket. -/
theorem readItems_series {js : List Json} {as : List α} (h : List.Forall₂ (fun j a => ∀ i, Reads (item i) j a) js as)
    {first : Bool} {r : List Char} (hr : Series Written first js r) (hi : (i == 0) = first) {turns : List Char}
    (hturns : js.length ≤ turns.length) (acc : List α) (t : List Char) (m : Mark) :
    ∃ m', readItems item turns i acc ⟨r ++ ']' :: t, m⟩ = .ok (acc.reverse ++ as, ⟨']' :: t, m'⟩) := by
  induction h generalizing first r i turns acc m with
  | nil =>
    cases hr with
    | nil hw =>
      obtain ⟨m', hskip⟩ := skip_blanks hw (c := ']') (by decide) t m
      exact ⟨m', by rw [readItems_none (readNext_close hw t m _), hskip, List.append_nil]⟩
  | cons hj _ ih =>
    obtain ⟨u, turns, rfl⟩ := List.exists_cons_of_ne_nil (List.ne_nil_of_length_pos (Nat.zero_lt_of_lt hturns))
    obtain ⟨s, r', hs, hr', hnext⟩ := hr.exists_item
    obtain ⟨m₁, hnext⟩ := hnext t m
    obtain ⟨m₂, hitem⟩ := hj i m₁ blanks_nil hs (hr'.ends ']' (by decide) t)
    obtain ⟨m₃, hrest⟩ := ih hr' (i := i + 1) rfl (by simpa using hturns) (_ :: acc) m₂
    rw [← hi] at hnext
    exact ⟨m₃, by rw [readItems_some hnext hitem, hrest]; simp⟩

end

/-- Members are read one after the other, up to the closing bracket. -/
theorem readMembers_series {σ : Type} {member : σ → String → Source → Read σ} {ms : List (String × Json)} {st st' : σ}
    (h : Folds member ms st st') {first : Bool} {r : List Char} (hr : Series (Keyed Written) first ms r)
    {turns : List Char} (hturns : ms.length ≤ turns.length) (t : List Char) (m : Mark) :
    ∃ m', readMembers member turns first st ⟨r ++ '\x7d' :: t, m⟩ = .ok (st', ⟨'\x7d' :: t, m'⟩) := by
  induction h generalizing first r turns m with
  | nil st =>
    cases hr with
    | nil hw =>
      obtain ⟨m', hclosed⟩ := readKey_close hw t m first
      exact ⟨m', readMembers_none hclosed turns st⟩
  | cons hj _ ih =>
    obtain ⟨u, turns, rfl⟩ := List.exists_cons_of_ne_nil (List.ne_nil_of_length_pos (Nat.zero_lt_of_lt hturns))
    obtain ⟨w, w', s, r', hw, hw', hs, hr', hkey⟩ := hr.exists_key
    obtain ⟨m₁, hkey⟩ := hkey t m
    obtain ⟨m₂, hvalue⟩ := hj m₁ hw hw' hs (hr'.ends '\x7d' (by decide) t)
    obtain ⟨m₃, hrest⟩ := ih hr' (by simpa using hturns) m₂
    exact ⟨m₃, by rw [readMembers_some hkey hvalue, hrest]⟩

end BuildLoop.Json
