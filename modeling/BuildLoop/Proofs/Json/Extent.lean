import BuildLoop.Proofs.Failure
import BuildLoop.Proofs.Json.Numeral
import BuildLoop.Proofs.Json.Reread

/-!
# What is read for a printed value

A value that is read for a printed one ends where that ends, or inside the number at its end; behind such a
number nothing goes on. So the objects in it have the same keys, whatever became of their numbers:

    Reaches d                                                                                    (reaches)
    ReadFor d (object ms) v, lookup k ms = some j
      →   v = object vs, lookup k vs = some w, ReadFor (d - 1) j w                        (ReadFor.member)

A value that is read at all has its objects sorted by key                               (parsed_object).
-/

namespace BuildLoop.Json

/-! ## Where a value ends -/

/-- Whether a text does not go on as a number could. -/
def Ends (t : List Char) : Prop := ∀ c ∈ t.head?, isNumberChar c = false

theorem ends_cons {c : Char} (hc : isNumberChar c = false) (t : List Char) : Ends (c :: t) := by
  intro d hd
  rwa [← Option.mem_some_iff.1 hd]

theorem ends_newline (n : Nat) (t : List Char) : Ends ((newline n).toList ++ t) := by
  rw [newline, String.toList_append]
  exact ends_cons (by decide) _

theorem ends_linesUpTo {α : Type} (line : α → List Char) (c : Nat) (close : Char) (l : List α) (t : List Char) :
    Ends (linesUpTo line c close l t) := by
  cases l with
  | nil => exact ends_newline c _
  | cons a l => exact ends_cons (by decide) _

theorem Behind.of_append {x t r : List Char} (h : Behind (x ++ t) r) (hx : ∀ c ∈ x, isNumberChar c = true)
    (ht : Ends t) : Behind r t := by
  obtain ⟨u, hu, hchars⟩ := h
  rcases List.append_eq_append_iff.1 hu with ⟨a, rfl, rfl⟩ | ⟨a, rfl, rfl⟩
  · cases a with
    | nil => exact .refl _
    | cons c a =>
      have hc := hchars c (by simp)
      rw [ht c rfl] at hc
      cases hc
  · exact ⟨a, rfl, fun c hc => hx c (List.mem_append_right _ hc)⟩

/-- Whether a value may be read for a printed one, wherever that stands. -/
def ReadFor (d : Nat) (j v : Json) : Prop := ∃ n t m s', Ends t ∧
  readAny .sorted d ⟨(indentedAt n j).toList ++ t, m⟩ = .ok (v, s')

theorem counts_readScalar {c : Char} (hc : c = '-' ∨ c.isDigit = true) (r : List Char) (m : Mark) :
    Counts (readScalar ⟨c :: r, m⟩) (c :: r) := by
  have hmap : ∀ {x : Read Json.Number} {s : List Char}, Counts x s →
      Counts (x.map fun p => (Json.number p.1, p.2)) s := by
    intro x s hx v s' h
    cases x with
    | error e => cases h
    | ok p =>
      cases h
      exact hx p.1 p.2 rfl
  rcases hc with rfl | hdigit
  · exact (hmap (counts_readNumber true ⟨r, m.past '-'⟩)).behind (.cons (by decide) (.refl r))
  · have hne : ∀ d, d.isDigit = false → ∀ r', c :: r ≠ d :: r' := by
      rintro d hd r' heq
      rw [(List.cons.inj heq).1, hd] at hdigit
      cases hdigit
    unfold readScalar
    simp only
    split
    · next h => exact absurd h (hne _ (by decide) _)
    · next h => exact absurd h (hne _ (by decide) _)
    · next h => exact absurd h (hne _ (by decide) _)
    · next h => exact absurd h (hne _ (by decide) _)
    · next h => exact absurd h (hne _ (by decide) _)
    · next h => cases h
    · next h =>
      cases h
      rw [if_pos hdigit]
      exact hmap (counts_readNumber false _)

section
variable {t : List Char} {s' : Source} {v : Json} {m : Mark} {d : Nat}

theorem behind_of_number {n : Json.Number} (ht : Ends t)
    (h : readAny .sorted d ⟨n.text.toList ++ t, m⟩ = .ok (v, s')) : Behind s'.rest t := by
  obtain ⟨⟨c, r, hr, hc⟩, hchars⟩ := numeral_text n
  have hnumber := hchars c (by rw [hr]; exact List.mem_cons_self)
  rw [hr, List.cons_append, readAny_scalar (not_blank_of_number hnumber) (ne_of_number hnumber (by decide))
    (ne_of_number hnumber (by decide))] at h
  refine Behind.of_append ?_ hchars ht
  rw [hr]
  exact counts_readScalar hc (r ++ t) m v s' h

theorem eq_of_takes {j : Json} {s : List Char} (htakes : Takes (readAny .sorted d) s j)
    (h : readAny .sorted d ⟨s ++ t, m⟩ = .ok (v, s')) : s'.rest = t := by
  obtain ⟨m', hread⟩ := htakes t m
  rw [hread] at h
  cases h
  rfl

end

/-! ## Members -/

/-- Whether what is read for a printed value, with `d` brackets to open, ends where that does, or inside the
number at its end. -/
def Reaches (d : Nat) : Prop := ∀ {n j t m v s'}, Ends t →
  readAny .sorted d ⟨(indentedAt n j).toList ++ t, m⟩ = .ok (v, s') → Behind s'.rest t

/-- Values that may be read for those of printed members, under the same keys. -/
def MembersFor (d : Nat) : List (String × Json) → List (String × Json) → Prop :=
  List.Forall₂ fun p q => q.1 = p.1 ∧ ReadFor d p.2 q.2

theorem exists_readKey_of_number {c : Char} (hc : isNumberChar c = true) (r : List Char) (m : Mark) :
    ∃ e, readKey false ⟨c :: r, m⟩ = .error e := by
  rw [readKey, skip_cons (not_blank_of_number hc)]
  simp only
  split
  · next h => exact absurd (List.cons.inj h).1 (ne_of_number hc (by decide))
  · next h => cases h
  · next h =>
    cases h
    simp only [Bool.false_eq_true, if_false, if_pos (ne_of_number hc (by decide : isNumberChar ',' = false))]
    exact ⟨_, rfl⟩

/-- Behind a value no other member is read while some of a number is ahead. -/
theorem eq_nil_of_readMembers {σ : Type} {member : σ → String → Source → Read σ} {turns x y : List Char} {st : σ}
    {m : Mark} {r : σ × Source} (hy : ∀ c ∈ y, isNumberChar c = true)
    (h : readMembers member turns false st ⟨y ++ x, m⟩ = .ok r) : y = [] := by
  cases y with
  | nil => rfl
  | cons c y =>
    obtain ⟨e, he⟩ := exists_readKey_of_number (hy c List.mem_cons_self) (y ++ x) m
    rw [List.cons_append, readMembers.eq_def] at h
    simp only [he] at h
    cases h

section
variable {d n : Nat} (hd : Reaches d) {x t : List Char} {m : Mark} {s s' : Source} {st st' : List (String × Json)}
include hd

theorem exists_of_readEntry {k : String} {j : Json} (hx : Ends x)
    (h : readEntry d st k ⟨':' :: ' ' :: ((indentedAt n j).toList ++ x), m⟩ = .ok (st', s')) :
    ∃ v, ReadFor d j v ∧ st' = insert k v st ∧ Behind s'.rest x := by
  have hcolon : readColon ⟨':' :: ' ' :: ((indentedAt n j).toList ++ x), m⟩ =
      .ok ⟨' ' :: ((indentedAt n j).toList ++ x), m.past ':'⟩ := rfl
  have hskip : Source.skip ⟨' ' :: ((indentedAt n j).toList ++ x), m.past ':'⟩ =
      Source.skip ⟨(indentedAt n j).toList ++ x, (m.past ':').past ' '⟩ := rfl
  simp only [readEntry, hcolon, bind, Except.bind, readAny_skip hskip] at h
  split at h
  · cases h
  · next p hread =>
    cases h
    exact ⟨p.1, ⟨n, x, _, p.2, hx, hread⟩, rfl, hd hx hread⟩

/-- A member is read for the one that is printed, and reading goes on behind it. -/
theorem exists_of_readMembers {first : Bool} {k : String} {j : Json} (hx : Ends x)
    (hkey : readKey first s = .ok (some k, ⟨':' :: ' ' :: ((indentedAt n j).toList ++ x), m⟩)) {u : Char}
    {turns : List Char} (h : readMembers (readEntry d) (u :: turns) first st s = .ok (st', s')) :
    ∃ v y m', ReadFor d j v ∧ (∀ c ∈ y, isNumberChar c = true) ∧
      readMembers (readEntry d) turns false (insert k v st) ⟨y ++ x, m'⟩ = .ok (st', s') := by
  rw [readMembers.eq_def] at h
  simp only [hkey] at h
  split at h
  · cases h
  · next st₁ s₁ hentry =>
    obtain ⟨v, hv, rfl, y, hy, hchars⟩ := exists_of_readEntry hd hx hentry
    refine ⟨v, y, s₁.mark, hv, hchars, ?_⟩
    rwa [← hy]

/-- The members behind the first one are read up to the bracket, unless the one before ends in a number that
is not read to its end. -/
theorem of_readMembers {c : Nat} {y : List Char} (hy : ∀ c ∈ y, isNumberChar c = true) {ms : List (String × Json)}
    {turns : List Char} (hturns : ms.length ≤ turns.length)
    (h : readMembers (readEntry d) turns false st
      ⟨y ++ linesUpTo (memberLine n) c '\x7d' ms t, m⟩ = .ok (st', s')) :
    s'.rest = '\x7d' :: t ∧ ∃ vs, MembersFor d ms vs ∧ st' = vs.foldl (fun st p => insert p.1 p.2 st) st := by
  induction ms generalizing turns st m y with
  | nil =>
    obtain rfl := eq_nil_of_readMembers hy h
    obtain ⟨m', hclosed⟩ := readKey_closed c t m false
    rw [List.nil_append, linesUpTo, List.flatMap_nil, List.nil_append, readMembers_none hclosed] at h
    cases h
    exact ⟨rfl, [], .nil, rfl⟩
  | cons p ms ih =>
    obtain rfl := eq_nil_of_readMembers hy h
    obtain ⟨u, turns, rfl⟩ := List.exists_cons_of_ne_nil (List.ne_nil_of_length_pos (Nat.zero_lt_of_lt hturns))
    rw [List.nil_append, linesUpTo_cons] at h
    obtain ⟨m₁, hkey⟩ := readKey_next n _ m p
    obtain ⟨v, y, m₂, hv, hchars, hrest⟩ := exists_of_readMembers hd (ends_linesUpTo _ _ _ _ _) hkey h
    obtain ⟨hend, vs, hvs, rfl⟩ := ih hchars (by simpa using hturns) hrest
    exact ⟨hend, (p.1, v) :: vs, .cons ⟨rfl, hv⟩ hvs, rfl⟩

omit hd in
theorem exists_of_readAny_object {x : List Char} {v : Json}
    (h : readAny .sorted (d + 1) ⟨'\x7b' :: x, m⟩ = .ok (v, s')) :
    ∃ ms s₁, readMembers (readEntry d) x true [] ⟨x, m.past '\x7b'⟩ = .ok (ms, s₁) ∧ v = .object ms ∧ s' = s₁.drop := by
  rw [readAny_object, readObject] at h
  simp only [Source.drop] at h
  split at h
  · cases h
  · next ms s₁ hmembers =>
    cases h
    exact ⟨ms, s₁, hmembers, rfl, rfl⟩

/-- An object is read for an object, with the same keys. -/
theorem of_readAny_object {ms : List (String × Json)} {v : Json}
    (h : readAny .sorted (d + 1) ⟨(indentedAt n (.object ms)).toList ++ t, m⟩ = .ok (v, s')) :
    s'.rest = t ∧ ∃ vs, MembersFor d ms vs ∧ v = .object (vs.foldl (fun st p => insert p.1 p.2 st) []) := by
  cases ms with
  | nil =>
    rw [indentedAt] at h
    obtain ⟨ms, s₁, hmembers, rfl, rfl⟩ := exists_of_readAny_object (x := '\x7d' :: t) h
    rw [readMembers_none rfl] at hmembers
    cases hmembers
    exact ⟨rfl, [], .nil, rfl⟩
  | cons p ms =>
    rw [toList_indentedAt_object] at h
    obtain ⟨ms', s₁, hmembers, rfl, rfl⟩ := exists_of_readAny_object h
    obtain ⟨u, turns, hturns, hlength⟩ := exists_turns (memberLine (n + 1) p) (memberLine (n + 1)) n '\x7d' ms t
    obtain ⟨m₁, hkey⟩ := readKey_line (n + 1) (linesUpTo (memberLine (n + 1)) n '\x7d' ms t) (m.past '\x7b') p
    -- the characters ahead are also what bounds the turns
    nth_rewrite 1 [hturns] at hmembers
    obtain ⟨v, y, m₂, hv, hchars, hrest⟩ := exists_of_readMembers hd (ends_linesUpTo _ _ _ _ _) hkey hmembers
    obtain ⟨hend, vs, hvs, rfl⟩ := of_readMembers hd hchars hlength hrest
    refine ⟨?_, (p.1, v) :: vs, .cons ⟨rfl, hv⟩ hvs, rfl⟩
    rw [Source.drop, hend]

end

/-! ## Items -/

/-- The line of an item. -/
def itemLine (n : Nat) (j : Json) : List Char := (newline n).toList ++ (indentedAt n j).toList

theorem toList_indentedItems (n : Nat) (j : Json) (js : List Json) :
    (indentedItems n (j :: js)).toList = itemLine n j ++ js.flatMap fun i => ',' :: itemLine n i := by
  have hcomma : ",".toList = [','] := rfl
  induction js generalizing j with
  | nil =>
    rw [indentedItems, itemLine]
    simp
  | cons i js ih =>
    rw [indentedItems, String.toList_append, ih, itemLine]
    · simp [hcomma, itemLine]
    · exact List.cons_ne_nil i js

theorem toList_indentedAt_list (n : Nat) (j : Json) (js : List Json) (t : List Char) :
    (indentedAt n (.list (j :: js))).toList ++ t =
      '[' :: (itemLine (n + 1) j ++ linesUpTo (itemLine (n + 1)) n ']' js t) := by
  have hopen : "[".toList = ['['] := rfl
  have hclose : "]".toList = [']'] := rfl
  simp [indentedAt, toList_indentedItems, linesUpTo, hopen, hclose]

theorem exists_indentedAt_list (n : Nat) (js : List Json) : ∃ r, (indentedAt n (.list js)).toList = '[' :: r := by
  cases js with
  | nil => exact ⟨_, by rw [indentedAt]; rfl⟩
  | cons j js => exact ⟨_, by simpa using toList_indentedAt_list n j js []⟩

theorem exists_indentedAt_object (n : Nat) (ms : List (String × Json)) :
    ∃ r, (indentedAt n (.object ms)).toList = '\x7b' :: r := by
  cases ms with
  | nil => exact ⟨_, by rw [indentedAt]; rfl⟩
  | cons p ms => exact ⟨_, by simpa using toList_indentedAt_object n p ms []⟩

/-- A printed value starts with a character that is no blank and closes no list. -/
theorem exists_indentedAt (n : Nat) (j : Json) : ∃ c r, (indentedAt n j).toList = c :: r ∧
    ¬ (c = ' ' ∨ c = '\n' ∨ c = '\t' ∨ c = '\r') ∧ c ≠ ']' := by
  cases j with
  | null => exact ⟨'n', _, by rw [indentedAt]; rfl, by decide, by decide⟩
  | bool b =>
    cases b with
    | false => exact ⟨'f', _, by rw [indentedAt]; rfl, by decide, by decide⟩
    | true => exact ⟨'t', _, by rw [indentedAt]; rfl, by decide, by decide⟩
  | number a =>
    obtain ⟨⟨c, r, hr, -⟩, hchars⟩ := numeral_text a
    have hnumber := hchars c (by rw [hr]; exact List.mem_cons_self)
    exact ⟨c, r, by rw [indentedAt, hr], not_blank_of_number hnumber, ne_of_number hnumber (by decide)⟩
  | text s => exact ⟨'"', _, by rw [indentedAt, toList_textString], by decide, by decide⟩
  | list js =>
    obtain ⟨r, hr⟩ := exists_indentedAt_list n js
    exact ⟨'[', r, hr, by decide, by decide⟩
  | object ms =>
    obtain ⟨r, hr⟩ := exists_indentedAt_object n ms
    exact ⟨'\x7b', r, hr, by decide, by decide⟩

section
variable {w w' : List Char} (hw : Blanks w) (hw' : Blanks w') {c : Char}
  (hc : ¬ (c = ' ' ∨ c = '\n' ∨ c = '\t' ∨ c = '\r')) (hclose : c ≠ ']') (x : List Char) (m : Mark)
include hw

include hc hclose in
/-- The first item lies ahead, where its text starts. -/
theorem readNext_first : ∃ m', readNext true ⟨w ++ c :: x, m⟩ = .ok (some ⟨c :: x, m'⟩) := by
  obtain ⟨m', hskip⟩ := skip_blanks hw hc x m
  refine ⟨m', ?_⟩
  rw [readNext, hskip]
  dsimp only
  split
  · next h => exact absurd (List.cons.inj h).1 hclose
  · next h => cases h
  · exact if_pos rfl

include hw' hc hclose in
/-- So does every other one, behind a comma. -/
theorem readNext_comma : ∃ m', readNext false ⟨w ++ ',' :: (w' ++ c :: x), m⟩ = .ok (some ⟨c :: x, m'⟩) := by
  obtain ⟨m₁, hcomma⟩ := skip_blanks hw (c := ',') (by decide) (w' ++ c :: x) m
  obtain ⟨m₂, hskip⟩ := skip_blanks hw' hc x (m₁.past ',')
  have hdrop : (Source.drop ⟨',' :: (w' ++ c :: x), m₁⟩).skip = ⟨c :: x, m₂⟩ := hskip
  refine ⟨m₂, ?_⟩
  rw [readNext, hcomma]
  simp only [hdrop, Bool.false_eq_true, if_false]
  split
  · next h => cases (List.cons.inj h).1
  · next h => cases h
  · next h =>
    cases h
    rw [if_neg (not_not_intro rfl)]
    split
    · next h => exact absurd (List.cons.inj h).1 hclose
    · next h => cases h
    · rfl

theorem readNext_close (first : Bool) : readNext first ⟨w ++ ']' :: x, m⟩ = .ok none := by
  obtain ⟨m', hskip⟩ := skip_blanks hw (c := ']') (by decide) x m
  rw [readNext, hskip]
  rfl

end

section
variable (n : Nat) (j : Json) (x t : List Char) (m : Mark)

theorem readNext_itemLine :
    ∃ m', readNext true ⟨itemLine n j ++ x, m⟩ = .ok (some ⟨(indentedAt n j).toList ++ x, m'⟩) := by
  obtain ⟨c, r, hr, hblank, hclose⟩ := exists_indentedAt n j
  rw [itemLine, hr, List.append_assoc]
  exact readNext_first (blanks_newline n) hblank hclose (r ++ x) m

theorem readNext_next :
    ∃ m', readNext false ⟨',' :: (itemLine n j ++ x), m⟩ = .ok (some ⟨(indentedAt n j).toList ++ x, m'⟩) := by
  obtain ⟨c, r, hr, hblank, hclose⟩ := exists_indentedAt n j
  rw [itemLine, hr, List.append_assoc]
  exact readNext_comma (w := []) (by simp [Blanks]) (blanks_newline n) hblank hclose (r ++ x) m

theorem readNext_closed (first : Bool) : readNext first ⟨(newline n).toList ++ ']' :: t, m⟩ = .ok none :=
  readNext_close (blanks_newline n) t m first

theorem exists_readNext_of_number {c : Char} (hc : isNumberChar c = true) (r : List Char) :
    ∃ e, readNext false ⟨c :: r, m⟩ = .error e := by
  rw [readNext, skip_cons (not_blank_of_number hc)]
  simp only
  split
  · next h => exact absurd (List.cons.inj h).1 (ne_of_number hc (by decide))
  · next h => cases h
  · next h =>
    cases h
    simp only [Bool.false_eq_true, if_false, if_pos (ne_of_number hc (by decide : isNumberChar ',' = false))]
    exact ⟨_, rfl⟩

end

/-- Behind a value no other item is read while some of a number is ahead. -/
theorem eq_nil_of_readItems {α : Type} {item : Nat → Source → Read α} {turns x y : List Char} {i : Nat}
    {acc : List α} {m : Mark} {r : List α × Source} (hy : ∀ c ∈ y, isNumberChar c = true)
    (h : readItems item turns (i + 1) acc ⟨y ++ x, m⟩ = .ok r) : y = [] := by
  cases y with
  | nil => rfl
  | cons c y =>
    obtain ⟨e, he⟩ := exists_readNext_of_number m (hy c List.mem_cons_self) (y ++ x)
    have hcount : (i + 1 == 0) = false := rfl
    rw [List.cons_append, readItems.eq_def] at h
    simp only [hcount, he] at h
    cases h

section
variable {d n : Nat} (hd : Reaches d) {x t : List Char} {m : Mark} {s s' : Source} {acc vs : List Json} {i : Nat}
include hd

theorem exists_of_readItems {j : Json} (hx : Ends x)
    (hnext : readNext (i == 0) s = .ok (some ⟨(indentedAt n j).toList ++ x, m⟩)) {u : Char} {turns : List Char}
    (h : readItems (fun _ => readAny .sorted d) (u :: turns) i acc s = .ok (vs, s')) :
    ∃ v y m', (∀ c ∈ y, isNumberChar c = true) ∧
      readItems (fun _ => readAny .sorted d) turns (i + 1) (v :: acc) ⟨y ++ x, m'⟩ = .ok (vs, s') := by
  rw [readItems.eq_def] at h
  simp only [hnext] at h
  split at h
  · cases h
  · next v s₁ hread =>
    obtain ⟨y, hy, hchars⟩ := hd hx hread
    refine ⟨v, y, s₁.mark, hchars, ?_⟩
    rwa [← hy]

/-- The items behind the first one are read up to the bracket. -/
theorem of_readItems {c : Nat} {y : List Char} (hy : ∀ c ∈ y, isNumberChar c = true) {js : List Json}
    {turns : List Char} (hturns : js.length ≤ turns.length)
    (h : readItems (fun _ => readAny .sorted d) turns (i + 1) acc ⟨y ++ linesUpTo (itemLine n) c ']' js t, m⟩ = .ok (vs, s')) :
    s'.rest = ']' :: t := by
  induction js generalizing turns i acc m y with
  | nil =>
    obtain rfl := eq_nil_of_readItems hy h
    obtain ⟨m', hskip⟩ := skip_blanks (blanks_newline c) (c := ']') (by decide) t m
    rw [List.nil_append, linesUpTo, List.flatMap_nil, List.nil_append, readItems.eq_def] at h
    simp only [readNext_closed, hskip] at h
    cases h
    rfl
  | cons j js ih =>
    obtain rfl := eq_nil_of_readItems hy h
    obtain ⟨u, turns, rfl⟩ := List.exists_cons_of_ne_nil (List.ne_nil_of_length_pos (Nat.zero_lt_of_lt hturns))
    rw [List.nil_append, linesUpTo_cons] at h
    obtain ⟨m₁, hnext⟩ := readNext_next n j (linesUpTo (itemLine n) c ']' js t) m
    obtain ⟨v, y, m₂, hchars, hrest⟩ := exists_of_readItems (i := i + 1) hd (ends_linesUpTo _ _ _ _ _) hnext h
    exact ih hchars (by simpa using hturns) hrest

/-- A list is read up to its closing bracket. -/
theorem of_readAny_list {js : List Json} {v : Json}
    (h : readAny .sorted (d + 1) ⟨(indentedAt n (.list js)).toList ++ t, m⟩ = .ok (v, s')) : s'.rest = t := by
  have hlist : ∀ s, readAny .sorted (d + 1) ⟨'[' :: s, m⟩ = .ok (v, s') → ∃ vs s₁,
      readItems (fun _ => readAny .sorted d) s 0 [] ⟨s, m.past '['⟩ = .ok (vs, s₁) ∧ s' = s₁.drop := by
    intro s h
    rw [readAny, skip_cons (by decide)] at h
    change (readItems (fun _ => readAny .sorted d) s 0 [] ⟨s, m.past '['⟩).bind _ = _ at h
    cases hitems : readItems (fun _ => readAny .sorted d) s 0 [] ⟨s, m.past '['⟩ with
    | error e =>
      rw [hitems] at h
      cases h
    | ok p =>
      rw [hitems] at h
      cases h
      exact ⟨p.1, p.2, rfl, rfl⟩
  cases js with
  | nil =>
    rw [indentedAt] at h
    obtain ⟨vs, s₁, hitems, rfl⟩ := hlist (']' :: t) h
    cases hitems
    rfl
  | cons j js =>
    rw [toList_indentedAt_list] at h
    obtain ⟨vs, s₁, hitems, rfl⟩ := hlist _ h
    obtain ⟨m₁, hnext⟩ := readNext_itemLine (n + 1) j (linesUpTo (itemLine (n + 1)) n ']' js t) (m.past '[')
    obtain ⟨u, turns, hturns, hlength⟩ := exists_turns (itemLine (n + 1) j) (itemLine (n + 1)) n ']' js t
    nth_rewrite 1 [hturns] at hitems
    obtain ⟨v, y, m₂, hchars, hrest⟩ := exists_of_readItems (i := 0) hd (ends_linesUpTo _ _ _ _ _) hnext hitems
    rw [Source.drop, of_readItems hd hchars hlength hrest]

end

/-! ## Values -/

theorem rereads_null (d : Nat) : Rereads d .null := by
  intro n t m
  have htext : (indentedAt n .null).toList ++ t = 'n' :: ("ull".toList ++ t) := by
    rw [indentedAt]
    rfl
  rw [htext, readAny_scalar (by decide) (by decide) (by decide)]
  exact ⟨_, rfl⟩

/-- No bracket is opened where none may be. -/
theorem readAny_zero (keep : Keep) {c : Char} (hc : c = '[' ∨ c = '\x7b') (s : List Char) (m : Mark) :
    ∃ e, readAny keep 0 ⟨c :: s, m⟩ = .error e := by
  rcases hc with rfl | rfl
  · exact ⟨_, by rw [readAny, skip_cons (by decide)]; rfl⟩
  · exact ⟨_, by rw [readAny, skip_cons (by decide)]; rfl⟩

theorem reaches_of_below {d : Nat} (hd : ∀ e, d = e + 1 → Reaches e) : Reaches d := by
  intro n j t m v s' ht h
  cases j with
  | null => exact eq_of_takes (rereads_null d n) h ▸ .refl _
  | bool b => exact eq_of_takes (rereads_bool d b n) h ▸ .refl _
  | number a =>
    rw [indentedAt] at h
    exact behind_of_number ht h
  | text s => exact eq_of_takes (rereads_text d s n) h ▸ .refl _
  | list js =>
    cases d with
    | zero =>
      obtain ⟨r, hr⟩ := exists_indentedAt_list n js
      obtain ⟨e, he⟩ := readAny_zero .sorted (.inl rfl) (r ++ t) m
      rw [hr, List.cons_append, he] at h
      cases h
    | succ d => exact of_readAny_list (hd d rfl) h ▸ .refl _
  | object ms =>
    cases d with
    | zero =>
      obtain ⟨r, hr⟩ := exists_indentedAt_object n ms
      obtain ⟨e, he⟩ := readAny_zero .sorted (.inr rfl) (r ++ t) m
      rw [hr, List.cons_append, he] at h
      cases h
    | succ d => exact (of_readAny_object (hd d rfl) h).1 ▸ .refl _

/-- What is read for a printed value ends where that does, or inside the number at its end. -/
theorem reaches (d : Nat) : Reaches d := by
  induction d with
  | zero => exact reaches_of_below fun e he => by cases he
  | succ d ih => exact reaches_of_below fun e he => by cases he; exact ih

/-! ## Members that are read -/

section
variable {k : String} {v j : Json} {ms vs : List (String × Json)} {d : Nat}

theorem lookup_eq_lookup (k : String) (ms : List (String × Json)) : lookup k ms = ms.lookup k := by
  induction ms with
  | nil => rfl
  | cons p ms ih =>
    rw [lookup_entry, lookup, ih]
    simp only [eq_comm]

theorem lookup_insert_of_ne {l : String} (h : l ≠ k) (ms : List (String × Json)) :
    lookup l (insert k v ms) = lookup l ms := by
  rw [lookup_eq_lookup, insert_eq_putKey, lookup_putKey, if_neg h, lookup_eq_lookup]

theorem mem_of_lookup (h : lookup k ms = some v) : (k, v) ∈ ms :=
  BuildLoop.mem_of_lookup ((lookup_eq_lookup k ms).symm.trans h)

/-- Of members with the same keys, each is found under its key when they are put in one by one. -/
theorem MembersFor.lookup_eq (h : MembersFor d ms vs) (hnodup : (ms.map Prod.fst).Nodup)
    (hlookup : lookup k ms = some j) (st : List (String × Json)) :
    ∃ v, ReadFor d j v ∧ lookup k (vs.foldl (fun st p => insert p.1 p.2 st) st) = some v := by
  have hkeep : ∀ {ms vs}, MembersFor d ms vs → k ∉ ms.map Prod.fst → ∀ st,
      lookup k (vs.foldl (fun st p => insert p.1 p.2 st) st) = lookup k st := by
    intro ms vs h
    induction h with
    | nil => exact fun _ _ => rfl
    | cons hpq _ ih =>
      intro hk st
      rw [List.map_cons, List.mem_cons, not_or] at hk
      rw [List.foldl_cons, ih hk.2, hpq.1, lookup_insert_of_ne hk.1]
  induction h generalizing st with
  | nil => cases hlookup
  | @cons p q ms vs hpq hrest ih =>
    obtain ⟨hp, hnodup⟩ := List.nodup_cons.1 hnodup
    rw [lookup] at hlookup
    split at hlookup
    · next heq =>
      subst heq
      cases hlookup
      refine ⟨q.2, hpq.2, ?_⟩
      rw [List.foldl_cons, hkeep hrest hp, hpq.1, lookup_insert]
    · exact ih hnodup hlookup _

/-- A member of a printed object is found again in what is read for that. -/
theorem ReadFor.member (h : ReadFor d (.object ms) v) (hnodup : (ms.map Prod.fst).Nodup)
    (hlookup : lookup k ms = some j) :
    ∃ e vs w, d = e + 1 ∧ v = .object vs ∧ lookup k vs = some w ∧ ReadFor e j w := by
  obtain ⟨n, t, m, s', ht, hread⟩ := h
  cases d with
  | zero =>
    obtain ⟨r, hr⟩ := exists_indentedAt_object n ms
    obtain ⟨e, he⟩ := readAny_zero .sorted (.inr rfl) (r ++ t) m
    rw [hr, List.cons_append, he] at hread
    cases hread
  | succ d =>
    obtain ⟨-, vs, hvs, rfl⟩ := of_readAny_object (reaches d) hread
    obtain ⟨w, hw, hfound⟩ := hvs.lookup_eq hnodup hlookup []
    exact ⟨d, _, w, rfl, rfl, hfound, hw⟩

end

/-! ## Texts -/

theorem ok_of_readEnd {α : Type} {x : Read α} {a : α} (h : readEnd x = .ok a) : ∃ s, x = .ok (a, s) := by
  obtain ⟨⟨b, s⟩, hx, h⟩ := exists_of_bind h
  simp only at h
  split at h
  · cases h
    exact ⟨s, hx⟩
  · cases h

theorem readFor_of_parse {j v : Json} (h : parse (indented j ++ "\n") = .ok v) : ReadFor depthLimit j v := by
  obtain ⟨s', hread⟩ := ok_of_readEnd h
  rw [start_indented] at hread
  exact ⟨0, _, _, s', ends_cons (by decide) _, hread⟩

/-! ## Sorted objects -/

/-- Whether a value is read from some text, its objects sorted by key. -/
def Parsed (j : Json) : Prop := ∃ d s s', readAny .sorted d s = .ok (j, s')

theorem parsed_of_parse {text : String} {j : Json} (h : parse text = .ok j) : Parsed j := by
  obtain ⟨s', hread⟩ := ok_of_readEnd h
  exact ⟨_, _, _, hread⟩

/-- What holds when no member is read and is kept by each member holds at the end. -/
theorem of_readMembers_of_step {σ : Type} {member : σ → String → Source → Read σ} {P : σ → Prop}
    (hstep : ∀ {st k s st' s'}, P st → member st k s = .ok (st', s') → P st') {turns : List Char} {first : Bool}
    {st st' : σ} {s s' : Source} (hst : P st) (h : readMembers member turns first st s = .ok (st', s')) : P st' := by
  induction turns generalizing first st s with
  | nil =>
    rw [readMembers.eq_def] at h
    simp only at h
    split at h
    · cases h
    · cases h
      exact hst
    · split at h
      · cases h
      · next hmember =>
        cases h
        exact hstep hst hmember
  | cons u turns ih =>
    rw [readMembers.eq_def] at h
    simp only at h
    split at h
    · cases h
    · cases h
      exact hst
    · split at h
      · cases h
      · next hmember => exact ih (hstep hst hmember) h

theorem readScalar_ne_object {s s' : Source} {ms : List (String × Json)} : readScalar s ≠ .ok (.object ms, s') := by
  have hmap : ∀ {α : Type} {x : Except Stop α} {f : α → Json × Source}, (∀ a, (f a).1 ≠ .object ms) →
      x.map f ≠ .ok (.object ms, s') := by
    intro α x f hf h
    cases x with
    | error e => cases h
    | ok a => exact hf a (congrArg Prod.fst (Except.ok.inj h))
  unfold readScalar
  split
  · exact hmap fun _ => by simp
  · exact hmap fun _ => by simp
  · exact hmap fun _ => by simp
  · exact hmap fun _ => by simp
  · exact hmap fun _ => by simp
  · exact fun h => by cases h
  · split
    · exact hmap fun _ => by simp
    · exact fun h => by cases h

theorem parsed_object {ms : List (String × Json)} (h : Parsed (.object ms)) : Sorted ms ∧ ∀ p ∈ ms, Parsed p.2 := by
  obtain ⟨d, s, s', h⟩ := h
  cases d with
  | zero =>
    rw [readAny] at h
    split at h
    · cases h
    · cases h
    · exact absurd h readScalar_ne_object
  | succ d =>
    have hobject : ∀ {x m}, s.skip = ⟨'\x7b' :: x, m⟩ → readAny .sorted (d + 1) ⟨'\x7b' :: x, m⟩ = .ok (.object ms, s') := by
      intro x m hs
      rwa [← hs, ← readAny_skip (s := s)]
      rw [hs, skip_cons (by decide)]
    rw [readAny] at h
    simp only at h
    split at h
    · simp only [bind, Except.bind] at h
      split at h
      · cases h
      · cases h
    · next x hx =>
      obtain ⟨ms', s₁, hmembers, hms, -⟩ := exists_of_readAny_object (hobject (m := s.skip.mark) (by rw [← hx]))
      cases hms
      refine of_readMembers_of_step (P := fun ms => Sorted ms ∧ ∀ p ∈ ms, Parsed p.2) ?_ ⟨.nil, by simp⟩ hmembers
      intro st k s st' s' hst hentry
      obtain ⟨hsorted, hparsed⟩ := hst
      simp only [readEntry, bind, Except.bind] at hentry
      split at hentry
      · cases hentry
      split at hentry
      · cases hentry
      · next p hread =>
        cases hentry
        refine ⟨sorted_insert hsorted, fun q hq => ?_⟩
        rcases mem_insert hq with rfl | hq
        · exact ⟨d, _, _, hread⟩
        · exact hparsed q hq
    · exact absurd h readScalar_ne_object

end BuildLoop.Json
