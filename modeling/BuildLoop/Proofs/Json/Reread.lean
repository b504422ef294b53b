import BuildLoop.Json.Source
import BuildLoop.Proofs.Table

/-!
# Reading printed JSON back

Each part of an indented text is read back as what it was printed for, wherever it stands and whatever
follows it. Values are put together from such parts: texts with their escapes, truth values, and objects
whose members are sorted by key:

    Rereads 127 j   →   parse (indented j ++ "\n") = ok j                             (parse_indented)
    keys sorted, every value is read back   →   Rereads (d + 1) (object ms)           (rereads_object)

Places are of no account for what is read, so that the statements leave them open.
-/

namespace BuildLoop.Json

/-- Whether a reader takes exactly the text `s` for the value `a`, whatever follows. -/
def Takes {α : Type} (read : Source → Read α) (s : List Char) (a : α) : Prop :=
  ∀ t m, ∃ m', read ⟨s ++ t, m⟩ = .ok (a, ⟨t, m'⟩)

/-! ## Texts -/

theorem hexValue?_controlDigits : ∀ n < 32, hexValue? (Nat.digitChar (n / 16)) = some (n / 16) ∧
    hexValue? (Nat.digitChar (n % 16)) = some (n % 16) := by decide

theorem hexValues?_controlDigits {n : Nat} (hn : n < 32) (r : List Char) :
    hexValues? ('0' :: '0' :: (controlDigits n ++ r)) = some n := by
  obtain ⟨hhigh, hlow⟩ := hexValue?_controlDigits n hn
  have hzero : hexValue? '0' = some 0 := by decide
  have hsum : ((0 * 16 + 0) * 16 + n / 16) * 16 + n % 16 = n := by omega
  simp only [controlDigits, List.cons_append, List.nil_append, hexValues?, hzero, hhigh, hlow, Option.bind_eq_bind,
    Option.bind_some, hsum]

/-- An escaped character is read back. -/
theorem readTextFrom_escapeChar (c : Char) (acc : List Char) (m : Mark) (r : List Char) :
    ∃ m', readTextFrom true acc m (escapeChar c ++ r) = readTextFrom true (c :: acc) m' r := by
  unfold escapeChar
  split
  · next h => exact ⟨_, by rw [h]; rfl⟩
  split
  · next h => exact ⟨_, by rw [h]; rfl⟩
  split
  · next h => exact ⟨_, by rw [h]; rfl⟩
  split
  · next h => exact ⟨_, by rw [h]; rfl⟩
  split
  · next h => exact ⟨_, by rw [h]; rfl⟩
  split
  · next h => exact ⟨m.right 2, by rw [← Char.ofNat_toNat c, h]; rfl⟩
  split
  · next h => exact ⟨m.right 2, by rw [← Char.ofNat_toNat c, h]; rfl⟩
  split
  · next h =>
    have hvalue := hexValues?_controlDigits h r
    simp only [controlDigits, List.cons_append, List.nil_append] at hvalue ⊢
    refine ⟨m.right 6, ?_⟩
    rw [readTextFrom, hvalue]
    have hsmall : (!true || decide (c.toNat < 55296) || decide (57343 < c.toNat)) = true := by
      rw [decide_eq_true (by omega : c.toNat < 55296)]
      rfl
    simp only [hsmall, if_true, Char.ofNat_toNat]
  · next hquote hslash _ _ _ _ _ hlarge =>
    refine ⟨m.past c, ?_⟩
    rw [List.singleton_append, readTextFrom.eq_def]
    split
    · next h => cases h
    · next h => exact absurd (List.cons.inj h).1 hquote
    · next h => exact absurd (List.cons.inj h).1 hslash
    · next h =>
      obtain ⟨rfl, rfl⟩ := List.cons.inj h
      exact if_neg hlarge

/-- A text is read back from its escapes. -/
theorem takes_text (s : String) : Takes readText (s.toList.flatMap escapeChar ++ ['"']) s := by
  have hfrom : ∀ (cs acc : List Char) (m : Mark) (t : List Char), ∃ m',
      readTextFrom true acc m (cs.flatMap escapeChar ++ '"' :: t) =
        .ok (String.ofList (acc.reverse ++ cs), ⟨t, m'⟩) := by
    intro cs
    induction cs with
    | nil => exact fun acc m t => ⟨m.right 1, by rw [List.append_nil]; rfl⟩
    | cons c cs ih =>
      intro acc m t
      obtain ⟨m₁, h₁⟩ := readTextFrom_escapeChar c acc m (cs.flatMap escapeChar ++ '"' :: t)
      obtain ⟨m₂, h₂⟩ := ih (c :: acc) m₁ t
      refine ⟨m₂, ?_⟩
      rw [List.flatMap_cons, List.append_assoc, h₁, h₂]
      simp
  intro t m
  obtain ⟨m', h⟩ := hfrom s.toList [] m t
  refine ⟨m', ?_⟩
  rw [List.append_assoc, readText]
  simpa using h

theorem toList_textString (s : String) : (textString s).toList = '"' :: (s.toList.flatMap escapeChar ++ ['"']) := by
  simp [textString]

/-! ## Blanks -/

/-- Whether there is nothing but blanks of JSON. -/
def Blanks (w : List Char) : Prop := ∀ c ∈ w, c = ' ' ∨ c = '\n' ∨ c = '\t' ∨ c = '\r'

theorem blanks_newline (n : Nat) : Blanks (newline n).toList := by
  simp [Blanks, newline]

theorem skipFrom_blanks {w : List Char} (hw : Blanks w) (s : List Char) (m : Mark) :
    ∃ m', skipFrom m (w ++ s) = skipFrom m' s := by
  induction w generalizing m with
  | nil => exact ⟨m, rfl⟩
  | cons c w ih =>
    obtain ⟨hc, hw⟩ := List.forall_mem_cons.1 hw
    obtain ⟨m', hm'⟩ := ih hw (m.past c)
    exact ⟨m', by rw [List.cons_append, skipFrom, if_pos hc, hm']⟩

theorem skip_cons {c : Char} (hc : ¬ (c = ' ' ∨ c = '\n' ∨ c = '\t' ∨ c = '\r')) (s : List Char) (m : Mark) :
    Source.skip ⟨c :: s, m⟩ = ⟨c :: s, m⟩ := if_neg hc

/-- Blanks are passed over. -/
theorem skip_blanks {w : List Char} (hw : Blanks w) {c : Char} (hc : ¬ (c = ' ' ∨ c = '\n' ∨ c = '\t' ∨ c = '\r'))
    (s : List Char) (m : Mark) : ∃ m', Source.skip ⟨w ++ c :: s, m⟩ = ⟨c :: s, m'⟩ := by
  obtain ⟨m', h⟩ := skipFrom_blanks hw (c :: s) m
  exact ⟨m', h.trans (if_neg hc)⟩

/-! ## Keys -/

section
variable {w w' : List Char} (hw : Blanks w) (hw' : Blanks w') (k : String) (x : List Char) (m : Mark)

theorem readText_textString : ∃ m', readText ⟨k.toList.flatMap escapeChar ++ '"' :: x, m⟩ = .ok (k, ⟨x, m'⟩) := by
  simpa using takes_text k x m

include hw in
theorem skip_textString : ∃ m', Source.skip ⟨w ++ ((textString k).toList ++ x), m⟩ =
    ⟨'"' :: (k.toList.flatMap escapeChar ++ '"' :: x), m'⟩ := by
  simpa [toList_textString] using skip_blanks hw (c := '"') (by decide) (k.toList.flatMap escapeChar ++ '"' :: x) m

include hw in
/-- The first key is read with its quotes. -/
theorem readKey_first : ∃ m', readKey true ⟨w ++ ((textString k).toList ++ x), m⟩ = .ok (some k, ⟨x, m'⟩) := by
  obtain ⟨m₁, hskip⟩ := skip_textString hw k x m
  obtain ⟨m₂, htext⟩ := readText_textString k x (m₁.past '"')
  refine ⟨m₂, ?_⟩
  rw [readKey, hskip]
  exact congrArg (Except.map _) htext

include hw hw' in
/-- So is every other one, behind a comma. -/
theorem readKey_comma :
    ∃ m', readKey false ⟨w ++ ',' :: (w' ++ ((textString k).toList ++ x)), m⟩ = .ok (some k, ⟨x, m'⟩) := by
  obtain ⟨m₁, hcomma⟩ := skip_blanks hw (c := ',') (by decide) (w' ++ ((textString k).toList ++ x)) m
  obtain ⟨m₂, hskip⟩ := skip_textString hw' k x (m₁.past ',')
  obtain ⟨m₃, htext⟩ := readText_textString k x (m₂.past '"')
  have hdrop : (Source.drop ⟨',' :: (w' ++ ((textString k).toList ++ x)), m₁⟩).skip = _ := hskip
  refine ⟨m₃, ?_⟩
  rw [readKey, hcomma]
  simp only [hdrop, Bool.false_eq_true, if_false, ne_eq]
  exact congrArg (Except.map _) htext

include hw in
omit k in
theorem readKey_close (first : Bool) :
    ∃ m', readKey first ⟨w ++ '\x7d' :: x, m⟩ = .ok (none, ⟨'\x7d' :: x, m'⟩) := by
  obtain ⟨m', hskip⟩ := skip_blanks hw (c := '\x7d') (by decide) x m
  refine ⟨m', ?_⟩
  rw [readKey, hskip]
  rfl

end

/-! ## Sorted members -/

/-- Whether the keys of members are strictly increasing. -/
def Sorted (ms : List (String × Json)) : Prop := ms.Pairwise fun p q => p.1 < q.1

section
variable {k : String} {v : Json} {ms acc : List (String × Json)}

theorem insert_eq_putKey (k : String) (v : Json) (ms : List (String × Json)) : insert k v ms = putKey k v ms := by
  induction ms with
  | nil => rfl
  | cons q ms ih => rw [insert, putKey, ih]

theorem mem_insert {p : String × Json} (h : p ∈ insert k v ms) : p = (k, v) ∨ p ∈ ms :=
  mem_putKey (insert_eq_putKey k v ms ▸ h)

theorem mem_keys_insert {l : String} : l ∈ (insert k v ms).map Prod.fst ↔ l = k ∨ l ∈ ms.map Prod.fst := by
  induction ms with
  | nil => simp [insert]
  | cons q ms ih =>
    obtain ⟨l', w⟩ := q
    rw [insert]
    split
    · next heq => simp [heq]
    split
    · simp
    · rw [List.map_cons, List.mem_cons, ih, List.map_cons, List.mem_cons]
      exact or_left_comm

theorem sorted_insert (h : Sorted ms) : Sorted (insert k v ms) := by
  rw [insert_eq_putKey]
  exact IsTable.putKey h

theorem Sorted.nodup_keys (h : Sorted ms) : (ms.map Prod.fst).Nodup := by
  rw [List.Nodup, List.pairwise_map]
  exact h.imp ne_of_lt

/-- The last key in order is put at the end. -/
theorem insert_of_lt (h : ∀ p ∈ ms, p.1 < k) : insert k v ms = ms ++ [(k, v)] := by
  induction ms with
  | nil => rfl
  | cons q ms ih =>
    obtain ⟨l, w⟩ := q
    obtain ⟨hl, hms⟩ := List.forall_mem_cons.1 h
    rw [insert, if_neg (ne_of_lt hl), if_neg (String.not_lt.2 (le_of_lt hl)), ih hms, List.cons_append]

/-- Sorted members that are put in one by one stay as they are. -/
theorem foldl_insert_of_sorted (h : Sorted (acc ++ ms)) :
    ms.foldl (fun acc p => insert p.1 p.2 acc) acc = acc ++ ms := by
  induction ms generalizing acc with
  | nil => rw [List.append_nil]; rfl
  | cons q ms ih =>
    obtain ⟨-, -, hacc⟩ := List.pairwise_append.1 h
    have hstep : insert q.1 q.2 acc = acc ++ [q] := insert_of_lt fun p hp => hacc p hp q List.mem_cons_self
    rw [List.foldl_cons, hstep, ih (by simpa using h)]
    simp

end

/-! ## Members -/

/-- Whether a value is read back from its indented text, with `d` brackets to open. -/
def Rereads (d : Nat) (j : Json) : Prop := ∀ n, Takes (readAny .sorted d) (indentedAt n j).toList j

/-- Reads a value behind a key and its colon, and puts the member to the others. -/
def readEntry (d : Nat) (ms : List (String × Json)) (key : String) (s : Source) :
    Except Stop (List (String × Json) × Source) := do
  let s ← readColon s
  let (v, s) ← readAny .sorted d s
  .ok (insert key v ms, s)

theorem readAny_object (d : Nat) (s : List Char) (m : Mark) : readAny .sorted (d + 1) ⟨'\x7b' :: s, m⟩ =
    (readObject (readEntry d) [] ⟨'\x7b' :: s, m⟩).map fun p => (.object p.1, p.2) := by
  rw [readAny, skip_cons (by decide)]
  change (readObject (readEntry d) [] ⟨'\x7b' :: s, m⟩).bind (fun p => .ok (object p.1, p.2)) = _
  cases readObject (readEntry d) [] ⟨'\x7b' :: s, m⟩ with
  | error e => rfl
  | ok p => rfl

/-- What stands before a value is passed over. -/
theorem readAny_skip {keep : Keep} {d : Nat} {s s' : Source} (h : s.skip = s'.skip) :
    readAny keep d s = readAny keep d s' := by
  cases d with
  | zero => rw [readAny, readAny, h]
  | succ d => rw [readAny, readAny, h]

theorem readEntry_of_rereads {d n : Nat} {j : Json} (h : Rereads d j) (k : String) (ms : List (String × Json))
    (t : List Char) (m : Mark) :
    ∃ m', readEntry d ms k ⟨':' :: ' ' :: ((indentedAt n j).toList ++ t), m⟩ = .ok (insert k j ms, ⟨t, m'⟩) := by
  obtain ⟨m', hvalue⟩ := h n t ((m.past ':').past ' ')
  refine ⟨m', ?_⟩
  have hcolon : readColon ⟨':' :: ' ' :: ((indentedAt n j).toList ++ t), m⟩ =
      .ok ⟨' ' :: ((indentedAt n j).toList ++ t), m.past ':'⟩ := rfl
  have hskip : Source.skip ⟨' ' :: ((indentedAt n j).toList ++ t), m.past ':'⟩ =
      Source.skip ⟨(indentedAt n j).toList ++ t, (m.past ':').past ' '⟩ := rfl
  rw [← readAny_skip hskip] at hvalue
  simp only [readEntry, hcolon, hvalue, bind, Except.bind]

/-- The line of a member. -/
def memberLine (n : Nat) (p : String × Json) : List Char :=
  (newline n).toList ++ '"' :: (p.1.toList.flatMap escapeChar ++ '"' :: ':' :: ' ' :: (indentedAt n p.2).toList)

theorem toList_indentedMembers (n : Nat) (p : String × Json) (ms : List (String × Json)) :
    (indentedMembers n (p :: ms)).toList = memberLine n p ++ ms.flatMap fun q => ',' :: memberLine n q := by
  have hkey : ": ".toList = [':', ' '] := rfl
  have hcomma : ",".toList = [','] := rfl
  induction ms generalizing p with
  | nil =>
    rw [indentedMembers, memberLine]
    simp [toList_textString, hkey]
  | cons q ms ih =>
    rw [indentedMembers, String.toList_append, ih, memberLine]
    · simp [toList_textString, hkey, hcomma, memberLine]
    · exact fun h => List.cons_ne_nil q ms h

/-! ## Lines -/

/-- Lines behind commas, up to a closing bracket. -/
def linesUpTo {α : Type} (line : α → List Char) (c : Nat) (close : Char) (l : List α) (t : List Char) : List Char :=
  (l.flatMap fun a => ',' :: line a) ++ ((newline c).toList ++ close :: t)

theorem linesUpTo_cons {α : Type} (line : α → List Char) (c : Nat) (close : Char) (a : α) (l : List α)
    (t : List Char) : linesUpTo line c close (a :: l) t = ',' :: (line a ++ linesUpTo line c close l t) := by
  simp [linesUpTo]

/-- Each line takes a turn, and the text is longer than their number. -/
theorem exists_turns {α : Type} (first : List Char) (line : α → List Char) (c : Nat) (close : Char) (l : List α)
    (t : List Char) : ∃ u turns, first ++ linesUpTo line c close l t = u :: turns ∧ l.length ≤ turns.length := by
  have hcount : l.length ≤ (l.flatMap fun a => ',' :: line a).length := by
    induction l with
    | nil => simp
    | cons a l ih =>
      rw [List.flatMap_cons, List.length_append, List.length_cons, List.length_cons]
      omega
  have hlength : l.length + 1 ≤ (first ++ linesUpTo line c close l t).length := by
    simp only [linesUpTo, List.length_append, List.length_cons]
    omega
  cases hs : first ++ linesUpTo line c close l t with
  | nil => simp [hs] at hlength
  | cons u turns => exact ⟨u, turns, rfl, by simpa [hs] using hlength⟩

/-! ## Objects -/

section
variable (n : Nat) {d : Nat} (x t : List Char) (m : Mark)

theorem memberLine_append (p : String × Json) : memberLine n p ++ x =
    (newline n).toList ++ ((textString p.1).toList ++ ':' :: ' ' :: ((indentedAt n p.2).toList ++ x)) := by
  simp [memberLine, toList_textString]

/-- The first key is read, so that its colon lies ahead. -/
theorem readKey_line (p : String × Json) : ∃ m', readKey true ⟨memberLine n p ++ x, m⟩ =
    .ok (some p.1, ⟨':' :: ' ' :: ((indentedAt n p.2).toList ++ x), m'⟩) := by
  rw [memberLine_append]
  exact readKey_first (blanks_newline n) p.1 _ m

/-- So is every other one. -/
theorem readKey_next (p : String × Json) : ∃ m', readKey false ⟨',' :: (memberLine n p ++ x), m⟩ =
    .ok (some p.1, ⟨':' :: ' ' :: ((indentedAt n p.2).toList ++ x), m'⟩) := by
  rw [memberLine_append]
  exact readKey_comma (w := []) (by simp [Blanks]) (blanks_newline n) p.1 _ m

theorem readKey_closed (first : Bool) : ∃ m', readKey first ⟨(newline n).toList ++ '\x7d' :: t, m⟩ =
    .ok (none, ⟨'\x7d' :: t, m'⟩) := readKey_close (blanks_newline n) t m first

omit x t m in
theorem readMembers_none {σ : Type} {member : σ → String → Source → Read σ} {first : Bool} {s s' : Source}
    (h : readKey first s = .ok (none, s')) (turns : List Char) (st : σ) :
    readMembers member turns first st s = .ok (st, s') := by
  rw [readMembers.eq_def]
  simp only [h]

omit x t m in
theorem readMembers_some {σ : Type} {member : σ → String → Source → Read σ} {first : Bool} {s s₁ s₂ : Source}
    {k : String} {st st' : σ} (hkey : readKey first s = .ok (some k, s₁)) (hmember : member st k s₁ = .ok (st', s₂))
    (u : Char) (turns : List Char) :
    readMembers member (u :: turns) first st s = readMembers member turns false st' s₂ := by
  rw [readMembers.eq_def]
  simp only [hkey, hmember]

/-- The members behind the first one are read up to the bracket. -/
theorem readMembers_rest {c : Nat} {ms : List (String × Json)} (hms : ∀ p ∈ ms, Rereads d p.2) {turns : List Char}
    (hturns : ms.length ≤ turns.length) (st : List (String × Json)) :
    ∃ m', readMembers (readEntry d) turns false st ⟨linesUpTo (memberLine n) c '\x7d' ms t, m⟩ =
      .ok (ms.foldl (fun st p => insert p.1 p.2 st) st, ⟨'\x7d' :: t, m'⟩) := by
  induction ms generalizing turns st m with
  | nil =>
    obtain ⟨m', hclosed⟩ := readKey_closed c t m false
    exact ⟨m', readMembers_none hclosed turns st⟩
  | cons p ms ih =>
    obtain ⟨hp, hms⟩ := List.forall_mem_cons.1 hms
    obtain ⟨u, turns, rfl⟩ := List.exists_cons_of_ne_nil (List.ne_nil_of_length_pos (Nat.zero_lt_of_lt hturns))
    obtain ⟨m₁, hkey⟩ := readKey_next n (linesUpTo (memberLine n) c '\x7d' ms t) m p
    obtain ⟨m₂, hvalue⟩ := readEntry_of_rereads hp p.1 st (linesUpTo (memberLine n) c '\x7d' ms t) m₁
    obtain ⟨m₃, hrest⟩ := ih m₂ hms (by simpa using hturns) (insert p.1 p.2 st)
    exact ⟨m₃, by rw [linesUpTo_cons, readMembers_some hkey hvalue, hrest, List.foldl_cons]⟩

end

theorem readAny_of_members {d : Nat} {ms : List (String × Json)} {s t : List Char} {m m' : Mark}
    (h : readMembers (readEntry d) s true [] ⟨s, m.past '\x7b'⟩ = .ok (ms, ⟨'\x7d' :: t, m'⟩)) :
    readAny .sorted (d + 1) ⟨'\x7b' :: s, m⟩ = .ok (.object ms, ⟨t, m'.past '\x7d'⟩) := by
  rw [readAny_object, readObject]
  simp only [Source.drop, h]
  rfl

theorem toList_indentedAt_object (n : Nat) (p : String × Json) (ms : List (String × Json)) (t : List Char) :
    (indentedAt n (.object (p :: ms))).toList ++ t =
      '\x7b' :: (memberLine (n + 1) p ++ linesUpTo (memberLine (n + 1)) n '\x7d' ms t) := by
  have hopen : "\x7b".toList = ['\x7b'] := rfl
  have hclose : "\x7d".toList = ['\x7d'] := rfl
  simp [indentedAt, toList_indentedMembers, linesUpTo, hopen, hclose]

/-- An object is read back whose members are sorted and whose values are. -/
theorem rereads_object {d : Nat} {ms : List (String × Json)} (hsorted : Sorted ms) (hms : ∀ p ∈ ms, Rereads d p.2) :
    Rereads (d + 1) (.object ms) := by
  intro n t m
  cases ms with
  | nil =>
    rw [indentedAt]
    exact ⟨_, readAny_of_members (readMembers_none rfl ('\x7d' :: t) [])⟩
  | cons p ms =>
    obtain ⟨hp, hms⟩ := List.forall_mem_cons.1 hms
    obtain ⟨u, turns, hturns, hlength⟩ := exists_turns (memberLine (n + 1) p) (memberLine (n + 1)) n '\x7d' ms t
    obtain ⟨m₁, hkey⟩ := readKey_line (n + 1) (linesUpTo (memberLine (n + 1)) n '\x7d' ms t) (m.past '\x7b') p
    obtain ⟨m₂, hvalue⟩ := readEntry_of_rereads hp p.1 [] (linesUpTo (memberLine (n + 1)) n '\x7d' ms t) m₁
    obtain ⟨m₃, hrest⟩ := readMembers_rest (n + 1) t m₂ hms hlength (insert p.1 p.2 [])
    refine ⟨m₃.past '\x7d', ?_⟩
    rw [toList_indentedAt_object]
    refine readAny_of_members ?_
    have hfold : (p :: ms).foldl (fun st p => insert p.1 p.2 st) [] = [] ++ p :: ms :=
      foldl_insert_of_sorted hsorted
    rw [List.foldl_cons, List.nil_append] at hfold
    nth_rewrite 1 [hturns]
    rw [readMembers_some hkey hvalue, hrest, hfold]

/-! ## Values -/

theorem readAny_scalar {c : Char} (hc : ¬ (c = ' ' ∨ c = '\n' ∨ c = '\t' ∨ c = '\r')) (hlist : c ≠ '[')
    (hobject : c ≠ '\x7b') (keep : Keep) (d : Nat) (s : List Char) (m : Mark) :
    readAny keep d ⟨c :: s, m⟩ = readScalar ⟨c :: s, m⟩ := by
  cases d with
  | zero =>
    rw [readAny, skip_cons hc]
    split
    · next h => exact absurd (List.cons.inj h).1 hlist
    · next h => exact absurd (List.cons.inj h).1 hobject
    · rfl
  | succ d =>
    rw [readAny, skip_cons hc]
    simp only
    split
    · next h => exact absurd (List.cons.inj h).1 hlist
    · next h => exact absurd (List.cons.inj h).1 hobject
    · rfl

theorem rereads_text (d : Nat) (s : String) : Rereads d (.text s) := by
  intro n t m
  obtain ⟨m', htext⟩ := takes_text s t (m.past '"')
  refine ⟨m', ?_⟩
  rw [indentedAt, toList_textString, List.cons_append, readAny_scalar (by decide) (by decide) (by decide)]
  exact congrArg (Except.map _) htext

theorem rereads_bool (d : Nat) (b : Bool) : Rereads d (.bool b) := by
  intro n t m
  cases b with
  | false =>
    have htext : (indentedAt n (.bool false)).toList ++ t = 'f' :: ("alse".toList ++ t) := by
      rw [indentedAt]
      rfl
    rw [htext, readAny_scalar (by decide) (by decide) (by decide)]
    exact ⟨_, rfl⟩
  | true =>
    have htext : (indentedAt n (.bool true)).toList ++ t = 't' :: ("rue".toList ++ t) := by
      rw [indentedAt]
      rfl
    rw [htext, readAny_scalar (by decide) (by decide) (by decide)]
    exact ⟨_, rfl⟩

theorem start_indented (j : Json) :
    Source.start (indented j ++ "\n").toList = ⟨(indentedAt 0 j).toList ++ ['\n'], ⟨1, 0⟩⟩ := by
  rw [String.toList_append]
  rfl

/-- The text of a value is read back. -/
theorem parse_indented {j : Json} (h : Rereads depthLimit j) : parse (indented j ++ "\n") = .ok j := by
  obtain ⟨m, hread⟩ := h 0 ['\n'] ⟨1, 0⟩
  rw [parse, start_indented, hread]
  rfl

end BuildLoop.Json
