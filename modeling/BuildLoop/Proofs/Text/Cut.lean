import BuildLoop.Text.Search

/-!
# Where texts are cut

A text is cut at the last place of a character, which gives its directory and its name, after its first
sentence, and into the pieces between separators:

    cutAtLast c s = some (a, b)   ↔   s = a ++ c :: b and c is not in b         (cutAtLast_eq_some)
    firstSentence s               is the beginning of s, up to a full stop      (exists_firstSentence)
    s = x ++ ". " ++ y   →   firstSentence s is no longer than x and the stop   (length_firstSentence)
    splitAtEach p (s ++ c :: r) = s :: splitAtEach p r   if c separates, none in s (splitAtEach_append)
-/

namespace BuildLoop.Text

/-! ## At a character that one part does not hold -/

section
variable {x y a b : List Char} {q : Char}

theorem exists_of_notMem_left (h : x ++ y = a ++ q :: b) (hq : q ∉ x) :
    ∃ a', a = x ++ a' ∧ y = a' ++ q :: b := by
  rcases List.append_eq_append_iff.1 h with ⟨a', rfl, hy⟩ | ⟨c, rfl, hc⟩
  · exact ⟨a', rfl, hy⟩
  · cases c with
    | nil => exact ⟨[], by simp, hc.symm⟩
    | cons d c =>
      obtain ⟨rfl, -⟩ := List.cons.inj hc
      simp at hq

theorem exists_of_notMem_right (h : x ++ y = a ++ q :: b) (hq : q ∉ y) :
    ∃ b', b = b' ++ y ∧ x = a ++ q :: b' := by
  rcases List.append_eq_append_iff.1 h with ⟨a', rfl, rfl⟩ | ⟨c, rfl, hc⟩
  · simp at hq
  · cases c with
    | nil =>
      rw [List.nil_append] at hc
      simp [← hc] at hq
    | cons d c =>
      obtain ⟨rfl, rfl⟩ := List.cons.inj hc
      exact ⟨c, rfl, rfl⟩

/-- A class and the first character outside it cut a text in one way. -/
theorem append_inj_of_all {p : Char → Bool} (h : x ++ y = a ++ b) (hx : x.all p = true) (ha : a.all p = true)
    (hy : ∀ c ∈ y.head?, p c = false) (hb : ∀ c ∈ b.head?, p c = false) : x = a ∧ y = b := by
  have htake : ∀ {s t : List Char}, s.all p = true → (∀ c ∈ t.head?, p c = false) → (s ++ t).takeWhile p = s := by
    intro s t hs ht
    rw [List.takeWhile_append_of_pos (List.all_eq_true.1 hs)]
    cases t with
    | nil => exact List.append_nil s
    | cons c t => rw [List.takeWhile_cons_of_neg (by simp [ht c rfl]), List.append_nil]
  have hxa : x = a := by rw [← htake hx hy, h, htake ha hb]
  subst hxa
  exact ⟨rfl, List.append_cancel_left h⟩

end

/-- A character of a kind lies where the first one of the kind is, or behind it. -/
theorem split_at {p : Char → Bool} {r y w z : List Char} {b c : Char} (hr : ∀ d ∈ r, p d = false)
    (hb : p b = true) (h : r ++ c :: y = w ++ b :: z) :
    (w = r ∧ b = c ∧ z = y) ∨ ∃ w', w = r ++ c :: w' ∧ y = w' ++ b :: z := by
  induction r generalizing w with
  | nil =>
    cases w with
    | nil =>
      obtain ⟨rfl, rfl⟩ := List.cons.inj h
      exact .inl ⟨rfl, rfl, rfl⟩
    | cons d w =>
      obtain ⟨rfl, rfl⟩ := List.cons.inj h
      exact .inr ⟨w, rfl, rfl⟩
  | cons e r ih =>
    cases w with
    | nil =>
      obtain ⟨rfl, -⟩ := List.cons.inj h
      rw [hr e List.mem_cons_self] at hb
      cases hb
    | cons d w =>
      obtain ⟨rfl, htail⟩ := List.cons.inj h
      rcases ih (fun d hd => hr d (List.mem_cons_of_mem _ hd)) htail with ⟨rfl, rfl, rfl⟩ | ⟨w', rfl, hy⟩
      · exact .inl ⟨rfl, rfl, rfl⟩
      · exact .inr ⟨w', rfl, hy⟩

/-- A cut at a character lies where the character first stands, or behind it. -/
theorem cut_cases {x y a b : List Char} {q : Char} (h : x ++ q :: y = a ++ q :: b) (hq : q ∉ x) :
    a = x ∧ b = y ∨ ∃ a', a = x ++ q :: a' ∧ y = a' ++ q :: b := by
  have hx : ∀ d ∈ x, (d == q) = false := fun d hd => beq_eq_false_iff_ne.2 fun heq => hq (heq ▸ hd)
  rcases split_at hx (beq_self_eq_true q) h with ⟨ha, -, hb⟩ | hbehind
  · exact .inl ⟨ha, hb⟩
  · exact .inr hbehind

/-! ## Into pieces -/

section
variable {p : Char → Bool} {s : List Char}

theorem splitFrom_append_of_free (hs : ∀ c ∈ s, p c = false) (piece : List Char) (acc : List (List Char))
    (r : List Char) : splitFrom p piece acc (s ++ r) = splitFrom p (s.reverse ++ piece) acc r := by
  induction s generalizing piece with
  | nil => rfl
  | cons c s ih =>
    obtain ⟨hc, hs⟩ := List.forall_mem_cons.1 hs
    rw [List.cons_append, splitFrom, if_neg (Bool.eq_false_iff.1 hc), ih hs, List.reverse_cons, List.append_assoc]
    rfl

/-- A text that holds no separator is one piece. -/
theorem splitAtEach_of_free (hs : ∀ c ∈ s, p c = false) : splitAtEach p s = [s] := by
  have h := splitFrom_append_of_free hs [] [] []
  rw [List.append_nil] at h
  rw [splitAtEach, h]
  simp [splitFrom]

/-- The pieces of what stands before a separator, and of what stands behind it. -/
theorem splitAtEach_append_cons {c : Char} (hc : p c = true) (s r : List Char) :
    splitAtEach p (s ++ c :: r) = splitAtEach p s ++ splitAtEach p r := by
  have hfrom : ∀ piece acc, splitFrom p piece acc (s ++ c :: r) = splitFrom p piece acc s ++ splitFrom p [] [] r := by
    induction s with
    | nil =>
      intro piece acc
      rw [List.nil_append]
      show (if p c = true then splitFrom p [] (piece.reverse :: acc) r else splitFrom p (c :: piece) acc r) =
        (piece.reverse :: acc).reverse ++ splitFrom p [] [] r
      rw [if_pos hc, splitFrom_append]
    | cons d s ih =>
      intro piece acc
      rw [List.cons_append, splitFrom, splitFrom]
      split
      · exact ih _ _
      · exact ih _ _
  exact hfrom [] []

/-- The first piece reaches up to the first separator. -/
theorem splitAtEach_append {c : Char} (hs : ∀ c ∈ s, p c = false) (hc : p c = true) (r : List Char) :
    splitAtEach p (s ++ c :: r) = s :: splitAtEach p r := by
  rw [splitAtEach_append_cons hc, splitAtEach_of_free hs, List.singleton_append]

/-- The pieces, with the separator between them, are the text. -/
theorem intercalate_splitAtEach (c : Char) (s : List Char) : [c].intercalate (splitAtEach (· == c) s) = s := by
  have hfrom : ∀ piece, [c].intercalate (splitFrom (· == c) piece [] s) = piece.reverse ++ s := by
    induction s with
    | nil => exact fun piece => by simp [splitFrom]
    | cons d r ih =>
      intro piece
      rw [splitFrom]
      split
      · next hd =>
        obtain rfl := eq_of_beq hd
        obtain ⟨y, ys, hys⟩ := List.exists_cons_of_ne_nil (splitFrom_ne_nil (· == d) [] [] r)
        have hr := ih []
        rw [splitFrom_append, hys, List.reverse_singleton, List.singleton_append, List.intercalate_cons_cons]
        rw [hys] at hr
        simp [hr]
      · rw [ih]
        simp
  exact hfrom []

theorem words_append_cons {c : Char} (hc : isBlank c = true) (s r : List Char) :
    words (s ++ c :: r) = words s ++ words r := by
  rw [words, splitAtEach_append_cons hc, List.filter_append, words, words]

/-- A text without blanks is one word. -/
theorem words_of_free (hne : s ≠ []) (hs : ∀ c ∈ s, isBlank c = false) : words s = [s] := by
  rw [words, splitAtEach_of_free hs, List.filter_cons_of_pos (by simpa using hne), List.filter_nil]

end

/-! ## At the end -/

theorem dropEndWhile_concat (p : Char → Bool) (s : List Char) (c : Char) :
    dropEndWhile p (s ++ [c]) = if p c = true then dropEndWhile p s else s ++ [c] := by
  unfold dropEndWhile
  rw [List.reverse_append, List.reverse_singleton, List.singleton_append, List.dropWhile_cons]
  split
  · rfl
  · simp

theorem before?_append (tail s : List Char) : before? tail (s ++ tail) = some s := by
  rw [before?, List.reverse_append, after?_append, Option.map_some, List.reverse_reverse]

theorem trimEnd_append_blanks {b : List Char} (hb : b.all isBlank = true) (s : List Char) :
    trimEnd (s ++ b) = trimEnd s := by
  rw [trimEnd, trimEnd, dropEndWhile, dropEndWhile, List.reverse_append, List.dropWhile_append_of_pos]
  simpa using hb

theorem trimEnd_eq_self {s : List Char} {c : Char} (hlast : s.getLast? = some c) (hc : isBlank c = false) :
    trimEnd s = s := by
  obtain ⟨x, rfl⟩ := List.getLast?_eq_some_iff.1 hlast
  rw [trimEnd, dropEndWhile_concat, if_neg (by simp [hc])]

/-- Blanks around a text are dropped, and nothing else of it. -/
theorem trim_blanks {s b b' : List Char} (hb : b.all isBlank = true) (hb' : b'.all isBlank = true) {c d : Char}
    (hfirst : s.head? = some c) (hc : isBlank c = false) (hlast : s.getLast? = some d) (hd : isBlank d = false) :
    trim (b ++ (s ++ b')) = s := by
  have hstart : trimStart (b ++ (s ++ b')) = s ++ b' := by
    obtain ⟨x, rfl⟩ := List.head?_eq_some_iff.1 hfirst
    rw [trimStart, List.dropWhile_append_of_pos (by simpa using hb)]
    exact List.dropWhile_cons_of_neg (by simp [hc])
  rw [trim, hstart, trimEnd_append_blanks hb', trimEnd_eq_self hlast hd]

/-- What is left of a text whose blanks at the end are dropped ends with none. -/
theorem trimEnd_eq_nil_or_concat (s : List Char) :
    trimEnd s = [] ∨ ∃ kept c, trimEnd s = kept ++ [c] ∧ isBlank c = false := by
  unfold trimEnd dropEndWhile
  cases hdrop : s.reverse.dropWhile isBlank with
  | nil => exact .inl rfl
  | cons c r =>
    have hlast := List.head?_dropWhile_not isBlank s.reverse
    rw [hdrop] at hlast
    exact .inr ⟨r.reverse, c, List.reverse_cons, by simpa using hlast⟩

/-! ## At the last place of a character -/

theorem cutAtLast_eq_some {c : Char} {s a b : List Char} :
    cutAtLast c s = some (a, b) ↔ s = a ++ c :: b ∧ c ∉ b := by
  have hsplit : s.reverse = s.reverse.takeWhile (· != c) ++ s.reverse.dropWhile (· != c) :=
    List.takeWhile_append_dropWhile.symm
  constructor
  · intro h
    unfold cutAtLast at h
    split at h
    · cases h
    · next d before hdrop =>
      cases h
      have hd : d = c := by
        have hnot := List.head?_dropWhile_not (· != c) s.reverse
        simpa [hdrop] using hnot
      subst hd
      rw [hdrop] at hsplit
      refine ⟨?_, fun hmem => ?_⟩
      · have hrev := congrArg List.reverse hsplit
        simpa using hrev
      · have hne := List.all_eq_true.1 List.all_takeWhile d (List.mem_reverse.1 hmem)
        simp at hne
  · rintro ⟨rfl, hb⟩
    have htake : ∀ x ∈ b.reverse, (x != c) = true := by
      intro x hx
      simpa using fun h : x = c => hb (h ▸ List.mem_reverse.1 hx)
    unfold cutAtLast
    rw [List.reverse_append, List.reverse_cons, List.append_assoc,
      List.dropWhile_append_of_pos htake, List.takeWhile_append_of_pos htake]
    simp

theorem cutAtLast_eq_none {c : Char} {s : List Char} : cutAtLast c s = none ↔ c ∉ s := by
  constructor
  · intro h hmem
    obtain ⟨b, a, hs, hb⟩ := List.eq_append_cons_of_mem (List.mem_reverse.2 hmem)
    have hcut : cutAtLast c s = some (a.reverse, b.reverse) :=
      cutAtLast_eq_some.2 ⟨by simpa using congrArg List.reverse hs, by simpa using hb⟩
    rw [hcut] at h
    cases h
  · intro h
    cases hcut : cutAtLast c s with
    | none => rfl
    | some p =>
      obtain ⟨rfl, -⟩ := cutAtLast_eq_some.1 hcut
      simp at h

theorem baseName_eq_self {s : String} : baseName s = s ↔ '/' ∉ s.toList := by
  unfold baseName
  cases h : cutAtLast '/' s.toList with
  | none => simpa using cutAtLast_eq_none.1 h
  | some p =>
    obtain ⟨hs, hname⟩ := cutAtLast_eq_some.1 h
    have hmem : '/' ∈ s.toList := by simp [hs]
    refine ⟨fun heq => ?_, fun hnot => absurd hmem hnot⟩
    rwa [← heq, String.toList_ofList]

/-- A path is the name in it, behind its directory if it has one. -/
theorem exists_baseName (path : String) : '/' ∉ (baseName path).toList ∧
    (path = baseName path ∨ ∃ dir, path.toList = dir ++ '/' :: (baseName path).toList) := by
  unfold baseName
  cases h : cutAtLast '/' path.toList with
  | none => exact ⟨cutAtLast_eq_none.1 h, .inl rfl⟩
  | some p =>
    obtain ⟨hpath, hname⟩ := cutAtLast_eq_some.1 h
    simp only [String.toList_ofList]
    exact ⟨hname, .inr ⟨p.1, hpath⟩⟩

theorem extension_eq {s : String} {a ext : List Char} (h : s.toList = a ++ '.' :: ext) (hext : '.' ∉ ext) :
    extension s = String.ofList ext := by
  unfold extension
  rw [cutAtLast_eq_some.2 ⟨h, hext⟩]

theorem exists_extension {s : String} (h : extension s ≠ "") :
    ∃ a, s.toList = a ++ '.' :: (extension s).toList ∧ '.' ∉ (extension s).toList := by
  unfold extension at h ⊢
  cases hcut : cutAtLast '.' s.toList with
  | none => simp [hcut] at h
  | some p =>
    simp only [String.toList_ofList]
    exact ⟨p.1, cutAtLast_eq_some.1 hcut⟩

/-! ## After the first sentence -/

theorem trim_eq_self {s : List Char} (hfirst : ∀ c ∈ s.head?, isBlank c = false)
    (hlast : ∀ c ∈ s.getLast?, isBlank c = false) : trim s = s := by
  have hdrop : ∀ s : List Char, (∀ c ∈ s.head?, isBlank c = false) → s.dropWhile isBlank = s := by
    intro s hs
    cases s with
    | nil => rfl
    | cons c s => exact List.dropWhile_cons_of_neg (by simp [hs c rfl])
  rw [trim, trimStart, hdrop s hfirst, trimEnd, dropEndWhile, hdrop s.reverse (by rwa [List.head?_reverse]),
    List.reverse_reverse]

/-- A text is cut no later than at any place of the needle. -/
theorem exists_cutFrom (needle before x y : List Char) :
    ∃ a b, cutFrom needle before (x ++ (needle ++ y)) = some (a, b) ∧ a.length ≤ before.length + x.length := by
  induction x generalizing before with
  | nil =>
    have hhere := after?_append needle y
    rw [List.nil_append]
    cases hs : needle ++ y with
    | nil =>
      rw [hs] at hhere
      exact ⟨before, y, by rw [cutFrom, hhere]; rfl, Nat.le_refl _⟩
    | cons c r =>
      rw [hs] at hhere
      exact ⟨before, y, by rw [cutFrom, hhere], Nat.le_refl _⟩
  | cons c x ih =>
    rw [List.cons_append, cutFrom]
    cases after? needle (c :: (x ++ (needle ++ y))) with
    | some rest => exact ⟨before, rest, rfl, by simp⟩
    | none =>
      obtain ⟨a, b, hcut, hlength⟩ := ih (c :: before)
      refine ⟨a, b, hcut, ?_⟩
      rw [List.length_cons] at hlength ⊢
      omega

/-- The first sentence is no longer than what precedes some full stop before a blank. -/
theorem length_firstSentence {s : String} {x y : List Char} (htrim : trim s.toList = s.toList)
    (hs : s.toList = x ++ ('.' :: ' ' :: y)) : (firstSentence s).toList.length ≤ x.length + 1 := by
  obtain ⟨a, b, hcut, hlength⟩ := exists_cutFrom ". ".toList [] x y
  have hcutAt : cutAt ". ".toList (trim s.toList) = some (a.reverse, b) := by
    rw [htrim, hs, cutAt]
    exact congrArg (Option.map _) hcut
  unfold firstSentence
  rw [hcutAt]
  simpa using hlength

/-- Where the first full stop comes before a blank, the first sentence ends. -/
theorem toList_firstSentence {s : String} {x y : List Char} (htrim : trim s.toList = s.toList)
    (hs : s.toList = x ++ ('.' :: ' ' :: y)) (hx : '.' ∉ x) : (firstSentence s).toList = x ++ ['.'] := by
  obtain ⟨a, b, hcut, hlength⟩ := exists_cutFrom ". ".toList [] x y
  have hcutAt : cutAt ". ".toList s.toList = some (a.reverse, b) := by
    rw [hs, cutAt]
    exact congrArg (Option.map _) hcut
  have heq : x ++ ('.' :: ' ' :: y) = a.reverse ++ '.' :: ' ' :: b := by
    simpa [hs] using eq_of_cutAt hcutAt
  obtain ⟨z, hz, -⟩ := exists_of_notMem_left heq hx
  have hshort : z.length = 0 := by
    have hsum := congrArg List.length hz
    rw [List.length_reverse, List.length_append] at hsum
    rw [List.length_nil] at hlength
    omega
  unfold firstSentence
  rw [htrim, hcutAt, hz, List.eq_nil_of_length_eq_zero hshort, List.append_nil, String.toList_ofList]

/-- The first sentence of a text that ends with a full stop: the beginning of it, up to a full stop. -/
theorem exists_firstSentence {s : String} {c q : Char} {o z : List Char} (hc : isBlank c = false)
    (hs : s.toList = (c :: o) ++ q :: (z ++ ['.'])) (ho : '.' ∉ (c :: o) ++ [q]) :
    ∃ y, (firstSentence s).toList = (c :: o) ++ q :: (y ++ ['.']) ∧ (y ++ ['.']) <+: (z ++ ['.']) := by
  have htrim : trim s.toList = s.toList := by
    refine trim_eq_self (fun d hd => ?_) fun d hd => ?_
    · rw [hs, List.cons_append, List.head?_cons, Option.mem_some_iff] at hd
      exact hd ▸ hc
    · have hend : (c :: o) ++ q :: (z ++ ['.']) = ((c :: o) ++ q :: z) ++ ['.'] := by simp
      rw [hs, hend, List.getLast?_concat, Option.mem_some_iff] at hd
      subst hd
      decide
  unfold firstSentence
  rw [htrim]
  cases hcut : cutAt ". ".toList s.toList with
  | none => exact ⟨z, by rw [trimmed, String.toList_ofList, htrim, hs], List.prefix_rfl⟩
  | some p =>
    obtain ⟨a, b⟩ := p
    have heq := eq_of_cutAt hcut
    rw [hs] at heq
    have heq' : ((c :: o) ++ [q]) ++ (z ++ ['.']) = a ++ '.' :: ' ' :: b := by simpa using heq
    obtain ⟨y, rfl, hy⟩ := exists_of_notMem_left heq' ho
    refine ⟨y, by simp, ' ' :: b, ?_⟩
    rw [hy]
    simp

end BuildLoop.Text
