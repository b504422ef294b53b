import BuildLoop.Proofs.Text.LetterCase
import BuildLoop.Proofs.Text.Replace

/-!
# Markup

What pages are made of: plain characters, tags that link nothing, and links of stylesheets and scripts.
Places are filled within the plain characters, so that a page with its places filled is markup again:

    Markup P n s, Markup Q m new   →   replace needle new s is markup with the links of both
                                                                                     (Markup.replace)

Of the plain characters `n` are underscores; each place takes four of them, which bounds how many places
there are and how long the text becomes.
-/

namespace BuildLoop.Scaffold

open Text

/-! ## Targets -/

/-- A character of a target. -/
def isTargetChar (c : Char) : Bool := c.isAlphanum || c == '_' || c == '-' || c == '.' || c == '/'

/-- A path as pages link it, which says itself where it begins. -/
structure IsTarget (f : List Char) : Prop where
  nonempty : f ≠ []
  chars : ∀ c ∈ f, isTargetChar c = true
  here : ¬ "./".toList <+: f

theorem IsTarget.notMem {f : List Char} (h : IsTarget f) {c : Char} (hc : isTargetChar c = false) : c ∉ f :=
  fun hmem => by
    rw [h.chars c hmem] at hc
    cases hc

theorem IsTarget.ascii {f : List Char} (h : IsTarget f) : ∀ c ∈ f, c.toNat < 128 := by
  intro c hc
  have hchar := h.chars c hc
  simp only [isTargetChar, Bool.or_eq_true, beq_iff_eq] at hchar
  rcases hchar with (((hchar | rfl) | rfl) | rfl) | rfl
  · exact toNat_lt_of_isAlphanum hchar
  all_goals decide

/-! ## Texts of pages -/

/-- A character that opens no tag, stands for no text left out and ends no sentence. -/
def isPlain (c : Char) : Bool := c != '<' && c != '[' && c != '.'

/-- The first character of a tag that links nothing. -/
def isInert (c : Char) : Bool := c == '!' || (c.isAlpha && c.toLower != 'l' && c.toLower != 's')

/-- A plain character that may follow a full stop. -/
def isJoined (c : Char) : Bool := isPlain c && c != '_' && c != ' '

/-- What precedes and what follows the target of a stylesheet's link, without the quote. -/
def linkStart : List Char := "<link rel=\"stylesheet\" href=\"".toList
def linkEnd : List Char := ['>']

/-- What precedes and what follows the target of a script, without the quote. -/
def scriptStart : List Char := "<script src=\"".toList
def scriptEnd : List Char := "></script>".toList

/-- What markup is made of, with the number of underscores among its plain characters. -/
inductive Piece (P : List Char → Prop) : Nat → List Char → Prop
  | plain {c : Char} (hc : isPlain c = true) : Piece P (if c = '_' then 1 else 0) [c]
  | dot {c : Char} (hc : isJoined c = true) : Piece P 0 ['.', c]
  | opening {c : Char} (hc : isInert c = true) : Piece P 0 ['<', c]
  | closing {c : Char} (hc : isInert c = true) : Piece P 0 ['<', '/', c]
  | link {f : List Char} (hf : P f) : Piece P 0 (linkStart ++ (f ++ '"' :: linkEnd))
  | script {f : List Char} (hf : P f) : Piece P 0 (scriptStart ++ (f ++ '"' :: scriptEnd))

/-- Text with links to targets that satisfy `P` and `n` underscores among its plain characters. -/
inductive Markup (P : List Char → Prop) : Nat → List Char → Prop
  | nil : Markup P 0 []
  | cons {k n : Nat} {u s : List Char} (hu : Piece P k u) (h : Markup P n s) : Markup P (k + n) (u ++ s)

variable {P Q : List Char → Prop} {k n m : Nat} {s t f u : List Char} {c : Char}

theorem of_isJoined (hc : isJoined c = true) : isPlain c = true ∧ c ≠ '_' ∧ c ≠ ' ' := by
  simpa [isJoined, and_assoc] using hc

theorem of_isInert (hc : isInert c = true) :
    isPlain c = true ∧ c ≠ '_' ∧ c.toNat < 128 ∧ c.toLower ∉ ['l', 's', '/', '<'] := by
  have hascii : c.toNat < 128 := by
    simp only [isInert, Bool.or_eq_true, Bool.and_eq_true, beq_iff_eq] at hc
    rcases hc with rfl | hc
    · decide
    · exact toNat_lt_of_isAlphanum (by simp [Char.isAlphanum, hc.1.1])
  obtain ⟨hplain, hmark, hlower⟩ := of_codes (P := fun c => isInert c = true →
    isPlain c = true ∧ c ≠ '_' ∧ c.toLower ∉ ['l', 's', '/', '<']) (by decide) hascii hc
  exact ⟨hplain, hmark, hascii, hlower⟩

theorem Piece.mono (h : Piece P k u) (hPQ : ∀ f, P f → Q f) : Piece Q k u := by
  cases h with
  | plain hc => exact .plain hc
  | dot hc => exact .dot hc
  | opening hc => exact .opening hc
  | closing hc => exact .closing hc
  | link hf => exact .link (hPQ _ hf)
  | script hf => exact .script (hPQ _ hf)

theorem Piece.ne_nil (h : Piece P k u) : u ≠ [] := by
  cases h <;> exact List.cons_ne_nil _ _

/-- A piece that begins with a plain character is that character. -/
theorem Piece.eq_of_plain (hc : isPlain c = true) (h : Piece P k (c :: u)) :
    u = [] ∧ k = if c = '_' then 1 else 0 := by
  have hne : ∀ d, isPlain d = false → c ≠ d := by
    rintro d hd rfl
    rw [hc] at hd
    cases hd
  generalize hx : c :: u = x at h
  cases h with
  | plain _ =>
    obtain ⟨rfl, rfl⟩ := List.cons.inj hx
    exact ⟨rfl, rfl⟩
  | dot => exact absurd (List.cons.inj hx).1 (hne '.' rfl)
  | opening | closing | link | script => exact absurd (List.cons.inj hx).1 (hne '<' rfl)

namespace Markup

theorem mono (h : Markup P n s) (hPQ : ∀ f, P f → Q f) : Markup Q n s := by
  induction h with
  | nil => exact .nil
  | cons hu _ ih => exact .cons (hu.mono hPQ) ih

theorem append (h : Markup P n s) (ht : Markup P m t) : Markup P (n + m) (s ++ t) := by
  induction h with
  | nil => rwa [Nat.zero_add]
  | cons hu _ ih =>
    rw [Nat.add_assoc, List.append_assoc]
    exact .cons hu ih

theorem of_piece (h : Piece P k u) : Markup P k u := by
  simpa using Markup.cons h .nil

/-- Plain characters are markup. -/
theorem of_plain (h : ∀ c ∈ s, isPlain c = true) : Markup P (s.count '_') s := by
  induction s with
  | nil => exact .nil
  | cons c s ih =>
    rw [List.count_cons, Nat.add_comm]
    simp only [beq_iff_eq]
    exact .cons (.plain (h c List.mem_cons_self)) (ih fun d hd => h d (List.mem_cons_of_mem _ hd))

theorem of_cons (hc : isPlain c = true) (h : Markup P n (c :: s)) :
    ∃ n', Markup P n' s ∧ n = (if c = '_' then 1 else 0) + n' := by
  generalize hx : c :: s = x at h
  cases h with
  | nil => cases hx
  | @cons k n u t hu h =>
    obtain ⟨d, u, rfl⟩ := List.exists_cons_of_ne_nil hu.ne_nil
    obtain ⟨rfl, rfl⟩ := List.cons.inj hx
    obtain ⟨rfl, rfl⟩ := hu.eq_of_plain hc
    exact ⟨n, h, rfl⟩

/-- What follows plain characters in markup is markup. -/
theorem of_append (hu : ∀ c ∈ u, isPlain c = true) (h : Markup P n (u ++ s)) :
    ∃ n', Markup P n' s ∧ n = u.count '_' + n' := by
  induction u generalizing n with
  | nil => exact ⟨n, h, (Nat.zero_add n).symm⟩
  | cons c u ih =>
    obtain ⟨n₁, h₁, rfl⟩ := of_cons (hu c List.mem_cons_self) h
    obtain ⟨n₂, h₂, rfl⟩ := ih (fun d hd => hu d (List.mem_cons_of_mem _ hd)) h₁
    refine ⟨n₂, h₂, ?_⟩
    simp only [List.count_cons, beq_iff_eq]
    omega

end Markup

/-! ## Filling places -/

/-- Whether a text is what becomes of a target. -/
def Filled (needle new : List Char) (P : List Char → Prop) (f : List Char) : Prop := ∃ g, P g ∧ f = replace needle new g

/-- A text that marks a place to be filled. -/
structure IsPlace (needle : List Char) : Prop where
  chars : ∀ c ∈ needle, isPlain c = true ∧ c ≠ '"'
  starts : needle.head? = some '_'
  ends : needle.getLast? = some '_'
  marked : 4 ≤ needle.count '_'

section
variable {needle new : List Char} (hneedle : IsPlace needle)
include hneedle

theorem IsPlace.exists_cons : ∃ w, needle = '_' :: w := by
  have hstarts := hneedle.starts
  cases needle with
  | nil => cases hstarts
  | cons c w => exact ⟨w, by rw [Option.some.inj hstarts]⟩

theorem IsPlace.ne_nil : needle ≠ [] := by
  obtain ⟨w, rfl⟩ := hneedle.exists_cons
  exact List.cons_ne_nil _ _

theorem replace_markless (hu : '_' ∉ u) (t : List Char) :
    replace needle new (u ++ t) = u ++ replace needle new t := by
  obtain ⟨w, rfl⟩ := hneedle.exists_cons
  exact replace_append_left hu t

theorem replace_asset {a b : List Char} (ha : '_' ∉ a) (hb : '_' ∉ b) (t : List Char) :
    replace needle new (a ++ (f ++ '"' :: b) ++ t) =
      a ++ (replace needle new f ++ '"' :: b) ++ replace needle new t := by
  have hquote : '"' ∉ needle := fun hmem => (hneedle.chars _ hmem).2 rfl
  rw [List.append_assoc, List.append_assoc, replace_markless hneedle ha, List.cons_append,
    replace_append_cons hneedle.ne_nil hquote, replace_markless hneedle hb, List.append_assoc, List.append_assoc]
  rfl

/-- A place starts at a plain character or within a target, which becomes another one. -/
theorem Piece.replace_append (new : List Char) (h : Piece P k u) (hplain : ∀ c, u = [c] → ¬ needle <+: c :: t) :
    ∃ u', Piece (Filled needle new P) k u' ∧ replace needle new (u ++ t) = u' ++ replace needle new t ∧
      ((∀ f, P f → ¬ needle <:+: f) → u' = u) := by
  cases h with
  | plain hc => exact ⟨_, .plain hc, replace_cons_of_not (hplain _ rfl), fun _ => rfl⟩
  | dot hc =>
    have hmark := (of_isJoined hc).2.1.symm
    exact ⟨_, .dot hc, replace_markless hneedle (by simp [hmark]) t, fun _ => rfl⟩
  | opening hc =>
    have hmark := (of_isInert hc).2.1.symm
    exact ⟨_, .opening hc, replace_markless hneedle (by simp [hmark]) t, fun _ => rfl⟩
  | closing hc =>
    have hmark := (of_isInert hc).2.1.symm
    exact ⟨_, .closing hc, replace_markless hneedle (by simp [hmark]) t, fun _ => rfl⟩
  | link hf =>
    exact ⟨_, .link ⟨_, hf, rfl⟩, replace_asset hneedle (by decide) (by decide) t, fun hP => by
      rw [replace_eq_self (hP _ hf)]⟩
  | script hf =>
    exact ⟨_, .script ⟨_, hf, rfl⟩, replace_asset hneedle (by decide) (by decide) t, fun hP => by
      rw [replace_eq_self (hP _ hf)]⟩

/-- Markup with its places filled by markup is markup. There are `p` places outside the targets. -/
theorem Markup.replace (hnew : Markup Q m new) (h : Markup P n s) :
    ∃ p n', Markup (fun f => Filled needle new P f ∨ Q f) n' (Text.replace needle new s) ∧ 4 * p ≤ n ∧
      4 * p + n' ≤ n + p * m ∧ ((∀ f, P f → ¬ needle <:+: f) →
        (Text.replace needle new s).length ≤ s.length + p * new.length) := by
  have hpos := List.length_pos_of_ne_nil hneedle.ne_nil
  generalize hlen : s.length = l
  induction l using Nat.strong_induction_on generalizing n s with
  | _ l ih =>
    subst hlen
    by_cases hplace : needle <+: s
    · obtain ⟨rest, rfl⟩ := hplace
      rw [List.length_append] at ih ⊢
      obtain ⟨n', h', hn'⟩ := h.of_append fun d hd => (hneedle.chars d hd).1
      obtain ⟨p, k, hk, hplaces, hcount, hlength⟩ := ih _ (by omega) h' rfl
      have hmarked := hneedle.marked
      rw [replace_needle hneedle.ne_nil]
      refine ⟨p + 1, m + k, (hnew.mono fun _ => .inr).append hk, by omega, ?_, fun hP => ?_⟩
      · rw [Nat.add_mul]
        omega
      · have := hlength hP
        rw [List.length_append, Nat.add_mul]
        omega
    · cases h with
      | nil => exact ⟨0, 0, .nil, by simp, by simp, by simp⟩
      | @cons k n u t hu h =>
        have hu' := List.length_pos_of_ne_nil hu.ne_nil
        rw [List.length_append] at ih ⊢
        obtain ⟨p, n', hn', hplaces, hcount, hlength⟩ := ih t.length (by omega) h rfl
        have hfirst : ∀ c, u = [c] → ¬ needle <+: c :: t := fun c hc => by rwa [hc] at hplace
        obtain ⟨u', hpiece, hreplace, hsame⟩ := hu.replace_append hneedle new hfirst
        rw [hreplace]
        refine ⟨p, k + n', .cons (hpiece.mono fun _ => .inl) hn', by omega, by omega, fun hP => ?_⟩
        have := hlength hP
        rw [List.length_append, hsame hP]
        omega

end

/-! ## Signs of text left out and scripts -/

/-- The tags of scripts in lower case. -/
def scriptOpened : List Char := ['<', 's', 'c', 'r', 'i', 'p', 't']
def scriptClosed : List Char := ['<', '/', 's', 'c', 'r', 'i', 'p', 't', '>']

/-- Whether `k` more scripts end than begin. -/
def Excess (k : Nat) (t : List Char) : Prop := count scriptClosed t = count scriptOpened t + k

theorem excess_append (hu : '<' ∉ u) (h : Excess k t) : Excess k (u ++ t) := by
  rw [Excess, scriptOpened, scriptClosed, count_append_left hu, count_append_left hu]
  exact h

theorem excess_tag (hopen : ¬ scriptOpened <+: '<' :: t) (hclose : ¬ scriptClosed <+: '<' :: t) (h : Excess k t) :
    Excess k ('<' :: t) := by
  rw [Excess, count_cons_of_not hopen, count_cons_of_not hclose]
  exact h

theorem excess_opened (h : Excess (k + 1) t) : Excess k (scriptOpened ++ t) := by
  have hopen : count scriptOpened (scriptOpened ++ t) = count scriptOpened t + 1 := count_needle (by decide) t
  have hclose : count scriptClosed (scriptOpened ++ t) = count scriptClosed t := by
    rw [scriptOpened, List.cons_append, count_cons_of_not (by simp [scriptClosed]), scriptClosed,
      count_append_left (by decide)]
  unfold Excess at h ⊢
  omega

theorem excess_closed (h : Excess k t) : Excess (k + 1) (scriptClosed ++ t) := by
  have hclose : count scriptClosed (scriptClosed ++ t) = count scriptClosed t + 1 := count_needle (by decide) t
  have hopen : count scriptOpened (scriptClosed ++ t) = count scriptOpened t := by
    rw [scriptClosed, List.cons_append, count_cons_of_not (by simp [scriptOpened]), scriptOpened,
      count_append_left (by decide)]
  unfold Excess at h ⊢
  omega

/-- What can stand in a link: behind it no sentence has ended but with it, and scripts that begin in it end. -/
structure IsFilling (f : List Char) : Prop where
  bracketless : '[' ∉ f
  unended : ∀ {x : Char} {s : List Char}, x ≠ ' ' → ['.', ' ', x] <:+: f ++ '"' :: s → ['.', ' ', x] <:+: s
  excess : ∀ {k : Nat} {s x : List Char}, Lowered (f ++ s) x → (∀ t, Lowered s t → Excess k t) → Excess k x

/-- In lower case a character that opens no tag opens none. -/
theorem lowered_plain {x : List Char} (hc : c ≠ '<') (hx : Lowered (c :: s) x) :
    ∃ cs t, x = cs ++ t ∧ '<' ∉ cs ∧ Lowered s t := by
  cases hx with
  | @ascii _ _ t hascii h =>
    refine ⟨[c.toLower], t, rfl, ?_, h⟩
    exact of_codes (P := fun c => c ≠ '<' → '<' ∉ [c.toLower]) (by decide) hascii hc
  | @beyond _ cs _ t _ hcs h =>
    refine ⟨cs, t, rfl, fun hmem => ?_, h⟩
    have := hcs _ hmem
    revert this
    decide

theorem excess_plain {x : List Char} (hc : c ≠ '<') (hx : Lowered (c :: s) x) (hs : ∀ t, Lowered s t → Excess k t) :
    Excess k x := by
  obtain ⟨cs, t, rfl, hcs, ht⟩ := lowered_plain hc hx
  exact excess_append hcs (hs t ht)

theorem ne_of_isPlain {d : Char} (hc : isPlain c = true) (hd : isPlain d = false) : c ≠ d := by
  rintro rfl
  rw [hc] at hd
  cases hd

section
variable (hP : ∀ f, P f → IsFilling f)
include hP

theorem Piece.bracket_notMem (h : Piece P k u) : '[' ∉ u := by
  have hne : ∀ {c : Char}, isPlain c = true → '[' ≠ c := fun hc => (ne_of_isPlain hc rfl).symm
  cases h with
  | plain hc => simpa using hne hc
  | dot hc => simpa using hne (of_isJoined hc).1
  | opening hc | closing hc => simpa using hne (of_isInert hc).1
  | link hf =>
    have hstart : '[' ∉ linkStart := by decide
    simpa [hstart, linkEnd] using (hP _ hf).bracketless
  | script hf =>
    have hstart : '[' ∉ scriptStart := by decide
    have hend : '[' ∉ scriptEnd := by decide
    simpa [hstart, hend] using (hP _ hf).bracketless

theorem Markup.bracket_notMem (h : Markup P n s) : '[' ∉ s := by
  induction h with
  | nil => exact List.not_mem_nil
  | cons hu _ ih =>
    rw [List.mem_append, not_or]
    exact ⟨hu.bracket_notMem hP, ih⟩

/-- No sentence ends across the start of what follows a piece, or within a piece. -/
theorem Piece.unended {x : Char} (h : Piece P k u) (hx : x ≠ ' ') (hs : ['.', ' ', x] <:+: u ++ s) :
    ['.', ' ', x] <:+: s := by
  have hasset : ∀ {a f b : List Char}, P f → '.' ∉ a → '.' ∉ b → ['.', ' ', x] <:+: a ++ (f ++ '"' :: b) ++ s →
      ['.', ' ', x] <:+: s := by
    intro a f b hf ha hb hs
    rw [List.append_assoc, List.append_assoc, List.cons_append] at hs
    exact infix_of_append_left hb ((hP f hf).unended hx (infix_of_append_left ha hs))
  have hplain : ∀ {c : Char}, isPlain c = true → '.' ≠ c := fun hc => (ne_of_isPlain hc rfl).symm
  cases h with
  | @plain c hc => exact infix_of_append_left (x := [c]) (by simpa using hplain hc) hs
  | @dot c hc =>
    obtain ⟨hc, -, hblank⟩ := of_isJoined hc
    rcases List.infix_cons_iff.1 hs with hs | hs
    · exact absurd (List.cons_prefix_cons.1 (List.cons_prefix_cons.1 hs).2).1.symm hblank
    · exact infix_of_append_left (x := [c]) (by simpa using hplain hc) hs
  | @opening c hc =>
    exact infix_of_append_left (x := ['<', c]) (by simpa using hplain (of_isInert hc).1) hs
  | @closing c hc =>
    exact infix_of_append_left (x := ['<', '/', c]) (by simpa using hplain (of_isInert hc).1) hs
  | link hf => exact hasset hf (by decide) (by decide) hs
  | script hf => exact hasset hf (by decide) (by decide) hs

theorem Markup.unended {x : Char} (h : Markup P n u) (hx : x ≠ ' ') (hs : ['.', ' ', x] <:+: u ++ s) :
    ['.', ' ', x] <:+: s := by
  induction h with
  | nil => exact hs
  | cons hu _ ih =>
    rw [List.append_assoc] at hs
    exact ih (hu.unended hP hx hs)

theorem Piece.excess {m : Nat} {x : List Char} (h : Piece P k u) (hx : Lowered (u ++ s) x)
    (hs : ∀ t, Lowered s t → Excess m t) : Excess m x := by
  cases h with
  | plain hc => exact excess_plain (ne_of_isPlain hc rfl) hx hs
  | dot hc =>
    exact excess_plain (by decide) hx fun t ht => excess_plain (ne_of_isPlain (of_isJoined hc).1 rfl) ht hs
  | @opening c hc =>
    obtain ⟨-, -, hascii, hlower⟩ := of_isInert hc
    obtain ⟨t, rfl, ht⟩ := Lowered.ascii_append (u := ['<', c]) (by simpa using hascii) hx
    simp only [List.mem_cons, List.not_mem_nil, or_false, not_or] at hlower
    refine excess_tag ?_ ?_ (excess_append (u := [c.toLower]) (by simpa using Ne.symm hlower.2.2.2) (hs t ht))
    · simpa [scriptOpened] using fun h => absurd h.symm hlower.2.1
    · simpa [scriptClosed] using fun h => absurd h.symm hlower.2.2.1
  | @closing c hc =>
    obtain ⟨-, -, hascii, hlower⟩ := of_isInert hc
    obtain ⟨t, rfl, ht⟩ := Lowered.ascii_append (u := ['<', '/', c]) (by simpa using hascii) hx
    simp only [List.mem_cons, List.not_mem_nil, or_false, not_or] at hlower
    refine excess_tag ?_ ?_ (excess_append (u := ['/', c.toLower]) (by simpa using Ne.symm hlower.2.2.2) (hs t ht))
    · simp [scriptOpened]
    · simpa [scriptClosed] using fun h => absurd h.symm hlower.2.1
  | @link f hf =>
    rw [List.append_assoc] at hx
    obtain ⟨t, rfl, ht⟩ := hx.ascii_append (List.all_iff_forall_prop.1 (by decide))
    have hstart : linkStart.map Char.toLower = '<' :: 'l' :: linkStart.tail.tail := by decide
    rw [hstart]
    refine excess_tag (by simp [scriptOpened]) (by simp [scriptClosed]) ?_
    refine excess_append (u := 'l' :: linkStart.tail.tail) (by decide) ?_
    rw [List.append_assoc] at ht
    refine (hP f hf).excess ht fun t ht => ?_
    exact excess_plain (by decide) ht fun t ht => excess_plain (by decide) ht hs
  | @script f hf =>
    rw [List.append_assoc] at hx
    obtain ⟨t, rfl, ht⟩ := hx.ascii_append (List.all_iff_forall_prop.1 (by decide))
    have hstart : scriptStart.map Char.toLower = scriptOpened ++ [' ', 's', 'r', 'c', '=', '"'] := by decide
    rw [hstart, List.append_assoc]
    refine excess_opened (excess_append (by decide) ?_)
    rw [List.append_assoc] at ht
    refine (hP f hf).excess ht fun t ht => ?_
    obtain ⟨t', rfl, ht'⟩ := ht.ascii_append (List.all_iff_forall_prop.1 (by decide))
    have hend : ('"' :: scriptEnd).map Char.toLower = ['"', '>'] ++ scriptClosed := by decide
    rw [hend, List.append_assoc]
    exact excess_append (by decide) (excess_closed (hs t' ht'))

theorem Markup.excess {m : Nat} {x : List Char} (h : Markup P n u) (hx : Lowered (u ++ s) x)
    (hs : ∀ t, Lowered s t → Excess m t) : Excess m x := by
  induction h generalizing x with
  | nil => exact hs x hx
  | cons hu _ ih =>
    rw [List.append_assoc] at hx
    exact hu.excess hP hx fun t ht => ih ht

end

/-! ## What stands in links -/

/-- A character of a path: of a target, or beyond ASCII. -/
def isLinkChar (c : Char) : Bool := decide (128 ≤ c.toNat) || isTargetChar c

theorem ne_of_isLinkChar {d : Char} (hc : isLinkChar c = true) (hd : isLinkChar d = false) : c ≠ d := by
  rintro rfl
  rw [hc] at hd
  cases hd

/-- A path can stand in a link, and so can what it becomes when markup of its own lines is put in its places. -/
theorem isFilling_replace {needle new : List Char} (hne : needle ≠ []) (hf : ∀ c ∈ f, isLinkChar c = true)
    (hQ : ∀ f, Q f → IsFilling f) (hnew : Markup Q m new) (hstart : new = [] ∨ ∃ r, new = ' ' :: ' ' :: r) :
    IsFilling (Text.replace needle new f) := by
  have hblank : ∀ {x : Char} {f s : List Char}, (∀ c ∈ f, isLinkChar c = true) →
      [' ', x] <+: Text.replace needle new f ++ '"' :: s → x = ' ' := by
    intro x f s hf hnext
    induction f using placesRec hne with
    | nil => exact absurd (List.cons_prefix_cons.1 hnext).1 (by decide)
    | place r ih =>
      rw [replace_needle hne, List.append_assoc] at hnext
      rcases hstart with rfl | ⟨t, rfl⟩
      · exact ih (fun c hc => hf c (List.mem_append_right _ hc)) hnext
      · exact (List.cons_prefix_cons.1 (List.cons_prefix_cons.1 hnext).2).1
    | other c r h _ =>
      rw [replace_cons_of_not h] at hnext
      exact absurd (List.cons_prefix_cons.1 hnext).1.symm (ne_of_isLinkChar (hf c List.mem_cons_self) rfl)
  constructor
  case bracketless =>
    intro hmem
    rcases mem_replace hne hmem with hmem | hmem
    · exact hnew.bracket_notMem hQ hmem
    · exact ne_of_isLinkChar (hf _ hmem) rfl rfl
  case unended =>
    intro x s hx hs
    induction f using placesRec hne with
    | nil => exact infix_of_append_left (x := ['"']) (by decide) hs
    | place r ih =>
      rw [replace_needle hne, List.append_assoc] at hs
      exact ih (fun c hc => hf c (List.mem_append_right _ hc)) (hnew.unended hQ hx hs)
    | other c r h ih =>
      have hr : ∀ c ∈ r, isLinkChar c = true := fun d hd => hf d (List.mem_cons_of_mem c hd)
      rw [replace_cons_of_not h, List.cons_append] at hs
      rcases List.infix_cons_iff.1 hs with hs | hs
      · exact absurd (hblank hr (List.cons_prefix_cons.1 hs).2) hx
      · exact ih hr hs
  case excess =>
    intro k s x hx hs
    induction f using placesRec hne generalizing x with
    | nil => exact hs x hx
    | place r ih =>
      rw [replace_needle hne, List.append_assoc] at hx
      exact hnew.excess hQ hx fun t ht => ih (fun c hc => hf c (List.mem_append_right _ hc)) ht
    | other c r h ih =>
      rw [replace_cons_of_not h] at hx
      exact excess_plain (ne_of_isLinkChar (hf c List.mem_cons_self) rfl) hx fun t ht =>
        ih (fun d hd => hf d (List.mem_cons_of_mem c hd)) ht

theorem isFilling_of_chars (hf : ∀ c ∈ f, isLinkChar c = true) : IsFilling f := by
  -- a path without a place is left as it is
  have hplace : ¬ ['"'] <:+: f := not_infix_of_mem List.mem_cons_self fun hmem => ne_of_isLinkChar (hf _ hmem) rfl rfl
  have hne : ['"'] ≠ [] := List.cons_ne_nil _ _
  have h := isFilling_replace (Q := fun _ => False) hne hf (fun _ => False.elim) .nil (.inl rfl)
  rwa [replace_eq_self hplace] at h

/-! ## Tags -/

/-- What may follow the start of a tag. -/
inductive Tagged (P : List Char → Prop) : List Char → Prop
  | inert {c : Char} {s : List Char} (hc : isInert c = true ∨ c = '/') : Tagged P (c :: s)
  | link {f s : List Char} (hf : P f) : Tagged P (linkStart.tail ++ (f ++ '"' :: linkEnd) ++ s)
  | script {f s : List Char} (hf : P f) : Tagged P (scriptStart.tail ++ (f ++ '"' :: scriptEnd) ++ s)

section
variable (hP : ∀ f, P f → '<' ∉ f)
include hP

theorem Piece.tagged {a b : List Char} (h : Piece P k u) (hs : u ++ s = a ++ '<' :: b) :
    Tagged P b ∨ ∃ a', s = a' ++ '<' :: b := by
  -- past a start of a tag, no other one lies in the piece
  have hpast : ∀ {v : List Char}, '<' ∉ v → ∀ {a}, v ++ s = a ++ '<' :: b → ∃ a', s = a' ++ '<' :: b := by
    intro v hv a hs
    obtain ⟨a', -, ha'⟩ := exists_of_notMem_left hs hv
    exact ⟨a', ha'⟩
  have htag : ∀ {v : List Char}, '<' ∉ v → Tagged P (v ++ s) → ∀ {a}, '<' :: v ++ s = a ++ '<' :: b →
      Tagged P b ∨ ∃ a', s = a' ++ '<' :: b := by
    intro v hv htagged a hs
    cases a with
    | nil =>
      obtain ⟨-, rfl⟩ := List.cons.inj hs
      exact .inl htagged
    | cons d a => exact .inr (hpast hv (List.cons.inj hs).2)
  have hplain : ∀ {c : Char}, isPlain c = true → '<' ≠ c := by
    rintro c hc rfl
    cases hc
  cases h with
  | @plain c hc => exact .inr (hpast (v := [c]) (by simpa using hplain hc) hs)
  | @dot c hc => exact .inr (hpast (v := ['.', c]) (by simpa using hplain (of_isJoined hc).1) hs)
  | @opening c hc =>
    exact htag (v := [c]) (by simpa using hplain (of_isInert hc).1) (.inert (.inl hc)) hs
  | @closing c hc =>
    exact htag (v := ['/', c]) (by simpa using hplain (of_isInert hc).1) (.inert (.inr rfl)) hs
  | @link f hf =>
    refine htag (v := linkStart.tail ++ (f ++ '"' :: linkEnd)) ?_ (.link hf) hs
    rw [List.mem_append, List.mem_append, not_or, not_or]
    exact ⟨by decide, hP f hf, by decide⟩
  | @script f hf =>
    cases a with
    | nil =>
      obtain ⟨-, rfl⟩ := List.cons.inj hs
      exact .inl (.script hf)
    | cons d a =>
      -- the only other start of a tag in the piece is that of the script's end
      have hend : '"' :: scriptEnd = ['"', '>'] ++ '<' :: '/' :: scriptEnd.drop 3 := by decide
      have hfree : '<' ∉ scriptStart.tail ++ (f ++ ['"', '>']) := by
        rw [List.mem_append, List.mem_append, not_or, not_or]
        exact ⟨by decide, hP f hf, by decide⟩
      have hs' : (scriptStart.tail ++ (f ++ ['"', '>'])) ++ ('<' :: ('/' :: scriptEnd.drop 3) ++ s) =
          a ++ '<' :: b := by
        have htail : scriptStart.tail ++ (f ++ '"' :: scriptEnd) ++ s = a ++ '<' :: b := (List.cons.inj hs).2
        rw [← htail, hend]
        simp
      obtain ⟨a', -, ha'⟩ := exists_of_notMem_left hs' hfree
      exact htag (v := '/' :: scriptEnd.drop 3) (by decide) (.inert (.inr rfl)) ha'

theorem Markup.tagged {a b : List Char} (h : Markup P n s) (hs : s = a ++ '<' :: b) : Tagged P b := by
  induction h generalizing a with
  | nil => simp at hs
  | cons hu _ ih =>
    rcases hu.tagged hP hs with hb | ⟨a', hs⟩
    · exact hb
    · exact ih hs

end

end BuildLoop.Scaffold
