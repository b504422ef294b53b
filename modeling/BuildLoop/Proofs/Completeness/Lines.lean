import Mathlib.Data.List.Find
import BuildLoop.Proofs.Completeness.Lexeme
import BuildLoop.Proofs.Text.Occurs

/-!
# Lines put together

Lines in which every bracket, comment and string is closed change nothing for what follows them. So a text
put together from such lines is checked by checking the parts:

    checkFrom f 1 [] u = ok, u ends with a line feed   →   Passed f u               (passed_of_lines)
    Passed f u, Passed f v   →   Passed f (u ++ v)                                     (Passed.append)
-/

namespace BuildLoop.Completeness

open Text

/-- Whether a text is lines as a whole. -/
def IsLines (u : List Char) : Prop := u = [] ∨ ∃ x, u = x ++ ['\n']

theorem IsLines.append {u v : List Char} (hu : IsLines u) (hv : IsLines v) : IsLines (u ++ v) := by
  obtain rfl | ⟨x, rfl⟩ := hv
  · rwa [List.append_nil]
  · exact .inr ⟨u ++ x, by rw [List.append_assoc]⟩

/-- Whether the check goes on behind a text with the brackets that were open before it. -/
def Passed (f : Family) (u : List Char) : Prop :=
  ∀ (line : Nat) (opened : List (Char × Nat)) (t : List Char),
    ∃ line', checkFrom f line opened (u ++ t) = checkFrom f line' opened t

section
variable {f : Family} {u v : List Char}

theorem Passed.nil : Passed f [] := fun line _ _ => ⟨line, rfl⟩

theorem Passed.append (hu : Passed f u) (hv : Passed f v) : Passed f (u ++ v) := by
  intro line opened t
  obtain ⟨line₁, h₁⟩ := hu line opened (v ++ t)
  obtain ⟨line₂, h₂⟩ := hv line₁ opened t
  exact ⟨line₂, by rw [List.append_assoc, h₁, h₂]⟩

theorem Passed.checked (hu : Passed f u) (line : Nat) : checkFrom f line [] u = .ok () := by
  obtain ⟨line', h⟩ := hu line [] []
  rw [List.append_nil] at h
  rw [h, checkFrom]

end

/-! ## Lexemes of lines -/

section
variable {f : Family} {l : Lexeme} {x rest t : List Char}

/-- What opens within lines does so whatever follows them. -/
theorem enclosure?_lines : f.enclosure? (x ++ '\n' :: t) = f.enclosure? (x ++ ['\n']) := by
  have hall : f.enclosures.all (fun e => !e.opening.contains '\n') = true := by cases f <;> decide
  refine List.find?_congr fun e he => ?_
  have hfeed : '\n' ∉ e.opening := by simpa using List.all_eq_true.1 hall e he
  rw [Bool.eq_iff_iff, List.isPrefixOf_iff_prefix, List.isPrefixOf_iff_prefix]
  exact ⟨fun h => (prefix_append_cons hfeed h).trans (List.prefix_append _ _),
    fun h => (prefix_append_cons hfeed h).trans (List.prefix_append _ _)⟩

theorem feed_notMem_lineMark {mark : List Char} (h : f.lineMark? = some mark) : '\n' ∉ mark := by
  cases f <;> cases h <;> decide

/-- A lexeme of lines is one whatever follows them. -/
theorem Begins.lines (h : Begins f l rest) (hu : l.text ++ rest = x ++ ['\n']) : Begins f l (rest ++ t) := by
  have hmore : l.text ++ (rest ++ t) = x ++ '\n' :: t := by
    rw [← List.append_assoc, hu, List.append_assoc]
    rfl
  cases h with
  | enclosed hopen hb =>
    refine .enclosed ?_ hb
    have hopen : f.enclosure? (x ++ ['\n']) = _ := hu ▸ hopen
    have htext := (enclosure?_lines (t := t)).trans hopen
    rwa [← hmore] at htext
  | @line mark b _ hmark hb hrest =>
    refine .line hmark hb ?_
    cases rest with
    | nil =>
      -- the comment would reach over the line feed at the end
      have hfeed : '\n' ∈ mark ++ b := by
        have hu : mark ++ b ++ [] = x ++ ['\n'] := hu
        rw [← List.append_nil (mark ++ b), hu]
        simp
      exact absurd hfeed (by rw [List.mem_append, not_or]; exact ⟨feed_notMem_lineMark hmark, hb⟩)
    | cons c r => exact hrest
  | @single c _ hopen hmark =>
    have hu : c :: rest = x ++ ['\n'] := hu
    have hmore : c :: (rest ++ t) = x ++ '\n' :: t := hmore
    refine .single ?_ fun mark hmem hprefix => hmark mark hmem ?_
    · rw [hmore, enclosure?_lines, ← hu, hopen]
    · rw [hmore] at hprefix
      rw [hu]
      exact (prefix_append_cons (feed_notMem_lineMark hmem) hprefix).trans (List.prefix_append _ _)

end

/-! ## Passing lines -/

section
variable {f : Family} {c : Char} {line : Nat} {l : Lexeme} {opened opened' inner outer : List (Char × Nat)}

/-- What is open outside, and on which lines, does not matter to a character that closes nothing of it. -/
theorem pass_append (outer : List (Char × Nat)) (h : pass c line opened = .ok opened')
    (hinner : inner.map (·.1) = opened.map (·.1)) (line' : Nat) :
    ∃ inner', pass c line' (inner ++ outer) = .ok (inner' ++ outer) ∧
      inner'.map (·.1) = opened'.map (·.1) := by
  unfold pass at h ⊢
  split at h
  · next hc =>
    cases h
    exact ⟨(c, line') :: inner, by rw [if_pos hc]; rfl, by rw [List.map_cons, List.map_cons, hinner]⟩
  · next hc =>
    rw [if_neg hc]
    cases hopener : opener? c with
    | none =>
      rw [hopener] at h
      cases h
      exact ⟨inner, rfl, hinner⟩
    | some expected =>
      rw [hopener] at h
      cases opened with
      | nil => cases h
      | cons o opened =>
        cases inner with
        | nil => cases hinner
        | cons i inner =>
          obtain ⟨hhead, htail⟩ := List.cons.inj hinner
          have hi : i.1 = o.1 := hhead
          by_cases ho : o.1 = expected
          · simp only [if_pos ho] at h
            cases h
            refine ⟨inner, ?_, htail⟩
            show (if i.1 = expected then _ else _) = _
            rw [if_pos (hi.trans ho)]
            rfl
          · simp only [if_neg ho] at h
            cases h

theorem Lexeme.pass_append (outer : List (Char × Nat)) (h : l.pass line opened = .ok opened')
    (hinner : inner.map (·.1) = opened.map (·.1)) (line' : Nat) :
    ∃ inner', l.pass line' (inner ++ outer) = .ok (inner' ++ outer) ∧
      inner'.map (·.1) = opened'.map (·.1) := by
  cases l with
  | single c => exact Completeness.pass_append outer h hinner line'
  | enclosed | line =>
    cases h
    exact ⟨inner, rfl, hinner⟩

/-- Lines that leave nothing open are passed. Of the brackets that they open, the lines may differ. -/
theorem checkFrom_lines {u : List Char} (hu : IsLines u) (h : checkFrom f line opened u = .ok ())
    (hinner : inner.map (·.1) = opened.map (·.1)) (line' : Nat) (t : List Char) :
    ∃ line'', checkFrom f line' (inner ++ outer) (u ++ t) = checkFrom f line'' outer t := by
  generalize hn : u.length = n
  induction n using Nat.strong_induction_on generalizing u line line' opened inner with
  | _ n ih =>
    subst hn
    obtain rfl | ⟨x, rfl⟩ := hu
    · cases opened with
      | nil =>
        obtain rfl := List.map_eq_nil_iff.1 hinner
        exact ⟨line', rfl⟩
      | cons o opened =>
        rw [checkFrom] at h
        cases h
    · rcases begins_or_open (f := f) (s := x ++ ['\n']) (by simp) with
        ⟨l, rest, htext, hl⟩ | ⟨e, inside, -, hopens, hnone⟩
      · rw [htext, checkFrom_lexeme hl] at h
        cases hpass : l.pass line opened with
        | error =>
          rw [hpass] at h
          cases h
        | ok opened' =>
          rw [hpass] at h
          obtain ⟨inner', hpass', hinner'⟩ := l.pass_append outer hpass hinner line'
          have hrest : IsLines rest := by
            obtain rfl | ⟨y, c, rfl⟩ := List.eq_nil_or_concat' rest
            · exact .inl rfl
            · rw [← List.append_assoc] at htext
              exact .inr ⟨y, by rw [(List.append_inj' htext rfl).2]⟩
          have hlength : rest.length < (x ++ ['\n']).length := by
            have := List.length_pos_of_ne_nil hl.text_ne_nil
            rw [htext, List.length_append]
            omega
          obtain ⟨line'', hline⟩ := ih _ hlength hrest h hinner' (line' + l.feeds) rfl
          refine ⟨line'', ?_⟩
          rw [htext, List.append_assoc, checkFrom_lexeme (hl.lines htext.symm), hpass']
          exact hline
      · rw [checkFrom_open hopens hnone] at h
        cases h

theorem passed_of_lines {u : List Char} (hu : IsLines u) (h : checkFrom f 1 [] u = .ok ()) : Passed f u := by
  intro line outer t
  have hinner : ([] : List (Char × Nat)).map (·.1) = ([] : List (Char × Nat)).map (·.1) := rfl
  exact checkFrom_lines hu h hinner line t

end

end BuildLoop.Completeness
