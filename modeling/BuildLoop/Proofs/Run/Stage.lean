import BuildLoop.Proofs.Run.Step

/-!
# How far signals can take a run

What a stage accepts is said once, case by case (`Accepts`); what holds of one accepted signal holds
along any sequence in which some signals are refused. Corrective cycles are counted when they are
entered, one signal after the budget is looked at, so that the bound needs the stage in between:

    p.fire g = ok q   ↔   p.Accepts g q                                             (fire_eq_ok_iff)
    p.Within, p.Accepts g q   →   q.Within                                          (Accepts.within)
    p.Within, p.Accepts g q   →   q.left < p.left                                  (Accepts.left_lt)

From a start with `m` cycles at most `3 * m + 6` signals are accepted: three for a cycle, six for two
plans, one batch and one verification.
-/

namespace BuildLoop.Progress

variable {p q : Progress} {g : Signal}

/-! ## What is accepted -/

/-- What each signal does where it is accepted. -/
inductive Accepts (p : Progress) : Signal → Progress → Prop where
  | abort (h : p.stage.isFinal = false) : Accepts p .abort (p.at_ .aborted)
  | queued (h : p.stage = .planning) : Accepts p .queueReady (p.at_ .validating)
  | approved (h : p.stage = .validating) : Accepts p .planApproved (p.at_ .dispatching)
  | replanned (h : p.stage = .validating) (hleft : p.replans < p.maxReplans) :
    Accepts p .planRejected { p with stage := .planning, replans := p.replans + 1 }
  | rejected (h : p.stage = .validating) (hspent : p.maxReplans ≤ p.replans) :
    Accepts p .planRejected (p.at_ .aborted)
  | settled (h : p.stage = .dispatching) : Accepts p .batchSettled (p.at_ .verifying)
  | passed (h : p.stage = .verifying) : Accepts p .verificationPassed (p.at_ .done)
  | failed (h : p.stage = .verifying) (hleft : p.cycles < p.maxCycles) :
    Accepts p .verificationFailed (p.at_ .diagnosing)
  | exhausted (h : p.stage = .verifying) (hspent : p.maxCycles ≤ p.cycles) :
    Accepts p .verificationFailed (p.at_ .doneWithFailure)
  | corrected (h : p.stage = .diagnosing) :
    Accepts p .correctiveReady { p with stage := .dispatching, cycles := p.cycles + 1 }

theorem accepts_of_next? (h : p.next? g = some q) : p.Accepts g q := by
  cases g with
  | abort =>
    simp only [next?, Option.ite_none_left_eq_some, Option.some.injEq] at h
    obtain ⟨hopen, rfl⟩ := h
    exact .abort (Bool.eq_false_iff.2 hopen)
  | queueReady =>
    simp only [next?, Option.ite_none_right_eq_some, Option.some.injEq] at h
    obtain ⟨hstage, rfl⟩ := h
    exact .queued hstage
  | planApproved =>
    simp only [next?, Option.ite_none_right_eq_some, Option.some.injEq] at h
    obtain ⟨hstage, rfl⟩ := h
    exact .approved hstage
  | planRejected =>
    simp only [next?, Option.ite_none_right_eq_some] at h
    obtain ⟨hstage, h⟩ := h
    split at h
    · next hleft =>
      cases h
      exact .replanned hstage hleft
    · next hspent =>
      cases h
      exact .rejected hstage (Nat.le_of_not_lt hspent)
  | batchSettled =>
    simp only [next?, Option.ite_none_right_eq_some, Option.some.injEq] at h
    obtain ⟨hstage, rfl⟩ := h
    exact .settled hstage
  | verificationPassed =>
    simp only [next?, Option.ite_none_right_eq_some, Option.some.injEq] at h
    obtain ⟨hstage, rfl⟩ := h
    exact .passed hstage
  | verificationFailed =>
    simp only [next?, Option.ite_none_right_eq_some, Option.some.injEq] at h
    obtain ⟨hstage, rfl⟩ := h
    split
    · next hleft => exact .failed hstage hleft
    · next hspent => exact .exhausted hstage (Nat.le_of_not_lt hspent)
  | correctiveReady =>
    simp only [next?, Option.ite_none_right_eq_some, Option.some.injEq] at h
    obtain ⟨hstage, rfl⟩ := h
    exact .corrected hstage

theorem Accepts.next? (h : p.Accepts g q) : p.next? g = some q := by
  cases h with
  | abort h => simp [Progress.next?, h]
  | queued h | approved h | settled h | passed h | corrected h => simp [Progress.next?, h]
  | replanned h hleft => simp [Progress.next?, h, hleft]
  | rejected h hspent => simp [Progress.next?, h, Nat.not_lt.2 hspent]
  | failed h hleft => simp [Progress.next?, h, hleft]
  | exhausted h hspent => simp [Progress.next?, h, Nat.not_lt.2 hspent]

theorem fire_eq_ok_iff : p.fire g = .ok q ↔ p.Accepts g q := by
  unfold fire
  constructor
  · intro h
    split at h
    · next hnext =>
      cases h
      exact accepts_of_next? hnext
    · cases h
  · intro h
    rw [h.next?]

/-- A final stage accepts nothing. -/
theorem fire_of_isFinal (h : p.stage.isFinal = true) (g : Signal) :
    p.fire g = .error (.transition p.stage.name g.name) := by
  unfold fire
  cases hnext : p.next? g with
  | none => rfl
  | some q =>
    have hopen : p.stage.isFinal = false := by
      cases accepts_of_next? hnext with
      | abort h => exact h
      | queued h | approved h | replanned h | rejected h | settled h | passed h | failed h
      | exhausted h | corrected h => rw [h]; rfl
    rw [hopen] at h
    cases h

/-! ## Bounds -/

/-- The counts that a run keeps within its budgets. A corrective cycle is counted when it is entered,
so that one is left while the cycle's task is looked for. -/
structure Within (p : Progress) : Prop where
  cycles : p.cycles ≤ p.maxCycles
  replans : p.replans ≤ p.maxReplans
  diagnosing : p.stage = .diagnosing → p.cycles < p.maxCycles

theorem within_new (m : Nat) : (new m).Within :=
  ⟨Nat.zero_le m, Nat.zero_le 1, fun h => by cases h⟩

theorem Accepts.within (h : p.Accepts g q) (hp : p.Within) : q.Within := by
  cases h with
  | abort | queued | approved | rejected | settled | passed | exhausted =>
    exact ⟨hp.cycles, hp.replans, fun h => by cases h⟩
  | replanned _ hleft => exact ⟨hp.cycles, hleft, fun h => by cases h⟩
  | failed _ hleft => exact ⟨hp.cycles, hp.replans, fun _ => hleft⟩
  | corrected h => exact ⟨hp.diagnosing h, hp.replans, fun h => by cases h⟩

/-- The budgets never change. -/
theorem Accepts.budgets (h : p.Accepts g q) :
    q.maxCycles = p.maxCycles ∧ q.maxReplans = p.maxReplans := by
  cases h <;> exact ⟨rfl, rfl⟩

/-- How many more signals can be accepted: three for each cycle that is left, two for each plan that
may be made again, and those from the stage to the end. -/
def left (p : Progress) : Nat :=
  let cycles := 3 * (p.maxCycles - p.cycles)
  let plans := 2 * (p.maxReplans - p.replans)
  match p.stage with
  | .planning => 4 + plans + cycles
  | .validating => 3 + plans + cycles
  | .dispatching => 2 + cycles
  | .verifying => 1 + cycles
  | .diagnosing => cycles
  | .done | .doneWithFailure | .aborted => 0

theorem left_new (m : Nat) : (new m).left = 3 * m + 6 := by
  simp only [left, new]
  omega

theorem Accepts.left_lt (h : p.Accepts g q) (hp : p.Within) : q.left < p.left := by
  cases h with
  | abort h =>
    -- a cycle is left where the stage alone leaves no signal
    have hcycle := hp.diagnosing
    cases hs : p.stage <;> simp_all only [left, at_, Stage.isFinal] <;> grind
  | queued h => simp only [left, at_, h]; omega
  | approved h => simp only [left, at_, h]; omega
  | replanned h hleft => simp only [left, h]; omega
  | rejected h => simp only [left, at_, h]; omega
  | settled h => simp only [left, at_, h]; omega
  | passed h => simp only [left, at_, h]; omega
  | failed h => simp only [left, at_, h]; omega
  | exhausted h => simp only [left, at_, h]; omega
  | corrected h =>
    have hcycle := hp.diagnosing h
    simp only [left, h]
    omega

/-! ## Sequences of signals -/

/-- The progress after a signal; one that is refused changes nothing. -/
def offer (p : Progress) (g : Signal) : Progress :=
  match p.fire g with
  | .ok q => q
  | .error _ => p

/-- The progress after signals in order, refused ones included. -/
def offerAll (p : Progress) (gs : List Signal) : Progress := gs.foldl offer p

/-- How many of some signals are accepted. -/
def accepted (p : Progress) : List Signal → Nat
  | [] => 0
  | g :: gs => (if (p.fire g).isOk then 1 else 0) + (p.offer g).accepted gs

theorem offer_cases (p : Progress) (g : Signal) :
    (∃ q, p.fire g = .ok q ∧ p.Accepts g q ∧ p.offer g = q) ∨
      ∃ e, p.fire g = .error e ∧ p.offer g = p := by
  unfold offer
  cases h : p.fire g with
  | ok q => exact .inl ⟨q, rfl, fire_eq_ok_iff.1 h, rfl⟩
  | error e => exact .inr ⟨e, rfl, rfl⟩

/-- Whatever signals are offered, the counts stay within their budgets, and the signals accepted have
been counted before. -/
theorem within_offerAll (hp : p.Within) (gs : List Signal) :
    (p.offerAll gs).Within ∧ (p.offerAll gs).maxCycles = p.maxCycles ∧
      (p.offerAll gs).maxReplans = p.maxReplans ∧
      p.accepted gs + (p.offerAll gs).left ≤ p.left := by
  induction gs generalizing p with
  | nil => exact ⟨hp, rfl, rfl, by simp [accepted, offerAll]⟩
  | cons g gs ih =>
    rcases offer_cases p g with ⟨q, hfire, haccepts, hoffer⟩ | ⟨e, hfire, hoffer⟩
    · obtain ⟨hwithin, hcycles, hreplans, hleft⟩ := ih (haccepts.within hp)
      have hlt := haccepts.left_lt hp
      simp only [accepted, offerAll, List.foldl_cons, hoffer, hfire] at hleft ⊢
      exact ⟨hwithin, hcycles.trans haccepts.budgets.1, hreplans.trans haccepts.budgets.2, by
        simp only [Except.isOk, Except.toBool, if_true]; omega⟩
    · obtain ⟨hwithin, hcycles, hreplans, hleft⟩ := ih hp
      simp only [accepted, offerAll, List.foldl_cons, hoffer, hfire] at hleft ⊢
      exact ⟨hwithin, hcycles, hreplans, by simpa [Except.isOk, Except.toBool] using hleft⟩

/-- Whatever signals are offered to a run from its start, refused ones included: a signal that is
refused leaves the progress, and a run under way, as they are; a final stage refuses every signal; the
cycles stay within their budget, with one left at a diagnosis, and a plan is made again at most once;
and at most three signals are accepted for each cycle and six more. -/
theorem offerAll_bounded (m : Nat) (gs : List Signal) :
    let p := (new m).offerAll gs
    (∀ g e, p.fire g = .error e → p.offer g = p ∧
      ∀ (σ : Type) (r : RunState σ), r.progress = p → (Run.advance g).run r = (.error (.refused e), r)) ∧
    (p.stage = .done ∨ p.stage = .doneWithFailure ∨ p.stage = .aborted →
      ∀ g, p.fire g = .error (.transition p.stage.name g.name)) ∧
    p.cycles ≤ m ∧ p.replans ≤ 1 ∧ (p.stage = .diagnosing → p.cycles < m) ∧
    (new m).accepted gs ≤ 3 * m + 6 := by
  intro p
  obtain ⟨hwithin, hcycles, hreplans, hleft⟩ := within_offerAll (within_new m) gs
  have hmax : p.maxCycles = m := hcycles
  have hagain : p.maxReplans = 1 := hreplans
  refine ⟨fun g e he => ⟨?_, fun σ r hr => ?_⟩, fun hstage g => fire_of_isFinal ?_ g, ?_, ?_, ?_, ?_⟩
  · rw [offer, he]
  · exact Run.run_advance_of_error (hr ▸ he)
  · rcases hstage with h | h | h <;> rw [h] <;> rfl
  · exact hmax ▸ hwithin.cycles
  · exact hagain ▸ hwithin.replans
  · exact fun h => hmax ▸ hwithin.diagnosing h
  · rw [left_new] at hleft
    omega

end BuildLoop.Progress
