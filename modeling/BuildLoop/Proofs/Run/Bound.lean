import BuildLoop.Proofs.Run.Course

/-!
# How often a run calls its roles

A recorded run is followed step by step: each step goes from a stage, a count of cycles and the calls
so far to the next (`Standing`). No signal is fired at a stage that does not accept it, so that a run
only halts at the failure of a role or of a check. What is called between the first plan and the end
is the course of the cycles:

    After (cycles (recorded roles) a (m - n) batch) s …   the calls added are those of a Course m n
                                                                                     (after_cycles)
-/

namespace BuildLoop.Run

variable {σ α : Type} {roles : Roles σ} {p q : Progress} {calls : List Call} {o : Outcome}
  {s : RunState (σ × List Call)}

/-! ## Single steps -/

namespace Standing

theorem emit (h : Standing p calls s) (e : Event) : Standing p calls (s.emit e) :=
  ⟨h.progress, h.cycles, h.status, h.calls⟩

theorem advance {g : Signal} {ok : Stage → RunState (σ × List Call) → Prop}
    {halt : Halt → RunState (σ × List Call) → Prop} (h : Standing p calls s)
    (hg : p.next? g = some q) (hc : q.cycles = p.cycles)
    (hok : ∀ s', Standing q calls s' → ok q.stage s') : After (Run.advance g) s ok halt := by
  have hnext : s.progress.next? g = some q := h.progress ▸ hg
  refine (after_advance hnext).2 (hok _ ?_)
  exact ⟨rfl, h.cycles.trans hc.symm, h.status, h.calls⟩

theorem know {w : WorkflowState} (h : Standing p calls s)
    (hi : w.iterations = s.workflow.iterations) (ht : w.testStatus = s.workflow.testStatus) :
    Standing p calls { s with workflow := w } :=
  ⟨h.progress, hi.trans h.cycles, ht.trans h.status, h.calls⟩

/-- More calls that leave the status as it is. -/
theorem note {o : σ × List Call} {more : List Call} (h : Standing p calls s)
    (ho : o.2 = s.outside.2 ++ more) (hs : statusAfter (calls ++ more) = statusAfter calls) :
    Standing p (calls ++ more) { s with outside := o } :=
  ⟨h.progress, h.cycles, h.status.trans hs.symm, ho.trans (by rw [h.calls])⟩

end Standing

/-- A run that halts for a failure, before it has come to a verdict. -/
structure Halted (m : Nat) (calls : List Call) (e : Halt) (s : RunState (σ × List Call)) : Prop where
  failed : ∃ f, e = .failed f
  undecided : ∃ p, Outcome.ofStage p.stage = .aborted ∧ p.cycles ≤ m ∧ Standing p calls s

theorem after_dispatch_standing (h : Standing p calls s) (batch : List String) :
    After (dispatch (recorded roles).crew batch) s (fun _ => Standing p calls)
      fun e s' => (∃ f, e = .failed f) ∧ Standing p calls s' := by
  have hkept := (keeps_standing roles p calls).runBatch h batch
  exact after_dispatch.2 ⟨fun _ _ => hkept, fun f _ => ⟨⟨f, rfl⟩, hkept⟩⟩

/-! ## Planning -/

theorem after_outside_plan (h : Standing p calls s) (a : Architecture) :
    After (outside (plan (recorded roles) a)) s (fun _ => Standing p (calls ++ [.planned]))
      fun e s' => (∃ f, e = .failed f) ∧ Standing p (calls ++ [.planned]) s' := by
  refine after_outside.2 ((after_plan roles a s.outside).mono (fun tasks o ho => ?_) fun f o ho => ?_)
  · exact h.note ho (statusAfter_append rfl)
  · exact ⟨⟨f, rfl⟩, h.note ho (statusAfter_append rfl)⟩

/-- A plan is approved, is made again while that is allowed, or ends the run. -/
theorem after_planOnce {a : Architecture} {m : Nat} {again : List String → Step (σ × List Call) Unit}
    {ok : Unit → RunState (σ × List Call) → Prop} {halt : Halt → RunState (σ × List Call) → Prop}
    (h : Standing p calls s) (hp : p.stage = .planning) (hm : p.cycles ≤ m)
    (happroved : ∀ s', Standing (p.at_ .dispatching) (calls ++ [.planned]) s' → ok () s')
    (hrejected : p.replans < p.maxReplans → ∀ reasons s',
      Standing { p with stage := .planning, replans := p.replans + 1 } (calls ++ [.planned]) s' →
        After (again reasons) s' ok halt)
    (hhalted : ∀ e s', Halted m (calls ++ [.planned]) e s' → halt e s') :
    After (planOnce (recorded roles) a again) s ok halt := by
  have hvalid : (p.at_ .validating).next? .planApproved = some (p.at_ .dispatching) := rfl
  have hready : p.next? .queueReady = some (p.at_ .validating) := by simp [Progress.next?, hp]
  refine after_bind.2 ((after_outside_plan h a).mono (fun tasks s₁ h₁ => ?_) fun e s₁ h₁ =>
    hhalted e s₁ ⟨h₁.1, p, by rw [hp]; rfl, hm, h₁.2⟩)
  refine after_bind.2 (after_emit.2 (after_bind.2 ((h₁.emit _).advance hready rfl fun s₂ h₂ => ?_)))
  cases Plan.validate tasks with
  | approved summary =>
    refine after_bind.2 (after_know.2 ⟨fun w hw => ?_, fun f _ => ?_⟩)
    · obtain ⟨hi, ht⟩ := WorkflowState.kept_setQueue hw
      have h₃ := h₂.know hi ht
      exact after_bind.2 (after_emit.2 (after_bind.2 ((h₃.emit _).advance hvalid rfl fun s₄ h₄ =>
        after_pure.2 (happroved s₄ h₄))))
    · exact hhalted _ s₂ ⟨⟨f, rfl⟩, p.at_ .validating, rfl, hm, h₂⟩
  | rejected reasons =>
    refine after_bind.2 (after_emit.2 ?_)
    by_cases hr : p.replans < p.maxReplans
    · have hnext : (p.at_ .validating).next? .planRejected =
          some { p with stage := .planning, replans := p.replans + 1 } := by
        simp [Progress.next?, Progress.at_, hr]
      refine after_bind.2 ((h₂.emit _).advance hnext rfl fun s₃ h₃ => ?_)
      exact hrejected hr reasons s₃ h₃
    · have hnext : (p.at_ .validating).next? .planRejected = some (p.at_ .aborted) := by
        simp [Progress.next?, Progress.at_, hr]
      refine after_bind.2 ((h₂.emit _).advance hnext rfl fun s₃ h₃ => ?_)
      exact hhalted _ s₃ ⟨⟨_, rfl⟩, p.at_ .aborted, rfl, hm, h₃⟩

/-- Planning asks the planner once more than it may plan again, at most. -/
theorem after_planUntilApproved {a : Architecture} {m n : Nat} (h : Standing p calls s)
    (hp : p.stage = .planning) (hm : p.cycles ≤ m) (hn : p.maxReplans - p.replans ≤ n) :
    After (planUntilApproved (recorded roles) a n) s
      (fun _ s' => ∃ k q, k ≤ n + 1 ∧ q.stage = .dispatching ∧ q.cycles = p.cycles ∧
        q.maxCycles = p.maxCycles ∧ Standing q (calls ++ List.replicate k .planned) s')
      fun e s' => ∃ k, k ≤ n + 1 ∧ Halted m (calls ++ List.replicate k .planned) e s' := by
  induction n generalizing p calls s with
  | zero =>
    refine after_planOnce h hp hm (fun s' h' => ⟨1, p.at_ .dispatching, Nat.le_refl 1, rfl, rfl, rfl, h'⟩)
      (fun hr => absurd hr (by omega)) fun e s' h' => ⟨1, Nat.le_refl 1, h'⟩
  | succ n ih =>
    refine after_planOnce h hp hm (fun s' h' => ⟨1, p.at_ .dispatching, by omega, rfl, rfl, rfl, h'⟩)
      (fun hr reasons s' h' => ?_) fun e s' h' => ⟨1, by omega, h'⟩
    have hagain := ih h' rfl hm (by simp only; omega)
    simp only [List.append_assoc, List.singleton_append, ← List.replicate_succ] at hagain
    refine hagain.mono ?_ ?_
    · rintro - s'' ⟨k, q, hk, hq⟩
      exact ⟨k + 1, q, by omega, hq⟩
    · rintro e s'' ⟨k, hk, hq⟩
      exact ⟨k + 1, by omega, hq⟩

/-! ## Cycles -/

/-- A verification is recorded with its report, which becomes the status of the run. -/
theorem after_verify {a : Architecture} (h : Standing p calls s) (hp : p.stage = .verifying) :
    After (verify (recorded roles) a) s
      (fun stage s' => ∃ v, Standing (p.at_ stage) (calls ++ [.verified (.ok v)]) s' ∧
        (v.isPassed = true ∧ stage = .done ∨
          v.isPassed = false ∧
            stage = if p.cycles < p.maxCycles then .diagnosing else .doneWithFailure))
      fun e s' => ∃ f, e = .failed f ∧ Standing p (calls ++ [.verified (.error f)]) s' := by
  have hverifier := after_noting (fun r => [Call.verified r]) (roles.verifier a) s.outside
  refine after_bind.2 (after_emit.2 (after_bind.2 (after_outside.2 (hverifier.mono
    (fun v o ho => ?_) fun f o ho => ⟨f, rfl, (h.emit _).note ho (statusAfter_append rfl)⟩))))
  refine after_bind.2 (after_know.2 ⟨fun w hw => ?_, fun f hf => (by cases hf)⟩)
  cases hw
  -- the report is recorded: the run knows what the last call said
  have hknown : Standing p (calls ++ [.verified (.ok v)])
      { s.emit .verificationStarted with
        outside := o, workflow := s.workflow.recordVerification v.status v.logs } :=
    ⟨h.progress, h.cycles, (statusAfter_append_report calls v).symm, ho.trans (by rw [h.calls])⟩
  by_cases hv : v.isPassed = true
  · simp only [hv, if_true]
    have hnext : p.next? .verificationPassed = some (p.at_ .done) := by simp [Progress.next?, hp]
    refine after_bind.2 (after_emit.2 ((hknown.emit _).advance hnext rfl fun s' h' => ?_))
    exact ⟨v, h', .inl ⟨hv, rfl⟩⟩
  · simp only [hv]
    have hnext : p.next? .verificationFailed =
        some (p.at_ (if p.cycles < p.maxCycles then .diagnosing else .doneWithFailure)) := by
      simp [Progress.next?, hp]
    refine after_bind.2 (after_emit.2 ((hknown.emit _).advance hnext rfl fun s' h' => ?_))
    exact ⟨v, h', .inr ⟨by simpa using hv, rfl⟩⟩

/-- A correction begins the next cycle. -/
theorem after_correct {a : Architecture} (h : Standing p calls s) (hp : p.stage = .diagnosing) :
    After (correct (recorded roles) a) s
      (fun _ s' => ∃ d, Standing { p with stage := .dispatching, cycles := p.cycles + 1 }
        (calls ++ [.diagnosed (p.cycles + 1) d]) s')
      fun e s' => (∃ f, e = .failed f) ∧
        ∃ d, Standing p (calls ++ [.diagnosed (p.cycles + 1) d]) s' := by
  have hdiagnoser := after_noting (fun r => [Call.diagnosed (s.workflow.iterations + 1) r])
    (roles.diagnoser s.workflow.testLogs a (s.workflow.iterations + 1)
      (s.workflow.queue.map (·.id))) s.outside
  refine after_bind.2 (after_get.2 (after_bind.2 (after_outside.2 (hdiagnoser.mono
    (fun d o ho => ?_) fun f o ho => ?_))))
  · have hnoted := h.note ho (statusAfter_append rfl)
    rw [h.cycles] at hnoted
    cases Plan.validateCorrective d.task s.workflow.queue with
    | rejected reasons => exact ⟨⟨_, rfl⟩, .ok d, hnoted⟩
    | approved _ =>
      refine after_bind.2 (after_know.2 ⟨fun w hw => ?_, fun f hf => (by cases hf)⟩)
      cases hw
      refine after_bind.2 (after_emit.2 (after_bind.2 (after_know.2 ⟨fun w hw => ?_, fun f hf =>
        (by cases hf)⟩)))
      cases hw
      have hnext : s.progress.next? .correctiveReady =
          some { p with stage := .dispatching, cycles := p.cycles + 1 } := by
        simp [Progress.next?, h.progress, hp]
      refine after_bind.2 ((after_advance ?_).2 (after_pure.2 ⟨.ok d, rfl, ?_, hnoted.status,
        hnoted.calls⟩))
      · exact hnext
      · exact congrArg Nat.succ h.cycles
  · have hnoted := h.note ho (statusAfter_append rfl)
    rw [h.cycles] at hnoted
    exact ⟨⟨f, rfl⟩, .error f, hnoted⟩

/-- The stage at which a run with an outcome ends. -/
def lastStage : Outcome → Stage
  | .passed => .done
  | .budgetExhausted => .doneWithFailure
  | .aborted => .aborted

theorem ofStage_lastStage (o : Outcome) : Outcome.ofStage (lastStage o) = o := by cases o <;> rfl

/-- A run that has come to a verdict, `n` of `m` cycles after some calls. -/
structure Decided (m n : Nat) (calls : List Call) (s : RunState (σ × List Call)) : Prop where
  course : ∃ rest o p, Course m n rest o ∧ o ≠ .aborted ∧ Standing p (calls ++ rest) s ∧
    p.stage = lastStage o ∧ p.maxCycles = m ∧ p.cycles ≤ m ∧ (o = .budgetExhausted → p.cycles = m)

/-- A cycle comes to a verdict, halts, or is followed by another. -/
theorem after_cycleOnce {a : Architecture} {m : Nat} {batch : List String}
    {again : List String → Step (σ × List Call) Unit}
    {ok : Unit → RunState (σ × List Call) → Prop} {halt : Halt → RunState (σ × List Call) → Prop}
    (h : Standing p calls s) (hp : p.stage = .dispatching) (hmax : p.maxCycles = m)
    (hm : p.cycles ≤ m)
    (hdecided : ∀ s', Decided m p.cycles calls s' → ok () s')
    (hagain : p.cycles < m → ∀ id v d s', v.isPassed = false →
      Standing { p with stage := .dispatching, cycles := p.cycles + 1 }
        (calls ++ [.verified (.ok v), .diagnosed (p.cycles + 1) d]) s' → After (again [id]) s' ok halt)
    (hhalted : ∀ rest e s', Course m p.cycles rest .aborted → Halted m (calls ++ rest) e s' →
      halt e s') :
    After (cycleOnce (recorded roles) a batch again) s ok halt := by
  have hsettled : p.next? .batchSettled = some (p.at_ .verifying) := by simp [Progress.next?, hp]
  refine after_bind.2 ((after_dispatch_standing h batch).mono (fun _ s₁ h₁ => ?_) fun e s₁ h₁ => ?_)
  · refine after_bind.2 (h₁.advance hsettled rfl fun s₂ h₂ => ?_)
    refine after_bind.2 ((after_verify h₂ rfl).mono ?_ ?_)
    · rintro stage s₃ ⟨v, h₃, ⟨hv, rfl⟩ | ⟨hv, hstage⟩⟩
      · simp only [reduceCtorEq, if_false]
        exact hdecided s₃ ⟨_, .passed, _, .passed hv, by simp, h₃, rfl, hmax, hm, by simp⟩
      · by_cases hlt : p.cycles < m
        · obtain rfl : stage = .diagnosing := by simpa [Progress.at_, hmax, hlt] using hstage
          simp only [if_true]
          refine after_bind.2 ((after_correct h₃ rfl).mono ?_ ?_)
          · rintro id s₄ ⟨d, h₄⟩
            rw [List.append_assoc] at h₄
            exact hagain hlt id v d s₄ hv h₄
          · rintro e s₄ ⟨hf, d, h₄⟩
            rw [List.append_assoc] at h₄
            exact hhalted _ e s₄ (.again hv hlt d .stopped)
              ⟨hf, (p.at_ .verifying).at_ .diagnosing, rfl, hm, h₄⟩
        · obtain rfl : stage = .doneWithFailure := by simpa [Progress.at_, hmax, hlt] using hstage
          have hall : p.cycles = m := by omega
          simp only [reduceCtorEq, if_false]
          refine hdecided s₃ ⟨_, .budgetExhausted, _, ?_, by simp, h₃, rfl, hmax, hm, fun _ => hall⟩
          rw [hall]
          exact .exhausted hv
    · rintro e s₃ ⟨f, rfl, h₃⟩
      exact hhalted _ _ s₃ (.unverified f) ⟨⟨f, rfl⟩, p.at_ .verifying, rfl, hm, h₃⟩
  · refine hhalted [] e s₁ .stopped ⟨h₁.1, p, by rw [hp]; rfl, hm, ?_⟩
    rw [List.append_nil]
    exact h₁.2

/-- With as many cycles left as are allowed, a run comes to a verdict or halts. -/
theorem after_cycles {a : Architecture} {m k : Nat} {batch : List String} (h : Standing p calls s)
    (hp : p.stage = .dispatching) (hmax : p.maxCycles = m) (hk : p.cycles + k = m) :
    After (cycles (recorded roles) a k batch) s (fun _ => Decided m p.cycles calls)
      fun e s' => ∃ rest, Course m p.cycles rest .aborted ∧ Halted m (calls ++ rest) e s' := by
  induction k generalizing p calls s batch with
  | zero =>
    exact after_cycleOnce h hp hmax (by omega) (fun _ => id) (fun hlt => absurd hlt (by omega))
      fun rest e s' hr hh => ⟨rest, hr, hh⟩
  | succ k ih =>
    refine after_cycleOnce h hp hmax (by omega) (fun _ => id) (fun hlt id v d s' hv h' => ?_)
      fun rest e s' hr hh => ⟨rest, hr, hh⟩
    refine (ih h' rfl hmax (by simp only; omega)).mono ?_ ?_
    · rintro - s'' ⟨rest, o, q, hr, ho, hs, hq⟩
      rw [List.append_assoc] at hs
      exact ⟨_, o, q, .again hv hlt d hr, ho, hs, hq⟩
    · rintro e s'' ⟨rest, hr, hh⟩
      rw [List.append_assoc] at hh
      exact ⟨_, .again hv hlt d hr, hh⟩

/-! ## Runs -/

variable (roles) in
/-- What is called and how a run ends, from its first event to its last. -/
theorem after_drive {m : Nat} (h : Standing (.new m) [] s) :
    After (drive (recorded roles)) s
      (fun _ s' => ∃ k, k ≤ 2 ∧ Decided m 0 (List.replicate k .planned) s')
      fun e s' => ∃ k rest, k ≤ 2 ∧ Course m 0 rest .aborted ∧
        Halted m (List.replicate k .planned ++ rest) e s' := by
  refine after_bind.2 (after_get.2 (after_bind.2 (after_outside.2
    ((after_resolve roles s.workflow.requirements s.outside).mono (fun a o ho => ?_)
      fun f o ho => ?_))))
  · have h₁ := h.note (ho.trans (List.append_nil _).symm) rfl
    refine after_bind.2 (after_know.2 ⟨fun w hw => ?_, fun f _ => ?_⟩)
    · obtain ⟨hi, ht⟩ := WorkflowState.kept_setArchitecture hw
      have h₂ := (h₁.know hi ht).emit (.architectureResolved a)
      have hreplans : s.progress.maxReplans - s.progress.replans = 1 := by rw [h.progress]; rfl
      have hcycles : s.progress.maxCycles - s.progress.cycles = m := by rw [h.progress]; rfl
      rw [hreplans, hcycles]
      refine after_bind.2 (after_emit.2 (after_bind.2 ((after_planUntilApproved h₂ rfl
        (Nat.zero_le m) (Nat.le_refl 1)).mono ?_ ?_)))
      · rintro - s₃ ⟨k, q, hk, hstage, hq, hmax, h₃⟩
        refine after_bind.2 (after_get.2 ((after_cycles h₃ hstage hmax ?_).mono ?_ ?_))
        · rw [hq]
          exact Nat.zero_add m
        · intro _ s₄ h₄
          rw [hq] at h₄
          exact ⟨k, hk, h₄⟩
        · rintro e s₄ ⟨rest, hr, h₄⟩
          rw [hq] at hr
          exact ⟨k, rest, hk, hr, h₄⟩
      · rintro e s₃ ⟨k, hk, h₃⟩
        refine ⟨k, [], hk, .stopped, ?_⟩
        rw [List.append_nil]
        exact h₃
    · exact ⟨0, [], by omega, .stopped, ⟨f, rfl⟩, .new m, rfl, Nat.zero_le m, h₁⟩
  · have h₁ := h.note (ho.trans (List.append_nil _).symm) rfl
    exact ⟨0, [], by omega, .stopped, ⟨f, rfl⟩, .new m, rfl, Nat.zero_le m, h₁⟩

/-- How the calls of a run with `m` cycles, and its report, go together. -/
structure Classified (m : Nat) (calls : List Call) (r : RunReport) : Prop where
  plannings : plannings calls ≤ 2
  diagnoses : diagnoses calls ≤ m
  verifications : (verifications calls).length ≤ m + 1
  /-- A diagnosis is told the cycle that is to begin: one more than there were. -/
  told : ∀ before cycle d after, calls = before ++ .diagnosed cycle d :: after →
    cycle = Run.diagnoses before + 1
  cycles : r.cycles ≤ m
  passed : r.outcome = .passed ↔
    ∃ v, (Run.verifications calls).getLast? = some (.ok v) ∧ v.isPassed = true
  exhausted : r.outcome = .budgetExhausted ↔ ∃ before v after,
    calls = before ++ .verified (.ok v) :: after ∧ v.isPassed = false ∧ Run.diagnoses before = m
  budget : r.outcome = .budgetExhausted → r.failure = some (.budget m) ∧ r.cycles = m
  failed : r.outcome = .budgetExhausted →
    (∀ v, .verified (.ok v) ∈ calls → v.status = .passed ∨ v.status = .failed) → r.status = .failed
  aborted : r.outcome = .aborted → r.failure.isSome = true
  stage : r.stage = lastStage r.outcome

/-- After some plans, too, a budget is exhausted exactly if a verification fails after `m` diagnoses. -/
theorem exhausted_plans_iff {m : Nat} {rest : List Call} (hr : Course m 0 rest o)
    (k : Nat) :
    o = .budgetExhausted ↔ ∃ before v after,
      List.replicate k .planned ++ rest = before ++ .verified (.ok v) :: after ∧
        v.isPassed = false ∧ diagnoses before = m := by
  rw [hr.exhausted_iff]
  constructor
  · rintro ⟨before, v, after, rfl, hv, hd⟩
    refine ⟨List.replicate k .planned ++ before, v, after, by rw [List.append_assoc], hv, ?_⟩
    rw [diagnoses_plans, ← hd, Nat.zero_add]
  · rintro ⟨before, v, after, hs, hv, hd⟩
    obtain ⟨before', rfl, hrest⟩ := exists_of_plans rfl hs
    rw [diagnoses_plans] at hd
    exact ⟨before', v, after, hrest, hv, by rw [hd, Nat.zero_add]⟩

/-- A run that ends at a stage reports its outcome, and a budget only if that is the outcome. -/
theorem failure_finish {ρ : Type} {s : RunState ρ} (h : p.stage = lastStage o) (hs : s.progress = p)
    (runId : String) (failure : Option Failure) :
    (finish runId failure s).1.outcome = o ∧
      (finish runId failure s).1.failure =
        if o = .budgetExhausted then failure.or (some (.budget p.maxCycles)) else failure := by
  subst hs
  have hout : Outcome.ofStage s.progress.stage = o := by rw [h, ofStage_lastStage]
  rw [← hout]
  exact ⟨rfl, rfl⟩

/-- A run that ends after some plans and the course of its cycles. -/
theorem classified_finish {m k : Nat} {rest : List Call} {runId : String} {failure : Option Failure}
    (hk : k ≤ 2) (hr : Course m 0 rest o)
    (h : Standing p (List.replicate k .planned ++ rest) s) (hstage : p.stage = lastStage o)
    (hcycles : p.cycles ≤ m)
    (hbudget : o = .budgetExhausted → failure = none ∧ p.maxCycles = m ∧ p.cycles = m)
    (hfailure : o = .aborted → failure.isSome = true) :
    Classified m (finish runId failure s).2.outside.2 (finish runId failure s).1 := by
  have hcalls : (finish runId failure s).2.outside.2 = List.replicate k .planned ++ rest := h.calls
  obtain ⟨hout, hfail⟩ := failure_finish hstage h.progress runId failure
  rw [hcalls]
  constructor
  case plannings =>
    rw [plannings_plans, hr.plannings_eq]
    exact hk
  case diagnoses =>
    rw [diagnoses_plans]
    exact Nat.zero_add (diagnoses rest) ▸ hr.add_diagnoses_le (Nat.zero_le m)
  case verifications =>
    rw [verifications_plans]
    exact Nat.zero_add (verifications rest).length ▸ hr.add_verifications_le (Nat.zero_le m)
  case told =>
    intro before cycle d after hs
    obtain ⟨before', rfl, hrest⟩ := exists_of_plans rfl hs
    rw [diagnoses_plans, hr.eq_of_diagnosed hrest, Nat.zero_add]
  case cycles =>
    exact Nat.le_trans (Nat.le_of_eq h.cycles) hcycles
  case passed =>
    rw [hout, hr.passed_iff, verifications_plans]
  case exhausted =>
    rw [hout]
    exact exhausted_plans_iff hr k
  case budget =>
    intro hb
    rw [hout] at hb
    obtain ⟨rfl, hmax, hc⟩ := hbudget hb
    refine ⟨?_, h.cycles.trans hc⟩
    rw [hfail, if_pos hb, hmax]
    rfl
  case failed =>
    intro hb hknown
    rw [hout] at hb
    subst hb
    obtain ⟨before, v, rfl, hv, -⟩ := hr.eq_append_of_exhausted
    have hstatus : s.workflow.testStatus = v.status := by
      rw [h.status, ← List.append_assoc, statusAfter_append_report]
    refine hstatus.trans ((hknown v (by simp)).resolve_left fun hp => ?_)
    rw [VerificationReport.isPassed, hp] at hv
    cases hv
  case aborted =>
    intro ha
    rw [hout] at ha
    rw [hfail, ha, if_neg (by simp)]
    exact hfailure ha
  case stage =>
    rw [hout]
    show s.progress.stage = lastStage o
    rw [h.progress, hstage]

theorem stage_stopped (h : Outcome.ofStage p.stage = .aborted) :
    (stopped p).stage = .aborted ∧ (stopped p).cycles = p.cycles := by
  unfold stopped Progress.next?
  cases hs : p.stage <;> simp_all [Outcome.ofStage, Stage.isFinal, Progress.at_]

/-- How a recorded run ends. -/
theorem classified_recorded {m : Nat} (runId : String) (h : Standing (.new m) [] s) :
    (run (recorded roles) runId s).1.cycles = (run (recorded roles) runId s).2.progress.cycles ∧
      Classified m (run (recorded roles) runId s).2.outside.2 (run (recorded roles) runId s).1 := by
  have hdrive := after_drive roles
    (h.emit (.runStarted runId s.workflow.projectRoot s.progress.maxCycles))
  unfold After at hdrive
  cases hrun : (drive (recorded roles)).run
    (s.emit (.runStarted runId s.workflow.projectRoot s.progress.maxCycles)) with
  | mk r s₁ =>
    rw [hrun] at hdrive
    cases r with
    | error e =>
      rw [run_of_halt hrun]
      obtain ⟨k, rest, hk, hr, -, q, hq, hc, h₁⟩ := hdrive
      obtain ⟨hstage, hcycles⟩ := stage_stopped hq
      have h₂ : Standing (stopped q) (List.replicate k .planned ++ rest)
          { s₁ with progress := stopped s₁.progress } :=
        ⟨congrArg stopped h₁.progress, h₁.cycles.trans hcycles.symm, h₁.status, h₁.calls⟩
      refine ⟨h₂.cycles.trans (congrArg Progress.cycles h₂.progress).symm, ?_⟩
      exact classified_finish hk hr h₂ hstage (hcycles.symm ▸ hc) (fun ho => (by cases ho))
        fun _ => rfl
    | ok _ =>
      rw [run_of_ok hrun]
      obtain ⟨k, hk, rest, o, q, hr, ho, h₁, hstage, hmax, hc, hbudget⟩ := hdrive
      refine ⟨h₁.cycles.trans (congrArg Progress.cycles h₁.progress).symm, ?_⟩
      exact classified_finish hk hr h₁ hstage hc (fun hb => ⟨rfl, hmax, hbudget hb⟩)
        fun ha => absurd ha ho

/-- A run calls its planner, verifier and diagnoser a bounded number of times, fires no signal that is
refused, and its report tells how it ended. -/
theorem run_classified (roles : Roles σ) (runId requirements root : String) (m : Nat) (heard : Bool)
    (o : σ) :
    let s := RunState.start requirements root m heard o
    (run (recorded roles) runId (unrecorded s)).1 = (run roles runId s).1 ∧
      (∀ f, ((drive roles).run (s.emit (.runStarted runId root m))).1 ≠ .error (.refused f)) ∧
      (run roles runId s).1.cycles = (run roles runId s).2.progress.cycles ∧
      Classified m (callsOf roles runId s) (run roles runId s).1 := by
  intro s
  have hstart : Standing (.new m) [] (unrecorded s) := ⟨rfl, rfl, rfl, rfl⟩
  refine ⟨by rw [run_recorded roles runId s], fun f hf => ?_, ?_⟩
  · have hdrive := after_drive roles (hstart.emit (.runStarted runId root m))
    have htracks := (mirrors_recorded roles).drive
      ((unrecorded s).emit (.runStarted runId root m))
    rw [show ((drive roles).run (s.emit (.runStarted runId root m))).1 = _ from
      congrArg Prod.fst htracks] at hf
    unfold After at hdrive
    generalize (drive (recorded roles)).run _ = r at hdrive hf
    rcases r with ⟨e | _, s₁⟩
    · obtain ⟨-, -, -, -, ⟨f', rfl⟩, -⟩ := hdrive
      cases hf
    · cases hf
  · rw [run_recorded]
    exact classified_recorded runId hstart

end BuildLoop.Run
