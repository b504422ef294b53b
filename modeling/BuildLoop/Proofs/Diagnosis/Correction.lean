import BuildLoop.Diagnosis.Correction
import BuildLoop.Proofs.Plan.Approval
import BuildLoop.Proofs.Request.Design
import BuildLoop.Proofs.Text.Fresh

/-!
# Corrections that are approved

A diagnosis gives its task the role that owns the file it found, and validation asks for the role that
owns the first file that the description names. Nothing else can be wrong with a correction, so that it
is approved exactly if the two roles agree or the fault lies in the environment. They agree if the file
that was found is the first one that its description names, as it is unless it cannot be read back from
where the description opens with it:

    validateCorrective t queue = approved …  ↔  Correctable t queue ∧ Owned t            (approved_iff)
    correctiveId cycle taken = the least free id from the cycle's on               (correctiveId_least)
    describe f a opens with the file of f                                             (opens_describe)
    the file found is one of the design's  →  its correction is approved      (approved_of_mem_design)
-/

namespace BuildLoop.Diagnosis

open Text Plan

variable {a : Architecture} {cycle : Nat} {queue : List Task} {t : Task}

/-! ## Verdicts -/

/-- What a correction for a queue has to be, its role apart. -/
structure Correctable (t : Task) (queue : List Task) : Prop where
  sound : Sound t
  corrective : t.isCorrective = true
  known : ∀ d ∈ t.dependencies, d ∈ queue.map (·.id)
  new : t.id ∉ queue.map (·.id)

theorem approved_iff :
    (∃ s, validateCorrective t queue = .approved s) ↔ Correctable t queue ∧ Owned t := by
  have hverdict : (∃ s, validateCorrective t queue = .approved s) ↔ correctiveReasons t queue = [] := by
    unfold validateCorrective verdict
    split
    · next h => simpa using h
    · next h => simpa using h
  have hid : ∀ id, queue.any (·.id == id) = true ↔ id ∈ queue.map (·.id) := by
    intro id
    simp [List.any_eq_true]
  have hdependencies : (t.dependencies.filter fun dep => !queue.any (·.id == dep)) = [] ↔
      ∀ d ∈ t.dependencies, d ∈ queue.map (·.id) := by
    rw [List.filter_eq_nil_iff]
    refine forall_congr' fun d => imp_congr_right fun _ => ?_
    rw [← hid, Bool.not_eq_true, Bool.not_eq_false']
  rw [hverdict]
  simp only [correctiveReasons, List.append_eq_nil_iff, List.map_eq_nil_iff, ite_eq_right_iff,
    List.cons_ne_nil, imp_false, Option.toList_eq_nil_iff, roleReason?_eq_none, hid, hdependencies,
    Bool.not_eq_true, ne_eq, not_not, Bool.not_eq_eq_eq_not]
  constructor
  · rintro ⟨⟨⟨⟨⟨⟨hnamed, hdescribed⟩, hpending⟩, hcorrective⟩, hknown⟩, hnew⟩, howned⟩
    exact ⟨⟨⟨hnamed, hdescribed, hpending⟩, by simpa using hcorrective, hknown, hnew⟩, howned⟩
  · rintro ⟨⟨⟨hnamed, hdescribed, hpending⟩, hcorrective, hknown, hnew⟩, howned⟩
    exact ⟨⟨⟨⟨⟨⟨hnamed, hdescribed⟩, hpending⟩, by simpa using hcorrective⟩, hknown⟩, hnew⟩, howned⟩

/-! ## Ids -/

theorem isBlankText_correctiveId (cycle : Nat) (taken : List String) :
    isBlankText (correctiveId cycle taken) = false := by
  obtain ⟨k, -, hk⟩ := exists_fresh fixId taken (max cycle 1)
  rw [correctiveId, hk, fixId, isBlankText_append, not_blank_of_letter 'f' rfl (by decide), Bool.false_and]

theorem correctiveId_notMem (cycle : Nat) (taken : List String) : correctiveId cycle taken ∉ taken :=
  fresh_notMem (append_toString_injective "fix_") taken _

/-- A counter of 32 bits that starts at the cycle's number, or at one, finds the least free id without
overflow if it can hold the numbers of as many ids as are taken. -/
theorem correctiveId_least (cycle : UInt32) (taken : List String)
    (h : max cycle.toNat 1 + taken.length < UInt32.size) :
    ∃ k : UInt32, Relation.ReflTransGen (Turn fixId taken) (max cycle 1) k ∧
      correctiveId cycle.toNat taken = fixId k.toNat ∧
      IsLeast {k | max cycle.toNat 1 ≤ k ∧ fixId k ∉ taken} k.toNat := by
  have hstart : (max cycle 1).toNat = max cycle.toNat 1 := UInt32.toNat_max cycle 1
  rw [← hstart] at h
  obtain ⟨k, hturns, hk, hleast⟩ := exists_turns_fresh (append_toString_injective "fix_") h
  rw [hstart] at hk hleast
  exact ⟨k, hturns, hk, hleast⟩

/-- Ids with gaps between their numbers, some of them twice. -/
def gappedIds : List String := ["fix_3", "task_1", "fix_2", "fix_3", "fix_5"]

theorem correctiveId_least_gapped : max (2 : UInt32).toNat 1 + gappedIds.length < UInt32.size ∧
    correctiveId 2 gappedIds = "fix_4" ∧
    ∃ k : UInt32, Relation.ReflTransGen (Turn fixId gappedIds) (max 2 1) k ∧
      correctiveId 2 gappedIds = fixId k.toNat ∧ IsLeast {k | max 2 1 ≤ k ∧ fixId k ∉ gappedIds} k.toNat := by
  have hbound : max (2 : UInt32).toNat 1 + gappedIds.length < UInt32.size := by decide
  exact ⟨hbound, by decide +kernel, correctiveId_least 2 gappedIds hbound⟩

/-! ## What a correction opens with -/

/-- What the description of a finding in a file says before the file, unless the fault lies in the
environment. -/
def lead : Fault → String
  | .missingFile => "Create missing file "
  | .syntaxError => "Rewrite "
  | _ => "Fix "

theorem opens_describe {f : Finding} {path : String} (hfile : f.file = some path)
    (hkind : f.kind.isEnvironment = false) : Opens (lead f.kind ++ path).toList (describe f a) := by
  unfold describe
  simp only [hfile, Option.getD_some, String.append_assoc]
  cases hk : f.kind with
  | missingDependency | configurationError => simp [hk, Fault.isEnvironment] at hkind
  | missingFile | syntaxError => exact opens_named _ path rfl isPathStop_blank _
  | importError | runtimeError =>
    cases f.line with
    | none =>
      simp only [String.empty_append]
      exact opens_named _ path rfl isPathStop_colon _
    | some n =>
      simp only [String.append_assoc]
      exact opens_named _ path rfl isPathStop_blank _

theorem isBlankText_describe (f : Finding) (a : Architecture) : isBlankText (describe f a) = false := by
  have hinstall : isBlankText "Install missing " = false := not_blank_of_letter 'I' rfl (by decide)
  have hcreate : isBlankText "Create missing file " = false := not_blank_of_letter 'C' rfl (by decide)
  have hrewrite : isBlankText "Rewrite " = false := not_blank_of_letter 'R' rfl (by decide)
  have hfix : isBlankText "Fix " = false := not_blank_of_letter 'F' rfl (by decide)
  have hconfigure : isBlankText "Fix the configuration of " = false := not_blank_of_letter 'F' rfl (by decide)
  unfold describe installText
  cases f.kind <;>
    simp only [isBlankText_append, hinstall, hcreate, hrewrite, hfix, hconfigure, Bool.false_and]

/-! ## Roles -/

theorem owned_of_environment (h : t.fault.any Fault.isEnvironment = true) : Owned t :=
  fun _ _ _ _ => .inl h

/-- The role of a correction of a file is the one that owns it. -/
theorem eq_correctiveRole {fault : Fault} {file : String} {role : Role} (hfault : fault.isEnvironment = false)
    (hrole : Role.ofPath? file = some role) : role = correctiveRole fault (some file) a := by
  simp [correctiveRole, hfault, hrole]

/-! ## Corrections of findings -/

theorem correctable_correction (f : Finding) (a : Architecture) (cycle : Nat) (queue : List Task) :
    Correctable (correction f a cycle (queue.map (·.id))) queue where
  sound := ⟨isBlankText_correctiveId _ _, isBlankText_describe f a, rfl⟩
  corrective := rfl
  known := fun _ hd => absurd hd List.not_mem_nil
  new := correctiveId_notMem _ _

theorem owned_correction {f : Finding} {taken : List String} (h : f.kind.isEnvironment = true ∨
    ∃ path, f.file = some path ∧ Settles (lead f.kind ++ path).toList path) :
    Owned (correction f a cycle taken) := by
  cases hkind : f.kind.isEnvironment with
  | true => exact owned_of_environment hkind
  | false =>
    rcases h with h | ⟨path, hpath, hsettles⟩
    · rw [hkind] at h
      cases h
    · intro file hfile role hrole
      have hfirst : (correction f a cycle taken).primaryFile? = some path :=
        (opens_describe hpath hkind).head?_mentioned hsettles
      obtain rfl := Option.some.inj (hfirst.symm.trans hfile)
      refine .inr ((eq_correctiveRole (a := a) hkind hrole).trans ?_)
      rw [← hpath]
      rfl

/-! ## Corrections that a model proposes -/

section
variable {p : ProposedFix} (hp : isBlankText p.description = false)
include hp

theorem exists_finalize (a : Architecture) (cycle : Nat) (queue : List Task) :
    ∃ d, finalize p a cycle (queue.map (·.id)) = .ok d ∧ Correctable d.task queue ∧
      (p.fault.isEnvironment = true ∨ p.file = none ∨ p.file = (mentioned p.description).head? →
        Owned d.task) := by
  have hid : ∀ taken : List String, isBlankText (if isBlankText p.id || taken.contains p.id then
        correctiveId cycle taken else p.id) = false ∧
      (if isBlankText p.id || taken.contains p.id then correctiveId cycle taken else p.id) ∉ taken := by
    intro taken
    split
    · exact ⟨isBlankText_correctiveId cycle taken, correctiveId_notMem cycle taken⟩
    · next h =>
      rw [Bool.or_eq_true, not_or, Bool.not_eq_true, List.contains_iff_mem] at h
      exact h
  unfold finalize
  rw [if_neg (by simp [hp])]
  refine ⟨_, rfl, ⟨⟨(hid _).1, hp, rfl⟩, rfl, fun _ hd => absurd hd List.not_mem_nil, (hid _).2⟩, ?_⟩
  intro hcases file hfile role hrole
  have hfile : (mentioned p.description).head? = some file := hfile
  cases hfault : p.fault.isEnvironment with
  | true => exact .inl hfault
  | false =>
    have hnamed : p.file.or (mentioned p.description).head? = some file := by
      rcases hcases with h | h | h
      · rw [hfault] at h
        cases h
      · rw [h, hfile, Option.none_or]
      · rw [h, hfile, Option.some_or]
    refine .inr ((eq_correctiveRole (a := a) hfault hrole).trans ?_)
    simp only [Task.new, Task.primaryFile?, Task.files, hnamed, Option.isSome_some, if_true]

end

/-! ## Diagnoses -/

/-- Whatever the logs, the architecture and the queue, the task of a diagnosis is approved exactly if its
role owns the first file that its description names or the fault lies in the environment, be it found by
rule or proposed by a model. So it is if the file that was found is read back from what the description
opens with; and a proposal is if it names no file or the one that its description names first. -/
theorem diagnoses_approved (logs : String) (a : Architecture) (cycle : Nat) (queue : List Task) :
    ((∃ s, validateCorrective (diagnose logs a cycle (queue.map (·.id))).task queue = .approved s) ↔
      Owned (diagnose logs a cycle (queue.map (·.id))).task) ∧
    ((analyze logs a).kind.isEnvironment = true ∨ (∃ path, (analyze logs a).file = some path ∧
        Settles (lead (analyze logs a).kind ++ path).toList path) →
      Owned (diagnose logs a cycle (queue.map (·.id))).task) ∧
    ∀ p : ProposedFix, isBlankText p.description = false →
      ∃ d, finalize p a cycle (queue.map (·.id)) = .ok d ∧
        ((∃ s, validateCorrective d.task queue = .approved s) ↔ Owned d.task) ∧
        (p.fault.isEnvironment = true ∨ p.file = none ∨ p.file = (mentioned p.description).head? →
          Owned d.task) := by
  refine ⟨?_, owned_correction, fun p hp => ?_⟩
  · exact approved_iff.trans (and_iff_right (correctable_correction _ a cycle queue))
  · obtain ⟨d, hd, hcorrectable, howned⟩ := exists_finalize hp a cycle queue
    exact ⟨d, hd, approved_iff.trans (and_iff_right hcorrectable), howned⟩

theorem diagnoses_approved_proposal :
    ∃ d, finalize ⟨"", "Rewrite index.html", .backend, .syntaxError, none, none⟩
        (Design.clientOnly "calculator") 1 [] = .ok d ∧
      ∃ s, validateCorrective d.task [] = .approved s := by
  obtain ⟨-, -, hproposed⟩ := diagnoses_approved "" (Design.clientOnly "calculator") 1 []
  obtain ⟨d, hd, happroved, howned⟩ :=
    hproposed ⟨"", "Rewrite index.html", .backend, .syntaxError, none, none⟩ (by decide)
  exact ⟨d, hd, happroved.2 (howned (.inr (.inl rfl)))⟩

/-- A server with a page that its overview names. -/
def servedPage : Architecture where
  stack := ⟨"Flask", "HTML", "SQLite", []⟩
  overview := "Edit index.html."
  files := ⟨[⟨"main.py", "Server"⟩], [⟨"index.html", "Page"⟩], []⟩
  dependencies := ⟨[], []⟩
  endpoints := []
  dataFlow := "The page calls the server."
  instructions := ""

/-- The file that is missing belongs to no role, so that its correction goes to the backend; the first
file of the description is the one that the overview names. -/
theorem diagnosis_rejected :
    validateCorrective (diagnose "No such file or directory: 'data.db'" servedPage 1 []).task [] =
      .rejected ["task fix_1 targets index.html but is assigned to backend instead of frontend"] := by
  decide +kernel

/-! ## Diagnoses of designs -/

theorem settles_lead : ∀ words ∈ ["Create missing file ", "Rewrite ", "Fix "],
    ∀ path ∈ Design.knownPaths, Settles (words.toList ++ path.toList) path := by
  have hcreation : IsOpening "Create ".toList := by decide
  have hopening : ∀ words ∈ ["Create missing file ", "Rewrite ", "Fix "], IsOpening words.toList := by
    decide +kernel
  intro words hwords path hpath
  exact (settles_iff (hopening words hwords)).2 ((settles_iff hcreation).1 (Design.settles_creation path hpath))

/-- Every diagnosis of a design is approved if the file that was found is one of the design's. -/
theorem approved_of_mem_design {request logs path : String}
    (hfile : (analyze logs (design request)).file = some path)
    (hpath : path ∈ (design request).files.paths) (cycle : Nat) (queue : List Task) :
    ∃ s, validateCorrective (diagnose logs (design request) cycle (queue.map (·.id))).task queue =
      .approved s := by
  have hlead : ∀ kind, lead kind ∈ ["Create missing file ", "Rewrite ", "Fix "] := by
    intro kind
    cases kind <;> decide
  have hsettles := settles_lead _ (hlead (analyze logs (design request)).kind) path
    ((paths_design request).subset hpath)
  rw [← String.toList_append] at hsettles
  have howned : Owned (diagnose logs (design request) cycle (queue.map (·.id))).task :=
    owned_correction (.inr ⟨path, hfile, hsettles⟩)
  exact approved_iff.2 ⟨correctable_correction _ _ cycle queue, howned⟩

end BuildLoop.Diagnosis
