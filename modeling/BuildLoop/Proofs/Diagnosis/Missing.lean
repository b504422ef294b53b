import BuildLoop.Proofs.Diagnosis.Correction
import BuildLoop.Proofs.Request.Page
import BuildLoop.Proofs.Request.Directive
import BuildLoop.Proofs.Worker.Scaffolding

/-!
# Corrections of missing files

A file that a site misses in its root is found by its name, and the task that corrects it asks for that
file. It tells no command unless the first sentence of the overview does, and it is approved:

    diagnose "… missing file: f" …   asks for f and is approved                      (asks_diagnose)
-/

namespace BuildLoop.Diagnosis

open Text Plan Worker Design Scaffold Verification

variable {a : Architecture} {f : String}

/-- The finding that a file is missing. -/
def missingFinding (f : String) : Finding := ⟨.missingFile, some f, none, "missing file: " ++ f, none⟩

/-- A name is what the manifest means by it, if no file of the manifest has a directory. -/
theorem manifestPath_of_bare (ha : ∀ p ∈ a.files.paths, '/' ∉ p.toList) (hf : BareName f.toList) :
    manifestPath a f = f := by
  have hblank : ∀ c ∈ f.toList, isBlank c = false := fun c hc => isBlank_of_isBareChar (hf.chars c hc)
  have hslash : '/' ∉ f.toList := hf.notMem (by decide)
  have hhere : ¬ "./".toList <+: f.toList := fun hstart => hslash (hstart.subset (by decide))
  rw [manifestPath_eq_self hblank (hf.notMem (by decide)) hhere]
  by_cases hlisted : f ∈ a.files.paths
  · obtain ⟨before, after, hpaths⟩ := List.append_of_mem hlisted
    exact .inl ⟨before, after, hpaths, fun p _ hends => hslash (hends.subset List.mem_cons_self)⟩
  · refine .inr ⟨hslash, fun p hp hbase => hlisted ?_⟩
    rw [← hbase, baseName_eq_self.2 (ha p hp)]
    exact hp

theorem settles_missing (hf : BareName f.toList) : Settles ("Create missing file " ++ f).toList f := by
  have hopening : IsOpening "Create missing file ".toList := by decide +kernel
  rw [String.toList_append]
  exact (settles_iff hopening).2 hf.named

theorem unquoted_of_bare (hf : BareName f.toList) : unquoted f = true :=
  unquoted_iff.2 (hf.notMem (by decide))

/-- The background of a request without a server tells no command beside the overview. -/
theorem echoes_background (request : String) :
    Echoes (clientOnly request) (background (clientOnly request)) := by
  have hstack : (clientOnly request).stack = ⟨"none", "HTML/CSS/JavaScript (Vanilla)", "none",
      ["No build process", "No npm/pip packages"]⟩ := rfl
  unfold background
  simp only [hstack]
  refine .after (.before ?_ .sentence) ?_
  · decide +kernel
  · rfl

theorem echoes_missing (hf : BareName f.toList) (request : String) :
    Echoes (clientOnly request) (describe (missingFinding f) (clientOnly request)) := by
  unfold describe missingFinding
  refine .before ?_ (echoes_background request)
  have hname := unquoted_of_bare hf
  simp only [Option.getD_some, unquoted_append, hname, Bool.and_true]
  decide +kernel

/-- What is diagnosed where a file is missing: an approved task that asks for it. -/
theorem diagnose_missing {request : String} {done : List String} (hdone : ∀ p ∈ done, Legible p)
    (hquiet : directive? (firstSentence (clientOnly request).overview) = none) (hf : BareName f.toList)
    (hlegible : Legible f) (cycle : Nat) (queue : List Task) :
    let d := diagnose (passedText done ++ ("missing file: " ++ f)) (clientOnly request) cycle (queue.map (·.id))
    (∃ summary, validateCorrective d.task queue = .approved summary) ∧ d.task.dependencies = [] ∧
      Asks d.task f := by
  have hpaths : ∀ p ∈ (clientOnly request).files.paths, '/' ∉ p.toList := by
    have hknown : ∀ p ∈ ["index.html", "style.css", "script.js", "README.md"], '/' ∉ p.toList := by decide
    exact hknown
  have hfinding : analyze (passedText done ++ ("missing file: " ++ f)) (clientOnly request) = missingFinding f := by
    rw [analyze_missing hdone hlegible, manifestPath_of_bare hpaths hf]
    rfl
  have hopens := opens_describe (a := clientOnly request) (f := missingFinding f) rfl rfl
  intro d
  have htask : d.task = correction (missingFinding f) (clientOnly request) cycle (queue.map (·.id)) := by
    show correction (analyze _ _) _ _ _ = _
    rw [hfinding]
  rw [htask]
  refine ⟨approved_iff.2 ⟨correctable_correction _ _ _ _, owned_correction (.inr ⟨f, rfl, settles_missing hf⟩)⟩,
    rfl, hopens.head?_mentioned (settles_missing hf), ?_⟩
  have hdirective := (echoes_missing hf request).isSome_directive?_eq (quiet_clientOnly request)
  rw [hquiet, Option.isSome_none, Option.isSome_eq_false_iff] at hdirective
  exact Option.isNone_iff_eq_none.1 hdirective

end BuildLoop.Diagnosis
