import BuildLoop.Proofs.Json.Extent
import BuildLoop.Proofs.Text.Lines
import BuildLoop.Proofs.Workspace.Confine
import BuildLoop.Worker.Scaffolding

/-!
# Manifests with a package recorded

A manifest of Python packages gets a line, a manifest of Node packages a member. What is written has the
package, so that nothing is to be written when the same is to be recorded once more:

    recordedLine text p = none   ↔   Lists text p,   otherwise it is withLine text p     (recordedLine_eq)
    linesOf (withLine text p) = the lines of text ++ [p]                                (linesOf_withLine)
    recordedMember m p = some s, parse s = ok m'   →   recordedMember m' p = none
                                                                               (recordedMember_of_recorded)
    updated w fs … = ok (some s), s is read from fs'   →   nothing to be written in fs'  (settled_of_read)
-/

namespace BuildLoop.Worker

open Text Files

/-! ## Lines of a manifest -/

section
variable {text package : String}

/-- Whether a line of a text has the name of a package. -/
def Lists (text package : String) : Prop := ∃ l ∈ linesOf text, lineName l = lineName package

instance (text package : String) : Decidable (Lists text package) := by
  unfold Lists
  infer_instance

/-- A text with a package in a line at its end, instead of the blanks there. -/
def withLine (text package : String) : String :=
  let kept := String.ofList (trimEnd text.toList)
  (if kept.isEmpty then "" else kept ++ "\n") ++ package ++ "\n"

theorem recordedLine_eq (text package : String) :
    recordedLine text package = if Lists text package then none else some (withLine text package) := by
  unfold recordedLine
  by_cases h : Lists text package
  · rw [if_pos h, if_pos]
    simpa [Lists] using h
  · rw [if_neg h, if_neg (by simpa [Lists] using h)]
    rfl

/-- A package that is one word, and no option. -/
structure IsToken (package : String) : Prop where
  nonempty : package ≠ ""
  unblanked : ∀ c ∈ package.toList, isBlank c = false
  plain : startsWith package "-" = false

theorem linesOf_withLine (h : IsToken package) (text : String) :
    linesOf (withLine text package) = linesOf (String.ofList (trimEnd text.toList)) ++ [package] := by
  have hfeed : "\n".toList = ['\n'] := rfl
  unfold linesOf withLine
  rcases trimEnd_eq_nil_or_concat text.toList with hkept | ⟨kept, c, hkept, hc⟩
  · have hnil : lines [] = [] := rfl
    rw [hkept, String.toList_ofList, hnil]
    simp only [String.isEmpty_iff.2 (String.ofList_nil), if_true, String.toList_append, String.toList_empty,
      List.nil_append, hfeed, lines_word h.unblanked, List.map_singleton, String.ofList_toList, List.map_nil]
  · have hne : (String.ofList (kept ++ [c])).isEmpty = false := by
      rw [Bool.eq_false_iff, ne_eq, String.isEmpty_iff]
      intro heq
      simpa using congrArg String.toList heq
    have hlines := lines_append_line h.unblanked hc kept
    simp only [List.append_assoc, List.cons_append, List.nil_append] at hlines
    rw [hkept]
    simp only [hne, Bool.false_eq_true, if_false, String.toList_append, String.toList_ofList, hfeed, List.append_assoc,
      List.cons_append, List.nil_append, hlines, List.map_append, List.map_singleton, String.ofList_toList]

theorem lists_withLine (h : IsToken package) (text : String) : Lists (withLine text package) package :=
  ⟨package, by rw [linesOf_withLine h]; exact List.mem_append_right _ List.mem_cons_self, rfl⟩

theorem installedPackage?_pip (h : IsToken package) : installedPackage? ("pip install " ++ package) = some package := by
  have hne : package.toList ≠ [] := fun hnil => h.nonempty (String.toList_eq_nil_iff.1 hnil)
  have hcommand : ("pip install " ++ package).toList = "pip install".toList ++ ' ' :: package.toList := by
    rw [String.toList_append]
    rfl
  have hargv : (words ("pip install " ++ package).toList).map String.ofList = ["pip", "install", package] := by
    rw [hcommand, words_append_cons (by decide), words_of_free hne h.unblanked, List.map_append, List.map_singleton,
      String.ofList_toList]
    rfl
  have hoption : package ≠ "-r" := by
    rintro rfl
    exact absurd h.plain (by decide)
  unfold installedPackage?
  simp only [hargv]
  rw [if_pos ⟨rfl, by simpa using hoption.symm⟩]
  simp [h.plain]

theorem recordDependency_pip (h : IsToken package) (w : Workspace) (t : Task) :
    recordDependency w t ("pip install " ++ package) = recordIn w t package t.files := by
  unfold recordDependency
  rw [installedPackage?_pip h]

end

/-! ## Members of a manifest -/

theorem sorted_dependencies {members dependencies : List (String × Json)} (h : Json.Parsed (.object members))
    (hdependencies : (Json.lookup "dependencies" members).getD (.object []) = .object dependencies) :
    Json.Sorted dependencies := by
  cases hlookup : Json.lookup "dependencies" members with
  | none =>
    rw [hlookup] at hdependencies
    cases hdependencies
    exact .nil
  | some v =>
    rw [hlookup] at hdependencies
    cases hdependencies
    exact (Json.parsed_object ((Json.parsed_object h).2 _ (Json.mem_of_lookup hlookup))).1

/-- What a manifest is written as has the package, if it can be read at all. -/
theorem recordedMember_of_recorded {manifest again : Json} {package content : String} (hmanifest : Json.Parsed manifest)
    (hrecorded : recordedMember manifest package = some content) (hagain : Json.parse content = .ok again) :
    recordedMember again package = none := by
  unfold recordedMember at hrecorded
  split at hrecorded
  · next members =>
    split at hrecorded
    · next dependencies hdependencies =>
      obtain ⟨ds, hadd, rfl⟩ := Option.map_eq_some_iff.1 hrecorded
      unfold addMember at hadd
      split at hadd <;> cases hadd
      have hmembers := (Json.sorted_insert (k := "dependencies") (v := .object (Json.insert package (.text "*")
        dependencies)) (Json.parsed_object hmanifest).1).nodup_keys
      have hds := (Json.sorted_insert (k := package) (v := .text "*") (sorted_dependencies hmanifest
        hdependencies)).nodup_keys
      obtain ⟨e, vs, w, -, rfl, hfound, hw⟩ := (Json.readFor_of_parse hagain).member hmembers (Json.lookup_insert _ _ _)
      obtain ⟨-, ws, star, -, rfl, hstar, -⟩ := hw.member hds (Json.lookup_insert _ _ _)
      simp [recordedMember, hfound, addMember, hstar]
    · cases hrecorded
  · cases hrecorded

/-! ## One file -/

section
variable {w : Workspace} {t : Task} {fs fs' : Files} {file package content : String}

/-- Whether a package is recorded in files of this name. -/
def IsManifest (file : String) : Prop := baseName file = "requirements.txt" ∨ baseName file = "package.json"

theorem updated_of_not_manifest (h : ¬ IsManifest file) : updated w fs t file package = .ok none := by
  unfold updated
  rw [if_neg fun hname => h (.inl hname), if_neg fun hname => h (.inr hname)]

theorem updated_requirements (hname : baseName file = "requirements.txt") :
    updated w fs t file package = .ok (recordedLine ((w.read fs file).toOption.getD "") package) := by
  unfold updated
  rw [if_pos hname]

theorem updated_package (hname : baseName file = "package.json") : updated w fs t file package = do
    let current ← w.read fs file
    let manifest ← (Json.parse current).mapError fun e => .task t.id (file ++ " is not valid JSON: " ++ e.text)
    return recordedMember manifest package := by
  unfold updated
  rw [if_neg (by rw [hname]; decide), if_pos hname]
  cases w.read fs file with
  | error e => rfl
  | ok current =>
    simp only [bind, Except.bind]
    cases Json.parse current <;> rfl

theorem updated_congr (h : w.read fs' file = w.read fs file) :
    updated w fs' t file package = updated w fs t file package := by
  unfold updated
  rw [h]

/-- Whether nothing is to be written into a file: it has the package, or is none that can have it. -/
def Settled (w : Workspace) (fs : Files) (t : Task) (file package : String) : Prop :=
  ∀ content, updated w fs t file package ≠ .ok (some content)

theorem settled_of_none (h : updated w fs t file package = .ok none) : Settled w fs t file package := by
  intro content hcontent
  rw [h] at hcontent
  cases hcontent

/-- A manifest into which nothing was to be written can be read. -/
theorem exists_read_of_none (hmanifest : IsManifest file) (h : updated w fs t file package = .ok none) :
    ∃ s, w.read fs file = .ok s := by
  cases hread : w.read fs file with
  | ok s => exact ⟨s, rfl⟩
  | error e =>
    rcases hmanifest with hname | hname
    · rw [updated_requirements hname, hread] at h
      cases h
    · unfold updated at h
      rw [if_neg (by rw [hname]; decide), if_pos hname, hread] at h
      cases h

/-- What is written into a manifest has the package, whatever it is read as. -/
theorem settled_of_read (hpackage : IsToken package) (hupdated : updated w fs t file package = .ok (some content))
    (hread : w.read fs' file = .ok content) : Settled w fs' t file package := by
  by_cases hmanifest : IsManifest file
  · rcases hmanifest with hname | hname
    · rw [updated_requirements hname, recordedLine_eq] at hupdated
      have hline := Except.ok.inj hupdated
      split at hline
      · cases hline
      · refine settled_of_none ?_
        rw [updated_requirements hname, hread, recordedLine_eq]
        refine congrArg Except.ok (if_pos ?_)
        rw [← Option.some.inj hline]
        exact lists_withLine hpackage _
    · rw [updated_package hname] at hupdated
      obtain ⟨current, -, hupdated⟩ := exists_of_bind hupdated
      obtain ⟨manifest, hmanifest, hupdated⟩ := exists_of_bind hupdated
      intro again hagain
      rw [updated_package hname, hread] at hagain
      obtain ⟨_, ⟨⟩, hagain⟩ := exists_of_bind hagain
      obtain ⟨manifest', hmanifest', hagain⟩ := exists_of_bind hagain
      have hnone := recordedMember_of_recorded (Json.parsed_of_parse (of_mapError hmanifest)) (Except.ok.inj hupdated)
        (of_mapError hmanifest')
      rw [hnone] at hagain
      cases hagain
  · rw [updated_of_not_manifest hmanifest] at hupdated
    cases hupdated

end

end BuildLoop.Worker
