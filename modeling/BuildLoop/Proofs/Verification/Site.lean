import BuildLoop.Proofs.Completeness
import BuildLoop.Proofs.Run.Step
import BuildLoop.Proofs.Workspace.Flat
import BuildLoop.Verification.Check

/-!
# What the check of a site reports

A check of files goes through them in order. It fails at the first one that is missing or not complete,
and its logs name the files before it, one on each line, and this one on the last:

    verify … of a static site is checkSite …                                          (run_verify_of_site)
    checkFiles w fs logs (done ++ path :: rest)  fails at path
        with logs ++ "ok: …\n" for each file of done ++ what is said of path        (exists_of_checkFiles)

A flat project has no incomplete file, so a site in its root passes or misses a file. What it misses is
the first of its files that is not there:

    checkSite w fs "index.html" passes, or reports the first missing file             (checkSite_of_flat)
-/

namespace BuildLoop.Verification

section

open Text

/-- What the logs say of files that are in order. -/
def passedText (done : List String) : String := String.join (done.map fun path => "ok: " ++ path ++ "\n")

/-- What a check says of a file at which it fails: that it is missing, or why it is not complete. -/
inductive Faulty (path : String) : FatalKind → String → Prop
  | missing : Faulty path .missingFile ("missing file: " ++ path)
  | incomplete {content : String} {e : Incomplete} (h : checkComplete path content = .error e) :
    Faulty path .syntaxError ("syntax error in " ++ e.text)

variable {w : Workspace} {fs : Files} {kind : FatalKind} {message : String}

theorem exists_of_checkFiles {logs : String} {files : List String}
    (h : (checkFiles w fs logs files).failure = some ⟨kind, message⟩) :
    ∃ done path rest, files = done ++ path :: rest ∧ Faulty path kind message ∧
      (checkFiles w fs logs files).logs = logs ++ (passedText done ++ message) := by
  induction files generalizing logs with
  | nil => cases h
  | cons path rest ih =>
    rw [checkFiles] at h ⊢
    cases hread : w.read fs path with
    | error e =>
      rw [hread] at h
      obtain ⟨rfl, rfl⟩ := VerificationFailure.mk.inj (Option.some.inj h)
      exact ⟨[], path, rest, rfl, .missing, rfl⟩
    | ok content =>
      rw [hread] at h
      simp only at h ⊢
      cases hcheck : checkComplete path content with
      | error e =>
        rw [hcheck] at h
        obtain ⟨rfl, rfl⟩ := VerificationFailure.mk.inj (Option.some.inj h)
        exact ⟨[], path, rest, rfl, .incomplete hcheck, rfl⟩
      | ok u =>
        rw [hcheck] at h
        obtain ⟨done, path', rest', rfl, hfaulty, hlogs⟩ := ih h
        refine ⟨path :: done, path', rest', rfl, hfaulty, hlogs.trans ?_⟩
        have hjoin : passedText (path :: done) = "ok: " ++ path ++ "\n" ++ passedText done := by
          rw [passedText, List.map_cons, String.join_cons]
          rfl
        rw [hjoin]
        simp only [String.append_assoc]

/-- The check of a static site starts no program and changes nothing. -/
theorem run_verify_of_site {a : Architecture} {h : Host} {milliseconds : Nat} {world : World} {entry : String}
    (hshape : detectShape a (w.tree world.files) = .staticSite entry) :
    (verify w h milliseconds a).run world = (.ok (checkSite w world.files entry), world) := by
  have hget : (get : Act World World).run world = (.ok world, world) := rfl
  unfold verify
  rw [Run.run_bind_ok hget]
  simp only [hshape]
  rfl

end

/-! ## Flat sites -/

open Text Workspace

variable {w : Workspace} {fs : Files} {files : List String} {html : String}

/-- The first file that is missing, in a list. -/
theorem checkFiles_of_flat (h : Flat w fs) (hfiles : ∀ f ∈ files, IsFileName f) (logs : String) :
    (checkFiles w fs logs files).isPassed = true ∨ ∃ done f rest, files = done ++ f :: rest ∧
      fs.node? (w.root ++ [f]) = none ∧
      checkFiles w fs logs files = missing siteCheck (logs ++ passedText done) f := by
  induction files generalizing logs with
  | nil => exact .inl rfl
  | cons f files ih =>
    have hname := hfiles f List.mem_cons_self
    cases hnode : fs.node? (w.root ++ [f]) with
    | none =>
      obtain ⟨e, he⟩ := h.read_of_none hname hnode
      refine .inr ⟨[], f, files, rfl, hnode, ?_⟩
      rw [checkFiles, he]
      simp [passedText]
    | some n =>
      obtain ⟨name, content, hsame, -, rfl, hcomplete⟩ := h.below [f] n (by simp) hnode
      obtain rfl : f = name := by simpa using hsame
      have hcheck : checkFiles w fs logs (f :: files) = checkFiles w fs (logs ++ "ok: " ++ f ++ "\n") files := by
        rw [checkFiles, h.read_eq hname hnode]
        simp only [hcomplete]
      rw [hcheck]
      rcases ih (fun g hg => hfiles g (List.mem_cons_of_mem _ hg)) (logs ++ "ok: " ++ f ++ "\n") with
        hpassed | ⟨done, g, rest, rfl, hg, hmissing⟩
      · exact .inl hpassed
      · refine .inr ⟨f :: done, g, rest, rfl, hg, hmissing.trans ?_⟩
        congr 1
        simp [passedText, String.append_assoc]

theorem siteFiles_of_flat (hread : w.read fs "index.html" = .ok html)
    (hassets : ∀ f ∈ referencedAssets html, IsFileName f) :
    siteFiles w fs "index.html" = "index.html" :: referencedAssets html := by
  have hdir : (splitDir "index.html").1 = "." := by decide
  have hpath : ∀ f ∈ referencedAssets html, assetPath "." f = f := by
    intro f hf
    have hslash : startsWith f "/" = false := by
      rw [Bool.eq_false_iff]
      intro hstart
      obtain ⟨r, hr⟩ := List.isPrefixOf_iff_prefix.1 hstart
      exact (hassets f hf).bare (hr ▸ List.mem_cons_self)
    unfold assetPath
    rw [hslash, if_neg (by decide), if_pos rfl]
  unfold siteFiles
  simp only [hread, hdir]
  rw [List.map_congr_left hpath, List.map_id']

theorem isFileName_page : IsFileName "index.html" :=
  ⟨by decide, List.all_iff_forall_prop.1 (by decide), by decide, by decide⟩

/-- A site in the root passes, or the first of its files that is not there is reported. -/
theorem checkSite_of_flat (h : Flat w fs) (hread : w.read fs "index.html" = .ok html)
    (hassets : ∀ f ∈ referencedAssets html, IsFileName f) :
    (checkSite w fs "index.html").isPassed = true ∨ ∃ done f, f ∈ referencedAssets html ∧
      (∀ g ∈ done, g = "index.html" ∨ g ∈ referencedAssets html) ∧ fs.node? (w.root ++ [f]) = none ∧
      checkSite w fs "index.html" = missing siteCheck (passedText done) f := by
  have hnames : ∀ f ∈ "index.html" :: referencedAssets html, IsFileName f := by
    intro f hf
    rcases List.mem_cons.1 hf with rfl | hf
    · exact isFileName_page
    · exact hassets f hf
  unfold checkSite
  rw [siteFiles_of_flat hread hassets]
  rcases checkFiles_of_flat h hnames "" with hpassed | ⟨done, f, rest, hfiles, hnode, hmissing⟩
  · exact .inl hpassed
  · have hmem : ∀ g ∈ done ++ f :: rest, g = "index.html" ∨ g ∈ referencedAssets html := by
      intro g hg
      rw [← hfiles] at hg
      exact List.mem_cons.1 hg
    refine .inr ⟨done, f, ?_, fun g hg => hmem g (List.mem_append_left _ hg), hnode,
      hmissing.trans (by rw [String.empty_append])⟩
    refine (hmem f (by simp)).resolve_left ?_
    rintro rfl
    obtain ⟨e, he⟩ := h.read_of_none isFileName_page hnode
    cases hread.symm.trans he

end BuildLoop.Verification
