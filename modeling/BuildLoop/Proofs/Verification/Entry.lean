import BuildLoop.Proofs.Files.Folder
import BuildLoop.Proofs.Plan.Built
import BuildLoop.Proofs.Verification.Command

/-!
# The entry that an interpreter checks

The entry of a project that is checked by its interpreter is declared or lies in the tree, and it is a script:

    checkedEntry? (detectShape a tree) = some entry   →   IsScript entry, entry ∈ a.files.paths ++ tree
                                                                                        (of_detectShape)

Where no links are, the directory of an entry that is there is a place of the project      (hasPlace_of_leads)
-/

namespace BuildLoop.Verification

open Text Workspace Files

variable {w : Workspace} {fs : Files} {a : Architecture} {tree : List String} {entry : String}

/-- The entry of a project that its interpreter checks. -/
def checkedEntry? : ProjectShape → Option String
  | .pythonServer e | .pythonScript e | .nodeServer e | .nodeScript e => some e
  | .staticSite _ | .unknown => none

/-- Whether a path is that of a script. -/
def IsScript (path : String) : Prop := extension path = "py" ∨ extension path = "js"

/-! ## What the entry is -/

theorem of_find {paths : List String} {p : String → Bool} (h : paths.find? p = some entry)
    (hp : p entry = true → IsScript entry) : IsScript entry ∧ entry ∈ paths :=
  ⟨hp (List.find?_some h), List.mem_of_find?_eq_some h⟩

theorem of_backendShape {declared : List String} (h : checkedEntry? (backendShape declared tree) = some entry) :
    IsScript entry ∧ entry ∈ declared ++ tree := by
  have hdeclared : IsScript entry ∧ entry ∈ declared → IsScript entry ∧ entry ∈ declared ++ tree := fun h =>
    ⟨h.1, List.mem_append_left _ h.2⟩
  have hfound : IsScript entry ∧ entry ∈ tree → IsScript entry ∧ entry ∈ declared ++ tree := fun h =>
    ⟨h.1, List.mem_append_right _ h.2⟩
  have hscript : isBackendScript entry = true → IsScript entry := by
    rw [isBackendScript, Bool.and_eq_true, beq_iff_eq]
    exact fun h => .inr h.1
  unfold backendShape at h
  simp only at h
  split at h
  · next e he =>
    obtain rfl := Option.some.inj h
    rcases Option.or_eq_some_iff.1 he with he | ⟨-, he⟩
    · exact hdeclared (of_find he fun hp => .inl (beq_iff_eq.1 (Bool.and_eq_true_iff.1 hp).1))
    · have hmains : ∀ e ∈ ["backend/main.py", "backend/app.py", "main.py", "app.py"], extension e = "py" := by decide
      exact hfound ⟨.inl (hmains e (List.mem_of_find?_eq_some he)), List.contains_iff_mem.1 (List.find?_some he)⟩
  · split at h
    · next e he =>
      obtain rfl := Option.some.inj h
      exact hdeclared (of_find he fun hp => hscript (Bool.and_eq_true_iff.1 hp).1)
    · split at h
      · next e he =>
        obtain rfl := Option.some.inj h
        exact hfound (of_find he fun hp => .inl (beq_iff_eq.1 hp))
      · split at h
        · next e he =>
          obtain rfl := Option.some.inj h
          exact hfound (of_find he hscript)
        · cases h

theorem of_frontendShape {declared : List String} (h : checkedEntry? (frontendShape declared tree) = some entry) :
    IsScript entry ∧ entry ∈ tree := by
  unfold frontendShape at h
  simp only at h
  split at h
  · cases h
  · split at h
    · next e he =>
      obtain rfl := Option.some.inj h
      exact of_find he fun hp => .inl (beq_iff_eq.1 hp)
    · cases h

/-- An entry that an interpreter checks is a script that is declared or lies in the tree. -/
theorem of_detectShape (h : checkedEntry? (detectShape a tree) = some entry) :
    IsScript entry ∧ entry ∈ a.files.paths ++ tree := by
  unfold detectShape at h
  split at h
  · exact of_backendShape h
  · obtain ⟨hscript, hfound⟩ := of_frontendShape h
    exact ⟨hscript, List.mem_append_right _ hfound⟩

/-- The name of a script ends in a dot and two letters. -/
theorem exists_name_of_isScript (h : IsScript entry) :
    ∃ s ext, (baseName entry).toList = s ++ '.' :: ext ∧ (ext = ['p', 'y'] ∨ ext = ['j', 's']) := by
  have hne : extension entry ≠ "" := by
    rcases h with h | h
    · rw [h]; decide
    · rw [h]; decide
  have hext : (extension entry).toList = ['p', 'y'] ∨ (extension entry).toList = ['j', 's'] := by
    rcases h with h | h
    · exact .inl (by rw [h]; rfl)
    · exact .inr (by rw [h]; rfl)
  have hslash : '/' ∉ '.' :: (extension entry).toList := by
    rcases hext with h | h
    · rw [h]; decide
    · rw [h]; decide
  obtain ⟨s, hs, -⟩ := exists_extension hne
  obtain ⟨hbare, hpath⟩ := exists_baseName entry
  rcases hpath with hpath | ⟨dir, hpath⟩
  · exact ⟨s, _, by rw [← hpath, hs], hext⟩
  · rw [hs] at hpath
    obtain ⟨s', hs', -⟩ := exists_of_notMem_right hpath hslash
    exact ⟨s', _, hs', hext⟩

theorem isName_of_isScript (h : IsScript entry) : IsName (baseName entry) := by
  obtain ⟨s, ext, hname, hext⟩ := exists_name_of_isScript h
  have hne : ∀ dots ∈ ["", ".", ".."], ∀ ext ∈ [['p', 'y'], ['j', 's']],
      dots.toList.getLast? ≠ ('.' :: ext).getLast? := by decide
  have hmem : ext ∈ [['p', 'y'], ['j', 's']] := by simpa using hext
  have hall : ∀ dots ∈ ["", ".", ".."], baseName entry ≠ dots := by
    rintro dots hdots rfl
    refine hne _ hdots ext hmem ?_
    rw [hname, List.getLast?_append_of_ne_nil _ (List.cons_ne_nil _ _)]
  simpa [IsName] using hall

/-! ## Entries of a tree -/

/-- Whether all names in a tree are such as files can have. -/
def Named (fs : Files) : Prop := ∀ e ∈ fs.entries, ∀ n ∈ e.1, IsName n ∧ '/' ∉ n.toList

theorem splitAtEach_intercalate {names : List String} (hne : names ≠ []) (hnames : ∀ n ∈ names, '/' ∉ n.toList) :
    splitAtEach (· == '/') ("/".intercalate names).toList = names.map String.toList := by
  have hfree : ∀ n ∈ names, ∀ c ∈ n.toList, (c == '/') = false := fun n hn c hc =>
    beq_eq_false_iff_ne.2 fun he => hnames n hn (he ▸ hc)
  clear hnames
  induction names with
  | nil => exact absurd rfl hne
  | cons n names ih =>
    obtain ⟨hn, hfree⟩ := List.forall_mem_cons.1 hfree
    cases names with
    | nil => rw [String.intercalate_singleton, splitAtEach_of_free hn, List.map_singleton]
    | cons m names =>
      have hsplit : ("/".intercalate (n :: m :: names)).toList =
          n.toList ++ '/' :: ("/".intercalate (m :: names)).toList := by
        rw [String.intercalate_cons_cons, String.toList_append, String.toList_append, List.append_assoc]
        rfl
      rw [hsplit, splitAtEach_append hn rfl, ih (List.cons_ne_nil m names) hfree]
      rfl

/-- The path of a file in the tree consists of names. -/
theorem exists_of_mem_tree (hnamed : Named fs) {path : String} (h : path ∈ w.tree fs) :
    ∃ names, path = "/".intercalate names ∧ ∀ n ∈ names, IsName n ∧ '/' ∉ n.toList := by
  unfold Workspace.tree sorted at h
  rw [List.mem_mergeSort] at h
  obtain ⟨names, hnames, rfl⟩ := List.mem_map.1 h
  refine ⟨names, rfl, fun n hn => ?_⟩
  obtain ⟨e, he, hsome⟩ := List.mem_filterMap.1 hnames
  split at hsome
  · simp only at hsome
    split at hsome
    · obtain rfl := Option.some.inj hsome
      exact hnamed e he n (List.mem_of_mem_drop hn)
    · cases hsome
  · cases hsome

/-- A script in the tree lies inside the project. -/
theorem isRelativeInside_of_mem_tree (hnamed : Named fs) (h : entry ∈ w.tree fs) (hscript : IsScript entry) :
    isRelativeInside entry = true := by
  have hdot : '.' ∈ entry.toList := by
    obtain ⟨s, ext, hname, -⟩ := exists_name_of_isScript hscript
    have hmem : '.' ∈ (baseName entry).toList := by simp [hname]
    rcases (exists_baseName entry).2 with hpath | ⟨dir, hpath⟩
    · rwa [hpath]
    · rw [hpath]
      exact List.mem_append_right _ (List.mem_cons_of_mem _ hmem)
  obtain ⟨names, rfl, hnames⟩ := exists_of_mem_tree hnamed h
  cases names with
  | nil => cases hdot
  | cons n names =>
    have hsplit := splitAtEach_intercalate (List.cons_ne_nil n names) fun m hm => (hnames m hm).2
    unfold isRelativeInside
    rw [Bool.and_eq_true, Bool.and_eq_true]
    refine ⟨⟨?_, ?_⟩, ?_⟩
    · rw [Bool.not_eq_true', isBlankText, List.all_eq_false]
      exact ⟨'.', hdot, by decide⟩
    · have hall : ∀ m ∈ Files.namesOf ("/".intercalate (n :: names)), IsName m := by
        rw [Files.namesOf, hsplit, List.map_map]
        simpa using fun m hm => (hnames m hm).1
      simpa [isAbsolute] using (of_names hall).1
    · rw [pathComponents, hsplit, List.all_eq_true]
      intro piece hpiece
      obtain ⟨m, hm, rfl⟩ := List.mem_map.1 (List.mem_filter.1 hpiece).1
      rw [bne_iff_ne]
      intro hup
      exact (hnames m hm).1.2.2 (String.toList_injective hup)

/-! ## Where its directory lies -/

/-- A path is taken apart into its directory and its name. -/
theorem of_splitDir {path : String} (hpath : isAbsolute path = false) (hname : IsName (baseName path)) :
    isAbsolute (splitDir path).1 = false ∧ namesIn path = namesIn (splitDir path).1 ++ [baseName path] := by
  obtain ⟨hbare, -⟩ := exists_baseName path
  have hlast : namesIn (baseName path) = [baseName path] := namesIn_of_bare hname hbare
  have hdir : (splitDir path).1 = (dirName? path).getD "." := rfl
  cases hcut : cutAtLast '/' path.toList with
  | none =>
    have hnone : dirName? path = none := by rw [dirName?, hcut, Option.map_none]
    have hself : baseName path = path := by rw [baseName, hcut]
    have hhere : isAbsolute "." = false ∧ namesIn "." = [] := by decide
    rw [hself] at hlast ⊢
    rw [hdir, hnone, Option.getD_none, hhere.2, List.nil_append]
    exact ⟨hhere.1, hlast⟩
  | some parts =>
    have hsome : dirName? path = some (String.ofList parts.1) := by rw [dirName?, hcut, Option.map_some]
    have hbase : baseName path = String.ofList parts.2 := by rw [baseName, hcut]
    obtain ⟨hsplit, -⟩ := cutAtLast_eq_some.1 hcut
    rw [hdir, hsome, Option.getD_some, namesIn_of_append hsplit, ← hbase, hlast]
    refine ⟨?_, rfl⟩
    unfold isAbsolute at hpath ⊢
    rw [hsplit] at hpath
    rw [String.toList_ofList]
    cases hfirst : parts.1 with
    | nil => rfl
    | cons c dir => rwa [hfirst] at hpath

/-- Where no link lies, the directory of a script that is there is a place of the project. -/
theorem hasPlace_of_leads (hroot : ∀ n ∈ w.root, IsName n) (hfree : LinkFree w.root fs)
    (hentry : isRelativeInside entry = true) (hscript : IsScript entry) (hleads : w.leads fs entry = true) :
    HasPlace w fs (splitDir entry).1 := by
  obtain ⟨hrelative, hdown⟩ := of_isRelativeInside hentry
  have hname := isName_of_isScript hscript
  obtain ⟨hdir, hnames⟩ := of_splitDir hrelative hname
  have hup : ∀ n ∈ namesIn (splitDir entry).1, n ≠ ".." := fun n hn =>
    hdown n (hnames ▸ List.mem_append_left _ hn)
  have hplace : ∀ n ∈ w.root ++ namesIn (splitDir entry).1, IsName n := by
    intro n hn
    rcases List.mem_append.1 hn with hn | hn
    · exact hroot n hn
    · obtain ⟨hempty, hhere⟩ := of_mem_namesIn hn
      exact ⟨hempty, hhere, hup n hn⟩
  obtain ⟨q, hq⟩ : ∃ q, fs.locate (w.root ++ namesIn (splitDir entry).1 ++ [baseName entry]) = .ok q := by
    have hclimb : climb w.root (namesIn entry) = some (w.root ++ namesIn (splitDir entry).1 ++ [baseName entry]) := by
      rw [climb_of_names hdown, hnames, List.append_assoc]
    unfold Workspace.leads resolve at hleads
    simp only [hrelative, Bool.false_eq_true, if_false, hclimb] at hleads
    split at hleads
    · next p hp =>
      split at hp
      · obtain rfl := Except.ok.inj hp
        unfold Files.leads at hleads
        split at hleads
        · next q hq => exact ⟨q, hq⟩
        · cases hleads
      · cases hp
    · cases hleads
  have hplain := hfree.plain (namesIn (splitDir entry).1)
  have hlocate := locate_of_concat hplace hplain hq
  refine ⟨w.root ++ namesIn (splitDir entry).1, ?_, ?_⟩
  · unfold resolve
    simp only [hdir, Bool.false_eq_true, if_false, climb_of_names hup, nearest_of_locate hlocate]
    simp
  · unfold Files.locate at hq
    split at hq
    · cases hq
    · have hnil : [] ++ (w.root ++ namesIn (splitDir entry).1) = w.root ++ namesIn (splitDir entry).1 := rfl
      obtain ⟨hdirectory, -⟩ := directory_of_follow hplace (hnil.symm ▸ hplain) (node?_nil fs) hq hname
      unfold isDirectory
      rw [hlocate]
      simpa using hdirectory

end BuildLoop.Verification
