import BuildLoop.Proofs.Files.Folder
import BuildLoop.Proofs.Text.Fresh
import BuildLoop.Workspace.Basic

/-!
# Staging files

A staging file has a name of its own: no file of its directory has it, and it is not the name of the
file that is written. So writing through it changes that file and nothing else, and leaves nothing
behind if it fails:

    stage fs p s = (fs', ok)      →   fs' is fs with s at p                                 (of_stage)
    stage fs p s = (fs', error)   →   fs' is fs                                   (eq_of_stage_error)
-/

namespace BuildLoop.Workspace

open Text Files

variable {fs fs' : Files} {p : Path}

/-! ## Tokens -/

/-- The number that hexadecimal digits stand for, after others. -/
def hexValue (n : Nat) (digits : List Char) : Nat :=
  digits.foldl (fun n c => 16 * n + (if c.toNat < 97 then c.toNat - 48 else c.toNat - 87)) n

theorem hexValue_digitChar {n d : Nat} (h : d < 16) : hexValue n [d.digitChar] = 16 * n + d := by
  have hdigit : ∀ d < 16, (if d.digitChar.toNat < 97 then d.digitChar.toNat - 48
      else d.digitChar.toNat - 87) = d := by decide
  show 16 * n + _ = _
  rw [hdigit d h]

theorem hexValue_append (n : Nat) (a b : List Char) :
    hexValue n (a ++ b) = hexValue (hexValue n a) b := List.foldl_append

theorem hexValue_toDigits (n : Nat) : hexValue 0 (Nat.toDigits 16 n) = n := by
  induction n using Nat.strongRecOn with
  | _ n ih =>
    rw [Nat.toDigits_eq_if (by omega)]
    split
    · next hlt => rw [hexValue_digitChar hlt]; omega
    · rw [hexValue_append, ih (n / 16) (by omega), hexValue_digitChar (Nat.mod_lt n (by omega))]
      omega

theorem hexValue_zeros (k : Nat) (digits : List Char) :
    hexValue 0 (List.replicate k '0' ++ digits) = hexValue 0 digits := by
  have hzeros : hexValue 0 (List.replicate k '0') = 0 := by
    induction k with
    | zero => rfl
    | succ k ih => rw [List.replicate_succ', hexValue_append, ih]; rfl
  rw [hexValue_append, hzeros]

theorem stagingToken_injective : Function.Injective stagingToken := by
  intro m n h
  have hlist := congrArg String.toList h
  unfold stagingToken at hlist
  rw [String.toList_ofList, String.toList_ofList] at hlist
  have hvalue := congrArg (hexValue 0) hlist
  rwa [hexValue_zeros, hexValue_zeros, hexValue_toDigits, hexValue_toDigits] at hvalue

/-! ## Names -/

theorem exists_stagingName (fs : Files) (parent : Path) (name : String) :
    ∃ n, stagingName fs parent name = "." ++ name ++ "." ++ stagingToken n ++ ".tmp" := by
  unfold stagingName
  obtain ⟨n, -, h⟩ := exists_fresh (fun n => "." ++ name ++ "." ++ stagingToken n ++ ".tmp") _ 0
  exact ⟨n, h⟩

theorem length_stagingName (fs : Files) (parent : Path) (name : String) :
    name.length + 6 ≤ (stagingName fs parent name).length := by
  obtain ⟨n, h⟩ := exists_stagingName fs parent name
  rw [h]
  simp only [String.length_append]
  have hdot : ".".length = 1 := rfl
  have htmp : ".tmp".length = 4 := rfl
  omega

theorem stagingName_ne (fs : Files) (parent : Path) (name : String) :
    stagingName fs parent name ≠ name := by
  intro h
  have hlen := length_stagingName fs parent name
  rw [h] at hlen
  omega

theorem isName_stagingName (fs : Files) (parent : Path) (name : String) :
    IsName (stagingName fs parent name) := by
  have hlen := length_stagingName fs parent name
  refine ⟨?_, ?_, ?_⟩ <;> intro h <;> rw [h] at hlen
  · have hempty : "".length = 0 := rfl
    omega
  · have hhere : ".".length = 1 := rfl
    omega
  · have hup : "..".length = 2 := rfl
    omega

/-- Nothing lies at the place of a staging file, if its directory leads somewhere. -/
theorem node?_stagingName {parent d : Path} (h : fs.locate parent = .ok d) (name : String) :
    fs.node? (d ++ [stagingName fs parent name]) = none := by
  have hinj : Function.Injective fun n => "." ++ name ++ "." ++ stagingToken n ++ ".tmp" := by
    intro m n hmn
    refine stagingToken_injective ?_
    simpa [String.append_assoc] using hmn
  have hfresh : stagingName fs parent name ∉ (fs.children d).map (·.1) := by
    have hnot := fresh_notMem hinj ((fs.children d).map (·.1)) 0
    unfold stagingName
    rw [h]
    exact hnot
  rw [node?_of_ne (by simp), List.lookup_eq_none_iff]
  intro e he
  rw [bne_iff_ne]
  intro hpath
  refine hfresh (List.mem_map.2 ⟨(stagingName fs parent name, e.2), ?_, rfl⟩)
  refine List.mem_filterMap.2 ⟨e, he, ?_⟩
  rw [← hpath]
  simp

/-! ## Writing through a staging file -/

/-- Whether a tree has over another one new file. -/
structure Added (s : Path) (content : ByteArray) (fs staged : Files) : Prop where
  ne : s ≠ []
  free : fs.node? s = none
  self : staged.node? s = some (.file content)
  other : ∀ q, q ≠ s → staged.node? q = fs.node? q

namespace Added

variable {s : Path} {content : ByteArray} {staged : Files} (h : Added s content fs staged)
include h

theorem plain {q : Path} (hq : fs.Plain q) : staged.Plain q := by
  intro r t hr
  by_cases hrs : r = s
  · rw [hrs, h.self]
    simp
  · rw [h.other r hrs]
    exact hq r t hr

/-- The tree with the file removed again. -/
theorem node?_erase (q : Path) : (staged.erase s).node? q = fs.node? q := by
  by_cases hq : q = s
  · rw [hq, node?_erase_self h.ne, h.free]
  · rw [node?_erase_of_ne hq, h.other q hq]

/-- The tree with the file moved to another path. -/
theorem of_moveFile {moved : Files} (hs : ∀ name ∈ s, IsName name) (hp : ∀ name ∈ p, IsName name)
    (hplain : fs.Plain s) (hplain' : fs.Plain p) (hps : p ≠ s) (hne : p ≠ [])
    (hm : staged.moveFile s p = .ok moved) :
    fs.node? p ≠ some .directory ∧ moved.node? p = some (.file content) ∧
      ∀ q, q ≠ p → moved.node? q = fs.node? q := by
  obtain ⟨n, hn, hdir, rfl⟩ := Files.of_moveFile hs hp (h.plain hplain) (h.plain hplain') hm
  rw [h.self] at hn
  cases hn
  rw [h.other p hps] at hdir
  refine ⟨hdir, node?_put_self hne _, fun q hq => ?_⟩
  rw [node?_put_of_ne hq, h.node?_erase]

end Added

/-- What a staging file is: a new entry of a plain path. -/
theorem added_stagingName {parent : Path} {name : String} {content : ByteArray} {staged : Files}
    (hparent : ∀ n ∈ parent, IsName n) (hplain : fs.Plain parent)
    (hw : fs.writeFile (parent ++ [stagingName fs parent name]) content = .ok staged) :
    (∀ n ∈ parent ++ [stagingName fs parent name], IsName n) ∧
      fs.Plain (parent ++ [stagingName fs parent name]) ∧
      Added (parent ++ [stagingName fs parent name]) content fs staged := by
  have hfree := node?_stagingName (locate_of_writeFile hparent hplain hw) name
  have hname := isName_stagingName fs parent name
  generalize stagingName fs parent name = staging at *
  have hnames : ∀ n ∈ parent ++ [staging], IsName n := fun n hn => by
    rcases List.mem_append.1 hn with hn | hn
    · exact hparent n hn
    · exact List.mem_singleton.1 hn ▸ hname
  have hstaging : fs.Plain (parent ++ [staging]) := hplain.concat fun t => by rw [hfree]; simp
  obtain ⟨rfl, -⟩ := of_writeFile hnames hstaging hw
  exact ⟨hnames, hstaging, by simp, hfree, node?_put_self (by simp) _, fun q hq =>
    node?_put_of_ne hq _⟩

/-- What a staged write to a plain path does: the file is there, and all else is as it was. -/
theorem of_stage {content : String} (hp : ∀ name ∈ p, IsName name)
    (hplain : fs.Plain p) (hne : p ≠ []) (h : stage fs p content = (fs', .ok ())) :
    fs.node? p ≠ some .directory ∧ fs'.node? p = some (.file content.toUTF8) ∧
      ∀ q, q ≠ p → fs'.node? q = fs.node? q := by
  obtain ⟨parent, name, rfl⟩ : ∃ parent name, p = parent ++ [name] :=
    ⟨p.dropLast, p.getLast hne, (List.dropLast_append_getLast hne).symm⟩
  have hparent : ∀ n ∈ parent, IsName n := fun n hn => hp n (List.mem_append_left _ hn)
  have hplain' : fs.Plain parent := hplain.of_prefix (List.prefix_append _ _)
  have hdiffer : parent ++ [name] ≠ parent ++ [stagingName fs parent name] := fun he =>
    stagingName_ne fs parent name (by simpa using he.symm)
  unfold stage at h
  simp only [List.dropLast_concat, List.getLast?_concat, Option.getD_some] at h
  split at h
  · cases h
  · next staged hw =>
    obtain ⟨hnames, hstaging, hadded⟩ := added_stagingName hparent hplain' hw
    split at h
    · next moved hm =>
      cases h
      exact hadded.of_moveFile hnames hp hstaging hplain hdiffer hne hm
    · split at h <;> cases h

/-- A staged write that fails leaves the tree as it was, links or not: what was written to a staging
file can be removed from where it was written. -/
theorem eq_of_stage_error {content : String} {e : FileError} (h : stage fs p content = (fs', .error e)) :
    fs' = fs := by
  unfold stage at h
  simp only at h
  split at h
  · cases h
    rfl
  · next staged hw =>
    obtain ⟨q, hne, hnone, hentry, rfl⟩ :=
      put_of_writeFile (isName_stagingName fs _ _) (fun d hdir => node?_stagingName hdir _) hw
    rw [removeFile_of_entry (locateEntry_put hentry hnone _) (node?_put_self hne _),
      erase_put ((node?_of_ne hne).symm.trans hnone)] at h
    split at h <;> cases h
    rfl

end BuildLoop.Workspace
