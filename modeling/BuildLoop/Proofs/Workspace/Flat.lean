import Mathlib.Data.Bool.AllAny
import BuildLoop.Proofs.Workspace.Write

/-!
# Projects without directories

In a flat project every file lies directly in the root, is complete and shows: its name does not start
with a full stop. A file with a name of plain characters that is not too long can then always be
written, and the project stays flat. What is there is read back; what is not there is not.

    Flat w fs, refusal? … = none   →   w.write fs f s = (ok …, fs.put (root/f) s)           (Flat.write_eq)
                                       and that is flat                                          (Flat.put)
    Flat w fs   →   w.read fs f = ok s   ↔   s lies at root/f                             (Flat.read_eq_ok)
-/

namespace BuildLoop

namespace Text

/-- A text has no more bytes than its characters may have. -/
theorem utf8ByteSize_le {n : Nat} {s : String} (h : ∀ c ∈ s.toList, c.utf8Size ≤ n) :
    s.utf8ByteSize ≤ s.toList.length * n := by
  obtain ⟨l, rfl⟩ : ∃ l, s = String.ofList l := ⟨s.toList, String.ofList_toList.symm⟩
  rw [String.toList_ofList] at h ⊢
  induction l with
  | nil => simp
  | cons c l ih =>
    have hcons : String.ofList (c :: l) = String.singleton c ++ String.ofList l := by
      apply String.toList_injective
      simp
    have htail := ih fun d hd => h d (List.mem_cons_of_mem _ hd)
    have hhead := h c List.mem_cons_self
    rw [hcons, String.utf8ByteSize_append, String.utf8ByteSize_singleton, List.length_cons, Nat.succ_mul]
    omega

theorem utf8Size_of_ascii {c : Char} (h : c.toNat < 128) : c.utf8Size = 1 := by
  have hval : c.val ≤ 127 := by
    rw [UInt32.le_iff_toNat_le]
    show c.toNat ≤ 127
    omega
  unfold Char.utf8Size
  exact if_pos hval

end Text

namespace Files

/-- What a directory holds lies there. -/
theorem node?_of_mem_children {fs : Files} {dir : Path} {child : String × Node} (h : child ∈ fs.children dir) :
    ∃ n, fs.node? (dir ++ [child.1]) = some n := by
  obtain ⟨e, he, hchild⟩ := List.mem_filterMap.1 h
  have hpath : e.1 = dir ++ [child.1] := by
    split at hchild
    · next name hlast =>
      split at hchild
      · next hdir =>
        cases hchild
        rw [← hdir]
        exact (List.dropLast_append_getLast? name hlast).symm
      · cases hchild
    · cases hchild
  rw [← Option.isSome_iff_exists, Option.isSome_iff_ne_none, node?_of_ne (by simp)]
  intro hnone
  simpa [hpath] using List.lookup_eq_none_iff.1 hnone e he

theorem pathFault?_eq_none_of_locate {fs : Files} {p q : Path} (h : fs.locate p = .ok q) :
    pathFault? p = none := by
  unfold locate at h
  split at h
  · cases h
  · next hnone => exact hnone

/-- A path to which there is room to add a name has no fault with the name either. -/
theorem pathFault?_concat {dir : Path} {name : String} (hdir : pathFault? dir = none)
    (hname : isBadName name = false)
    (hroom : (Path.text dir).utf8ByteSize + 1 + name.utf8ByteSize ≤ pathLimit) :
    pathFault? (dir ++ [name]) = none := by
  have hsize := utf8ByteSize_text_concat dir name
  have hslash : (if dir = [] then 0 else 1) ≤ 1 := by split <;> omega
  unfold pathFault? at hdir ⊢
  split at hdir
  · cases hdir
  · next hgood =>
    rw [if_neg, if_neg (by omega)]
    simpa [hname] using hgood

end Files

namespace Workspace

open Files Text

variable {w : Workspace} {fs : Files} {name content : String}

/-- A name for a file in the root of a project: its staging file has a name that is not too long. -/
structure IsFileName (name : String) : Prop where
  nonempty : name.toList ≠ []
  plain : ∀ c ∈ name.toList, c.toNat < 128 ∧ c.toNat ≠ 0 ∧ c ≠ '/'
  visible : name.toList.head? ≠ some '.'
  short : name.toList.length ≤ 217

/-- A project whose files lie in its root, complete, with names that show. -/
structure Flat (w : Workspace) (fs : Files) : Prop where
  folder : Folder fs w.root
  /-- There is room for a name after the path of the root. -/
  room : (Path.text w.root).utf8ByteSize + 256 ≤ pathLimit
  below : ∀ q n, q ≠ [] → fs.node? (w.root ++ q) = some n →
    ∃ name content, q = [name] ∧ name.toList.head? ≠ some '.' ∧ n = .file (String.toUTF8 content) ∧
      checkComplete name content = .ok ()

namespace IsFileName

variable (h : IsFileName name)
include h

theorem isName : IsName name := by
  have hhead : ∀ {s : String}, s.toList = [] ∨ s.toList.head? = some '.' → name ≠ s := by
    rintro s (hs | hs) rfl
    · exact h.nonempty hs
    · exact h.visible hs
  exact ⟨hhead (.inl rfl), hhead (.inr rfl), hhead (.inr rfl)⟩

theorem bare : '/' ∉ name.toList := fun hmem => (h.plain _ hmem).2.2 rfl

theorem utf8ByteSize_le : name.utf8ByteSize ≤ 217 := by
  have hsize := Text.utf8ByteSize_le (n := 1) fun c hc => Nat.le_of_eq (utf8Size_of_ascii (h.plain c hc).1)
  have hshort := h.short
  omega

end IsFileName

namespace Flat

variable (h : Flat w fs)
include h

theorem room_of {name : String} (hname : IsName name) (hsize : name.utf8ByteSize ≤ nameLimit)
    (hgood : isBadName name = false) : Room w.root name where
  isName := hname
  short := hsize
  faultless := by
    have hroom := h.room
    have hlimit : nameLimit = 255 := rfl
    exact pathFault?_concat (pathFault?_eq_none_of_locate h.folder.located) hgood (by omega)

theorem room_name (hname : IsFileName name) : Room w.root name := by
  have hsize := hname.utf8ByteSize_le
  have hlimit : nameLimit = 255 := rfl
  apply h.room_of hname.isName (by omega)
  unfold isBadName
  rw [List.any_eq_false]
  intro c hc
  simpa using (hname.plain c hc).2.1

/-- No name in the root is that of a staging file. -/
theorem stagingName_eq (name : String) :
    stagingName fs w.root name = "." ++ name ++ "." ++ stagingToken 0 ++ ".tmp" := by
  have hfree : "." ++ name ++ "." ++ stagingToken 0 ++ ".tmp" ∉ (fs.children w.root).map (·.1) := by
    intro hmem
    obtain ⟨child, hchild, hname⟩ := List.mem_map.1 hmem
    obtain ⟨n, hn⟩ := node?_of_mem_children hchild
    obtain ⟨shown, content, hshown, hvisible, -⟩ := h.below _ _ (by simp) hn
    rw [← List.singleton_inj.1 hshown, hname] at hvisible
    exact hvisible (by simp)
  unfold stagingName
  simp only [h.folder.located]
  generalize (fs.children w.root).map (·.1) = taken at *
  unfold fresh
  cases taken.length with
  | zero => rfl
  | succ n =>
    rw [firstFree, if_neg]
    simpa using hfree

theorem room_stagingName (hname : IsFileName name) : Room w.root (stagingName fs w.root name) := by
  have hisName := isName_stagingName fs w.root name
  rw [h.stagingName_eq] at hisName ⊢
  have htoken : (stagingToken 0).utf8ByteSize = 32 := by decide
  have hsize := hname.utf8ByteSize_le
  have hlimit : nameLimit = 255 := rfl
  have hdot : ".".utf8ByteSize = 1 := rfl
  have htmp : ".tmp".utf8ByteSize = 4 := rfl
  apply h.room_of hisName
  · rw [String.utf8ByteSize_append, String.utf8ByteSize_append, String.utf8ByteSize_append,
      String.utf8ByteSize_append]
    omega
  · unfold isBadName
    rw [List.any_eq_false]
    intro c hc
    simp only [String.toList_append, List.mem_append] at hc
    have hfixed : ∀ d ∈ ".".toList ++ (stagingToken 0).toList ++ ".tmp".toList, d.toNat ≠ 0 :=
      List.all_iff_forall_prop.1 (by decide)
    have hnul : c.toNat ≠ 0 := by
      rcases hc with (((hc | hc) | hc) | hc) | hc
      · exact hfixed c (List.mem_append_left _ (List.mem_append_left _ hc))
      · exact (hname.plain c hc).2.1
      · exact hfixed c (List.mem_append_left _ (List.mem_append_left _ hc))
      · exact hfixed c (List.mem_append_left _ (List.mem_append_right _ hc))
      · exact hfixed c (List.mem_append_right _ hc)
    simpa using hnul

theorem vacant (hname : IsFileName name) : Vacant fs w.root name where
  folder := h.folder
  room := h.room_name hname
  staging := h.room_stagingName hname
  free := by
    intro hdirectory
    obtain ⟨-, content, -, -, hfile, -⟩ := h.below [name] _ (by simp) hdirectory
    cases hfile

theorem plain (name : String) : fs.Plain (w.root ++ [name]) := h.folder.plain.concat fun t ht => by
  obtain ⟨-, content, -, -, hfile, -⟩ := h.below [name] _ (by simp) ht
  cases hfile

theorem resolve_eq (hname : IsFileName name) : w.resolve fs name = .ok (w.root ++ [name]) := by
  have hnames : namesIn name = [name] := namesIn_of_bare hname.isName hname.bare
  have hresolve : w.resolve fs name = .ok (w.root ++ namesIn name) :=
    resolve_of_names h.folder (by rw [hnames]; exact h.plain name) (isAbsolute_of_bare hname.bare)
      (by simpa [hnames] using hname.isName.2.2)
  rwa [hnames] at hresolve

omit h in
theorem below_concat (w : Workspace) (name : String) : w.below (w.root ++ [name]) = name := by
  unfold Workspace.below
  rw [List.drop_left, String.intercalate_singleton]

omit h in
theorem isProtected_eq_false (hname : IsFileName name) :
    WorkspaceConfig.standard.isProtected name = false := by
  unfold WorkspaceConfig.isProtected
  rw [List.any_eq_false]
  intro pattern hpattern
  have htokens : ∀ pattern ∈ WorkspaceConfig.standard.protectedPaths,
      ∃ ts, Glob.tokens? pattern.toList = some (.char '.' :: ts) := by
    intro pattern hpattern
    simp only [WorkspaceConfig.standard, List.mem_cons, List.not_mem_nil, or_false] at hpattern
    rcases hpattern with rfl | rfl | rfl | rfl <;> exact ⟨_, rfl⟩
  obtain ⟨ts, hts⟩ := htokens pattern hpattern
  rw [Glob.accepts_of_head hts hname.visible]
  exact Bool.false_ne_true

omit h in
/-- A file is refused only for what it holds. -/
theorem refusal?_cases (hw : w.config = .standard) (hname : IsFileName name) (content : String) :
    (content.utf8ByteSize ≤ 2 * 1024 * 1024 ∧ checkComplete name content = .ok () ∧
      w.refusal? (w.root ++ [name]) content = none) ∨
    ¬ (content.utf8ByteSize ≤ 2 * 1024 * 1024 ∧ checkComplete name content = .ok ()) ∧
      ∃ reason, w.refusal? (w.root ++ [name]) content = some (.incompleteWrite name reason) := by
  have hempty : name.isEmpty = false := by
    rw [Bool.eq_false_iff, Ne, String.isEmpty_iff]
    exact hname.isName.1
  unfold refusal?
  simp only [below_concat, hw, hempty, isProtected_eq_false hname, Bool.or_self, Bool.false_eq_true, if_false]
  have hlimit : WorkspaceConfig.standard.maxFileBytes = 2 * 1024 * 1024 := rfl
  by_cases hsize : content.utf8ByteSize ≤ 2 * 1024 * 1024
  · rw [if_neg (by omega)]
    cases hcheck : checkComplete name content with
    | ok _ => exact .inl ⟨hsize, rfl, rfl⟩
    | error e => exact .inr ⟨fun h => (by cases h.2), _, rfl⟩
  · rw [if_pos (by omega)]
    exact .inr ⟨fun h => hsize h.1, _, rfl⟩

theorem write_eq (hrefusal : w.refusal? (w.root ++ [name]) content = none) (hname : IsFileName name) :
    w.write fs name content = (.ok ⟨name, content.utf8ByteSize⟩,
      fs.put (w.root ++ [name]) (.file content.toUTF8)) := by
  rw [Workspace.write_eq (h.resolve_eq hname) (h.vacant hname) hrefusal, below_concat]

/-- A write succeeds, or it is refused and changes nothing. -/
theorem write_cases (hw : w.config = .standard) (hname : IsFileName name) (content : String) :
    (checkComplete name content = .ok () ∧ w.write fs name content =
      (.ok ⟨name, content.utf8ByteSize⟩, fs.put (w.root ++ [name]) (.file content.toUTF8))) ∨
    ¬ (content.utf8ByteSize ≤ 2 * 1024 * 1024 ∧ checkComplete name content = .ok ()) ∧
      ∃ reason, w.write fs name content = (.error (.incompleteWrite name reason), fs) := by
  rcases refusal?_cases hw hname content with ⟨-, hcomplete, hnone⟩ | ⟨hnot, reason, hrefusal⟩
  · exact .inl ⟨hcomplete, h.write_eq hnone hname⟩
  · refine .inr ⟨hnot, reason, ?_⟩
    unfold write
    simp only [h.resolve_eq hname, hrefusal]

/-- The project stays flat. -/
theorem put (hname : IsFileName name) (hcomplete : checkComplete name content = .ok ()) :
    Flat w (fs.put (w.root ++ [name]) (.file content.toUTF8)) where
  folder := h.folder.put _
  room := h.room
  below := by
    intro q n hq hn
    by_cases hsame : q = [name]
    · subst hsame
      rw [node?_put_self (by simp)] at hn
      exact ⟨name, content, rfl, hname.visible, (Option.some.inj hn).symm, hcomplete⟩
    · rw [node?_put_of_ne (by simpa using hsame)] at hn
      exact h.below q n hq hn

/-- What is in the project is read back, -/
theorem read_eq (hname : IsFileName name)
    (hnode : fs.node? (w.root ++ [name]) = some (.file content.toUTF8)) : w.read fs name = .ok content :=
  Workspace.read_eq (h.resolve_eq hname) h.folder (h.room_name hname) hnode

/-- and nothing else is. -/
theorem read_of_none (hname : IsFileName name) (hnode : fs.node? (w.root ++ [name]) = none) :
    ∃ e, w.read fs name = .error e := by
  have htext : fs.readText (w.root ++ [name]) = .error .notFound := by
    unfold readText readBytes
    rw [h.folder.locate_of_none (h.room_name hname) hnode]
  unfold Workspace.read
  rw [h.resolve_eq hname]
  simp only [bind, Except.bind, htext]
  exact ⟨_, rfl⟩

end Flat

/-! ## Empty projects -/

/-- A project with nothing in it. -/
structure Empty (w : Workspace) (fs : Files) : Prop where
  folder : Folder fs w.root
  /-- There is room for a name after the path of the root. -/
  room : (Path.text w.root).utf8ByteSize + 256 ≤ pathLimit
  nothing : ∀ q, q ≠ [] → fs.node? (w.root ++ q) = none

namespace Empty

variable (h : Empty w fs)
include h

theorem flat : Flat w fs where
  folder := h.folder
  room := h.room
  below := by
    intro q n hq hn
    rw [h.nothing q hq] at hn
    cases hn

theorem list_eq : w.list fs "." = .ok ⟨"", [], []⟩ := by
  have hchildren : fs.children w.root = [] := by
    rw [List.eq_nil_iff_forall_not_mem]
    intro child hchild
    obtain ⟨n, hn⟩ := node?_of_mem_children hchild
    cases (h.nothing _ (by simp)).symm.trans hn
  have hresolve : w.resolve fs "." = .ok w.root := by
    have hclimb : climb (if isAbsolute "." then [] else w.root) (namesIn ".") = some w.root := rfl
    unfold resolve
    rw [hclimb]
    simp only [nearest_of_locate h.folder.located, Bool.and_self, List.isPrefixOf_iff_prefix]
    rw [if_pos List.prefix_rfl]
  have hbelow : w.below w.root = "" := by
    unfold Workspace.below
    rw [List.drop_length]
    rfl
  unfold list
  rw [hresolve]
  simp only [bind, Except.bind, h.folder.isDirectory, h.folder.located, hchildren, hbelow, if_true]
  have hsorted : sorted [] = [] := List.mergeSort_nil
  show Except.ok (Listing.mk "" (sorted []) (sorted [])) = _
  rw [hsorted]

end Empty

end Workspace

end BuildLoop
