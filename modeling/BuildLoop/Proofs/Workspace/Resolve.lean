import BuildLoop.Architecture
import BuildLoop.Proofs.Files.Folder
import BuildLoop.Proofs.Text.Cut
import BuildLoop.Workspace.Basic

/-!
# Where a path of a workspace lies

Whatever a path is made of, it is refused or lies below the root, by names that are one step down
each. Where the first of them is the version control's or the settings', nothing may be written:

    w.resolve fs path = ok p   →   p = w.root ++ rest   with names in rest               (of_resolve)
    path relative, no name of it .., no links   →   w.resolve fs path = ok …           (resolve_of_names)
    refusal? w (w.root ++ rest) s = none   →   rest = name :: more, name not protected  (of_refusal)
-/

namespace BuildLoop.Workspace

open Text Files

variable {w : Workspace} {fs : Files} {p : Path}

/-! ## Resolving -/

/-- Climbing keeps some of where it starts and adds names, none of which goes up. -/
theorem of_climb {dir : Path} {names : List String} (h : climb dir names = some p) :
    ∃ k pushed, p = dir.take k ++ pushed ∧ ∀ n ∈ pushed, n ∈ names ∧ n ≠ ".." := by
  induction names generalizing dir with
  | nil =>
    cases h
    exact ⟨p.length, [], by simp, by simp⟩
  | cons name rest ih =>
    rw [climb] at h
    split at h
    · split at h
      · cases h
      · obtain ⟨k, pushed, hp, hpushed⟩ := ih h
        refine ⟨min k (dir.length - 1), pushed, ?_, fun n hn =>
          ⟨List.mem_cons_of_mem _ (hpushed n hn).1, (hpushed n hn).2⟩⟩
        rw [hp, List.dropLast_eq_take, List.take_take]
    · next hup =>
      obtain ⟨k, pushed, hp, hpushed⟩ := ih h
      have hrest : ∀ n ∈ pushed, n ∈ name :: rest ∧ n ≠ ".." := fun n hn =>
        ⟨List.mem_cons_of_mem _ (hpushed n hn).1, (hpushed n hn).2⟩
      by_cases hk : k ≤ dir.length
      · exact ⟨k, pushed, by rw [hp, List.take_append_of_le_length hk], hrest⟩
      · refine ⟨dir.length, name :: pushed, ?_, fun n hn => ?_⟩
        · rw [hp, List.take_of_length_le (by simp; omega), List.take_length]
          simp
        · rcases List.mem_cons.1 hn with rfl | hn
          · exact ⟨List.mem_cons_self, hup⟩
          · exact hrest n hn

/-- Names none of which goes up are put behind one another. -/
theorem climb_of_names {dir : Path} {names : List String} (h : ∀ n ∈ names, n ≠ "..") :
    climb dir names = some (dir ++ names) := by
  induction names generalizing dir with
  | nil => rw [climb, List.append_nil]
  | cons n names ih =>
    obtain ⟨hn, hnames⟩ := List.forall_mem_cons.1 h
    rw [climb, if_neg hn, ih hnames, List.append_assoc]
    rfl

/-- Different paths have different names. -/
theorem namesOf_injective : Function.Injective Files.namesOf := by
  intro f g h
  have hpieces := (List.map_inj_right fun a b hab => String.ofList_injective hab).1 h
  have htext := congrArg ['/'].intercalate hpieces
  rw [intercalate_splitAtEach, intercalate_splitAtEach] at htext
  exact String.toList_injective htext

theorem namesIn_of_append {path : String} {dir name : List Char} (h : path.toList = dir ++ '/' :: name) :
    namesIn path = namesIn (String.ofList dir) ++ namesIn (String.ofList name) := by
  have hnames : Files.namesOf path = Files.namesOf (String.ofList dir) ++ Files.namesOf (String.ofList name) := by
    unfold Files.namesOf
    rw [h, splitAtEach_append_cons (p := (· == '/')) rfl, List.map_append, String.toList_ofList, String.toList_ofList]
  simp only [namesIn, namesIn.pathNames, hnames, List.filter_append]

theorem of_mem_namesIn {path name : String} (h : name ∈ namesIn path) : name ≠ "" ∧ name ≠ "." := by
  unfold namesIn namesIn.pathNames at h
  obtain ⟨h, hhere⟩ := List.mem_filter.1 h
  obtain ⟨-, hempty⟩ := List.mem_filter.1 h
  exact ⟨by simpa using hempty, by simpa using hhere⟩

/-- A path without slashes is one name. -/
theorem namesIn_of_bare {name : String} (hname : IsName name) (hbare : '/' ∉ name.toList) :
    namesIn name = [name] := by
  have hfree : ∀ c ∈ name.toList, (c == '/') = false := fun c hc => beq_eq_false_iff_ne.2 fun h => hbare (h ▸ hc)
  have hnames : Files.namesOf name = [name] := by
    rw [Files.namesOf, splitAtEach_of_free hfree]
    simp
  simp [namesIn, namesIn.pathNames, hnames, hname.1, hname.2.1]

theorem isAbsolute_of_bare {name : String} (hbare : '/' ∉ name.toList) : isAbsolute name = false := by
  unfold isAbsolute
  cases hcs : name.toList with
  | nil => rfl
  | cons c cs =>
    have hc : '/' ≠ c := fun he => hbare (hcs ▸ he ▸ List.mem_cons_self)
    simpa using hc.symm

/-- A path inside the project is relative and does not go up. -/
theorem of_isRelativeInside {path : String} (h : isRelativeInside path = true) :
    isAbsolute path = false ∧ ∀ n ∈ namesIn path, n ≠ ".." := by
  unfold isRelativeInside at h
  rw [Bool.and_eq_true, Bool.and_eq_true] at h
  obtain ⟨⟨-, hhead⟩, hparts⟩ := h
  refine ⟨by simpa [isAbsolute] using hhead, ?_⟩
  rintro n hn rfl
  unfold namesIn namesIn.pathNames Files.namesOf at hn
  obtain ⟨hn, -⟩ := List.mem_filter.1 hn
  obtain ⟨hn, -⟩ := List.mem_filter.1 hn
  obtain ⟨piece, hpiece, hup⟩ := List.mem_map.1 hn
  have hdots : piece = ['.', '.'] := by
    rw [← String.toList_ofList (l := piece), hup]
    rfl
  have hmem : ['.', '.'] ∈ pathComponents path.toList := List.mem_filter.2 ⟨hdots ▸ hpiece, rfl⟩
  exact absurd (List.all_eq_true.1 hparts _ hmem) (by decide)

/-- A path whose names are such as files can have is relative, and they are its names. -/
theorem of_names {path : String} (h : ∀ n ∈ Files.namesOf path, IsName n) :
    isAbsolute path = false ∧ namesIn path = Files.namesOf path := by
  constructor
  · rw [isAbsolute, beq_eq_false_iff_ne]
    intro hhead
    -- the first name would be empty
    obtain ⟨r, hr⟩ := List.head?_eq_some_iff.1 hhead
    have hfirst := splitAtEach_append (p := (· == '/')) (s := []) (by simp) (beq_self_eq_true '/') r
    rw [List.nil_append, ← hr] at hfirst
    refine (h (String.ofList []) ?_).1 rfl
    rw [Files.namesOf, hfirst]
    exact List.mem_cons_self
  · rw [namesIn, namesIn.pathNames, List.filter_filter, List.filter_eq_self]
    intro n hn
    obtain ⟨hempty, hhere, -⟩ := h n hn
    simp [hempty, hhere]

/-- Where a path whose names are such as files can have is taken at all, it is taken to the place that it names. -/
theorem eq_of_resolve_of_names {path : String} (hnames : ∀ n ∈ Files.namesOf path, IsName n)
    (h : w.resolve fs path = .ok p) : p = w.root ++ Files.namesOf path := by
  obtain ⟨hrelative, heq⟩ := of_names hnames
  unfold resolve at h
  rw [hrelative, heq, if_neg Bool.false_ne_true, climb_of_names fun n hn => (hnames n hn).2.2] at h
  simp only at h
  split at h
  · exact (Except.ok.inj h).symm
  · cases h

/-- A path that is not refused lies below the root. -/
theorem of_resolve {path : String} (h : w.resolve fs path = .ok p) :
    ∃ rest, p = w.root ++ rest ∧ ∀ n ∈ rest, IsName n := by
  unfold resolve at h
  split at h
  · cases h
  · next q hclimb =>
    split at h
    · next hbelow =>
      cases h
      rw [Bool.and_eq_true, List.isPrefixOf_iff_prefix] at hbelow
      obtain ⟨rest, rfl⟩ := hbelow.1
      refine ⟨rest, rfl, fun n hn => ?_⟩
      obtain ⟨k, pushed, hp, hpushed⟩ := of_climb hclimb
      -- what is kept of the start is no longer than the root, so that the rest was added
      have hlen : ((if isAbsolute path then [] else w.root).take k).length ≤ w.root.length := by
        rw [List.length_take]
        split
        · exact Nat.le_trans (Nat.min_le_right _ _) (Nat.zero_le _)
        · exact Nat.min_le_right _ _
      have hdrop := congrArg (List.drop w.root.length) hp
      rw [List.drop_left, List.drop_append, List.drop_eq_nil_of_le hlen, List.nil_append] at hdrop
      rw [hdrop] at hn
      obtain ⟨hname, hup⟩ := hpushed n (List.mem_of_mem_drop hn)
      obtain ⟨hempty, hhere⟩ := of_mem_namesIn hname
      exact ⟨hempty, hhere, hup⟩
    · cases h

/-- The nearest ancestor that exists is one: it leads where it leads. -/
theorem nearest_of_locate {q : Path} (h : fs.locate p = .ok q) : nearest fs p.reverse = q := by
  cases hp : p.reverse with
  | nil =>
    rw [List.reverse_eq_nil_iff.1 hp, locate_nil] at h
    exact Except.ok.inj h
  | cons name up =>
    rw [nearest, ← hp, List.reverse_reverse, h]

theorem locate_nearest {names : List String} (hnames : ∀ n ∈ names, IsName n)
    (hplain : fs.Plain names.reverse) : fs.locate (nearest fs names) = .ok (nearest fs names) := by
  induction names with
  | nil => exact locate_nil fs
  | cons name up ih =>
    rw [nearest]
    split
    · next hq =>
      obtain ⟨rfl, -⟩ := eq_of_locate (fun n hn => hnames n (List.mem_reverse.1 hn)) hplain hq
      exact hq
    · refine ih (fun n hn => hnames n (List.mem_cons_of_mem _ hn)) (hplain.of_prefix ?_)
      rw [List.reverse_cons]
      exact List.prefix_append _ _

/-- What exists of a path below a folder lies in it or is it. -/
theorem prefix_nearest {root : Path} {names : List String} (hroot : Folder fs root)
    (hnames : ∀ n ∈ names, IsName n) (hplain : fs.Plain (root ++ names)) :
    root <+: nearest fs (root ++ names).reverse := by
  induction names using List.reverseRecOn with
  | nil =>
    simp only [List.append_nil, nearest_of_locate hroot.located, List.prefix_refl]
  | append_singleton names name ih =>
    rw [← List.append_assoc] at hplain ⊢
    rw [List.reverse_concat, nearest, List.reverse_cons, List.reverse_reverse]
    split
    · next q hq =>
      have hall : ∀ n ∈ root ++ names ++ [name], IsName n := by
        rw [List.append_assoc]
        exact List.forall_mem_append.2 ⟨hroot.names, hnames⟩
      rw [(eq_of_locate hall hplain hq).1, List.append_assoc]
      exact List.prefix_append _ _
    · exact ih (fun n hn => hnames n (List.mem_append_left _ hn)) (hplain.of_prefix (List.prefix_append _ _))

/-- A relative path none of whose names goes up means the place below the root that it names, where no
link lies on the way. -/
theorem resolve_of_names {path : String} (hroot : Folder fs w.root) (hplain : fs.Plain (w.root ++ namesIn path))
    (hrelative : isAbsolute path = false) (hdown : ∀ n ∈ namesIn path, n ≠ "..") :
    w.resolve fs path = .ok (w.root ++ namesIn path) := by
  have hnames : ∀ n ∈ namesIn path, IsName n := fun n hn =>
    ⟨(of_mem_namesIn hn).1, (of_mem_namesIn hn).2, hdown n hn⟩
  have hnearest := prefix_nearest hroot hnames hplain
  unfold resolve
  simp only [hrelative, Bool.false_eq_true, if_false, climb_of_names hdown]
  rw [List.isPrefixOf_iff_prefix.2 (List.prefix_append _ _), List.isPrefixOf_iff_prefix.2 hnearest]
  rfl

/-- What exists of a path that is not refused lies below the root. -/
theorem prefix_nearest_of_resolve {path : String} (h : w.resolve fs path = .ok p) :
    w.root <+: nearest fs p.reverse := by
  unfold resolve at h
  split at h
  · cases h
  · split at h
    · next hbelow =>
      cases h
      rw [Bool.and_eq_true, List.isPrefixOf_iff_prefix, List.isPrefixOf_iff_prefix] at hbelow
      exact hbelow.2
    · cases h

/-! ## Protected paths -/

/-- The names below the root that may not be written, with all that is below them. -/
def protectedNames : List String := [".git", ".kiln"]

theorem isProtected_of_mem {name : String} {more : List String} (h : name ∈ protectedNames) :
    WorkspaceConfig.standard.isProtected ("/".intercalate (name :: more)) = true := by
  have hself : ∀ name ∈ protectedNames, name ∈ WorkspaceConfig.standard.protectedPaths ∧
      Glob.accepts name name = true := by
    intro name h
    rcases List.mem_cons.1 h with rfl | h
    · exact ⟨by decide, Glob.accepts_of_plain rfl⟩
    · obtain rfl := List.mem_singleton.1 h
      exact ⟨by decide, Glob.accepts_of_plain rfl⟩
  have hbelow : ∀ name ∈ protectedNames, ∀ s : String,
      ∃ pattern ∈ WorkspaceConfig.standard.protectedPaths,
        Glob.accepts pattern (name ++ "/" ++ s) = true := by
    intro name h s
    rcases List.mem_cons.1 h with rfl | h
    · have htokens : Glob.tokens? ".git/**".toList =
          some (Glob.plain ".git/".toList ++ [.anyComponents]) := rfl
      refine ⟨".git/**", by decide, Glob.accepts_of_below htokens (s := s.toList) ?_⟩
      rw [String.toList_append, String.toList_append]
      rfl
    · obtain rfl := List.mem_singleton.1 h
      have htokens : Glob.tokens? ".kiln/**".toList =
          some (Glob.plain ".kiln/".toList ++ [.anyComponents]) := rfl
      refine ⟨".kiln/**", by decide, Glob.accepts_of_below htokens (s := s.toList) ?_⟩
      rw [String.toList_append, String.toList_append]
      rfl
  unfold WorkspaceConfig.isProtected
  rw [List.any_eq_true]
  cases more with
  | nil =>
    rw [String.intercalate_singleton]
    exact ⟨name, hself name h⟩
  | cons b more =>
    rw [String.intercalate_cons_cons]
    exact hbelow name h _

/-- A file that may be written lies below the root, and not under a protected name. -/
theorem of_refusal {rest : List String} {content : String} (hw : w.config = .standard)
    (h : w.refusal? (w.root ++ rest) content = none) :
    ∃ name more, rest = name :: more ∧ name ∉ protectedNames := by
  have hpath : w.below (w.root ++ rest) = "/".intercalate rest := by
    rw [below, List.drop_left]
  unfold refusal? at h
  simp only [hpath, hw] at h
  cases rest with
  | nil => simp at h
  | cons name more =>
    refine ⟨name, more, rfl, fun hname => ?_⟩
    rw [isProtected_of_mem hname, Bool.or_true] at h
    simp at h

end BuildLoop.Workspace
