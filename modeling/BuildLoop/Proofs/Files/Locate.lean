import Mathlib.Data.List.Basic
import Mathlib.Data.List.Induction
import BuildLoop.Files.Change
import BuildLoop.Files.Locate
import BuildLoop.Proofs.Failure

/-!
# Paths without links

Where no link lies on the way, a path of plain names leads to itself or nowhere, and where it leads
depends on nothing but what lies on the way:

    locate fs p = ok q        →   q = p                                              (eq_of_locate)
    locateEntry fs p = ok q   →   q = p                                         (eq_of_locateEntry)
    locate fs p = ok q        →   fs.Plain q, whatever p is                        (plain_of_locate)
    fs, fs' the same on the way to p   →   locate fs' p = locate fs p                (locate_congr)

Along such paths a change has its effect at the path it names and nowhere else. Making directories
puts them where nothing was, on the way to the path:

    (makeDirectories fs p).1   has over fs at most new directories on the way to p     (grown_makeUp)
    writeFile fs p c = ok fs'   →   fs' = fs.put p (.file c)                            (of_writeFile)
    moveFile fs a b = ok fs'    →   fs' = (fs.erase a).put b n   with n what lay at a    (of_moveFile)
-/

namespace BuildLoop.Files

variable {fs fs' : Files} {p q : Path}

/-! ## Nodes -/

@[simp] theorem node?_nil (fs : Files) : fs.node? [] = some .directory := rfl

theorem node?_of_ne (h : p ≠ []) : fs.node? p = fs.entries.lookup p := if_neg h

/-- What is looked up in a tree without a path. -/
theorem lookup_erase (fs : Files) (p q : Path) :
    (fs.erase p).entries.lookup q = if q = p then none else fs.entries.lookup q := by
  show (fs.entries.filter fun e => !(e.1 == p)).lookup q = _
  induction fs.entries with
  | nil => simp
  | cons e r ih =>
    obtain ⟨k, n⟩ := e
    by_cases hk : k = p
    · rw [List.filter_cons_of_neg (by simp [hk]), ih]
      by_cases hq : q = p
      · rw [if_pos hq, if_pos hq]
      · have hne : (q == k) = false := by simpa [hk] using hq
        rw [if_neg hq, if_neg hq, List.lookup_cons, hne]
    · rw [List.filter_cons_of_pos (by simp [hk]), List.lookup_cons, List.lookup_cons, ih]
      by_cases hq : q = p
      · have hne : (q == k) = false := by simpa using fun h : q = k => hk (h ▸ hq)
        simp only [hne, if_pos hq]
      · rw [if_neg hq, if_neg hq]

theorem node?_erase_self (h : p ≠ []) : (fs.erase p).node? p = none := by
  rw [node?_of_ne h, lookup_erase, if_pos rfl]

theorem node?_erase_of_ne (h : q ≠ p) : (fs.erase p).node? q = fs.node? q := by
  unfold node?
  rw [lookup_erase, if_neg h]

theorem node?_put_self (h : p ≠ []) (n : Node) : (fs.put p n).node? p = some n := by
  have hlookup : ((fs.erase p).entries ++ [(p, n)]).lookup p = some n := by
    rw [List.lookup_append, lookup_erase, if_pos rfl]
    simp
  rw [node?_of_ne h]
  exact hlookup

theorem node?_put_of_ne (h : q ≠ p) (n : Node) : (fs.put p n).node? q = fs.node? q := by
  have hlookup : ((fs.erase p).entries ++ [(p, n)]).lookup q = fs.entries.lookup q := by
    have hne : (q == p) = false := by simpa using h
    rw [List.lookup_append, lookup_erase, if_neg h, List.lookup_cons, hne]
    simp
  unfold node?
  rw [← hlookup]
  rfl

/-! ## Plain paths -/

/-- A name that is one step down. -/
def IsName (name : String) : Prop := name ≠ "" ∧ name ≠ "." ∧ name ≠ ".."

instance (name : String) : Decidable (IsName name) :=
  inferInstanceAs (Decidable (name ≠ "" ∧ name ≠ "." ∧ name ≠ ".."))

/-- Whether no link lies on the way to a path, the path itself included. -/
def Plain (fs : Files) (p : Path) : Prop := ∀ q t, q <+: p → fs.node? q ≠ some (.link t)

theorem Plain.of_prefix (h : fs.Plain p) (hq : q <+: p) : fs.Plain q := fun r t hr =>
  h r t (hr.trans hq)

/-- A plain path stays one if nothing on the way becomes a link. -/
theorem Plain.congr (h : fs.Plain p) (hsame : ∀ q, q <+: p → fs'.node? q = fs.node? q) :
    fs'.Plain p := fun r t hr he => h r t hr ((hsame r hr).symm.trans he)

theorem plain_nil (fs : Files) : fs.Plain [] := by
  intro r t hr
  rw [List.prefix_nil.1 hr]
  simp

theorem Plain.concat {dir : Path} {name : String} (h : fs.Plain dir)
    (hname : ∀ t, fs.node? (dir ++ [name]) ≠ some (.link t)) : fs.Plain (dir ++ [name]) := by
  intro r t hr
  rcases List.prefix_concat_iff.1 hr with rfl | hr
  · exact hname t
  · exact h r t hr

/-- The step of a name that is one step down. -/
theorem follow_name {name : String} (hname : IsName name) (links : Nat) (dir : Path)
    (rest : List String) : follow fs links dir (name :: rest) =
      if name.utf8ByteSize > nameLimit then .error .nameTooLong
      else match fs.node? (dir ++ [name]) with
        | none => .error .notFound
        | some .directory => follow fs links (dir ++ [name]) rest
        | some (.file _) => if rest.isEmpty then .ok (dir ++ [name]) else .error .notDirectory
        | some (.link target) =>
          match links with
          | 0 => .error .tooManyLinks
          | links + 1 => follow fs links (if target.toList.head? = some '/' then [] else dir)
              (namesOf target ++ rest) := by
  obtain ⟨hempty, hhere, hup⟩ := hname
  rw [follow, if_neg (by simp [hempty, hhere])]
  exact if_neg hup

section
variable {links : Nat} {dir : Path} {names : List String} (hnames : ∀ name ∈ names, IsName name)
  (hplain : fs.Plain (dir ++ names))
include hnames hplain

/-- A plain path leads to itself, and to something unless it is empty. -/
theorem eq_of_follow (h : follow fs links dir names = .ok q) :
    q = dir ++ names ∧ (names ≠ [] → (fs.node? q).isSome = true) := by
  induction names generalizing dir with
  | nil =>
    rw [follow] at h
    rw [← Except.ok.inj h]
    exact ⟨(List.append_nil dir).symm, fun hne => absurd rfl hne⟩
  | cons name rest ih =>
    have hrest : ∀ n ∈ rest, IsName n := fun n hn => hnames n (List.mem_cons_of_mem _ hn)
    have hsplit : dir ++ name :: rest = dir ++ [name] ++ rest := by simp
    rw [follow_name (hnames name List.mem_cons_self)] at h
    rw [hsplit] at hplain ⊢
    split at h
    · cases h
    · split at h
      · cases h
      · next hdir =>
        obtain ⟨rfl, hsome⟩ := ih hrest hplain h
        refine ⟨rfl, fun _ => ?_⟩
        by_cases hnil : rest = []
        · rw [hnil, List.append_nil, hdir]
          rfl
        · exact hsome hnil
      · next hfile =>
        split at h
        · next hnil =>
          cases h
          rw [List.isEmpty_iff.1 hnil, List.append_nil]
          exact ⟨rfl, fun _ => by rw [hfile]; rfl⟩
        · cases h
      · next target hlink => exact absurd hlink (hplain _ target (List.prefix_append _ _))

/-- If what follows a plain path leads somewhere, so does the path. -/
theorem follow_of_concat {name : String} (h : follow fs links dir (names ++ [name]) = .ok q) :
    follow fs links dir names = .ok (dir ++ names) := by
  induction names generalizing dir with
  | nil => rw [follow, List.append_nil]
  | cons n rest ih =>
    have hrest : ∀ m ∈ rest, IsName m := fun m hm => hnames m (List.mem_cons_of_mem _ hm)
    have hsplit : dir ++ n :: rest = dir ++ [n] ++ rest := by simp
    have hn := hnames n List.mem_cons_self
    rw [List.cons_append, follow_name hn] at h
    rw [follow_name hn, hsplit]
    rw [hsplit] at hplain
    split at h
    · cases h
    · next hsize =>
      rw [if_neg hsize]
      split at h
      · cases h
      · exact ih hrest hplain h
      · rw [if_neg (by simp)] at h
        cases h
      · next target hlink => exact absurd hlink (hplain _ target (List.prefix_append _ _))

/-- Where a plain path leads depends on nothing but what lies on the way. -/
theorem follow_congr (hsame : ∀ r, r <+: dir ++ names → fs'.node? r = fs.node? r) :
    follow fs' links dir names = follow fs links dir names := by
  induction names generalizing dir with
  | nil => rw [follow, follow]
  | cons name rest ih =>
    have hrest : ∀ n ∈ rest, IsName n := fun n hn => hnames n (List.mem_cons_of_mem _ hn)
    have hsplit : dir ++ name :: rest = dir ++ [name] ++ rest := by simp
    have hname := hnames name List.mem_cons_self
    rw [hsplit] at hplain hsame
    rw [follow_name hname, follow_name hname, hsame _ (List.prefix_append _ _)]
    split
    · rfl
    · split
      · rfl
      · exact ih hrest hplain hsame
      · rfl
      · next target hlink => exact absurd hlink (hplain _ target (List.prefix_append _ _))

end

/-- Where names lead, links followed, is plain, and each of its names is one step down. -/
theorem plain_of_follow {links : Nat} {dir : Path} {names : List String}
    (h : follow fs links dir names = .ok q) (hdir : ∀ n ∈ dir, IsName n) (hplain : fs.Plain dir) :
    (∀ n ∈ q, IsName n) ∧ fs.Plain q := by
  have hdown : ∀ {dir : Path} {name : String}, (∀ n ∈ dir, IsName n) →
      ¬ (name = "" ∨ name = ".") → ¬ name = ".." → ∀ n ∈ dir ++ [name], IsName n := by
    intro dir name hdir hname hup n hn
    rcases List.mem_append.1 hn with hn | hn
    · exact hdir n hn
    · rw [List.mem_singleton.1 hn]
      exact ⟨fun he => hname (.inl he), fun he => hname (.inr he), hup⟩
  fun_induction follow fs links dir names with
  | case1 => exact Except.ok.inj h ▸ ⟨hdir, hplain⟩
  | case2 _ _ _ _ _ ih => exact ih h hdir hplain
  | case3 _ dir _ _ ih =>
    exact ih h (fun n hn => hdir n (List.dropLast_subset dir hn)) (hplain.of_prefix (List.dropLast_prefix dir))
  | case4 | case5 | case8 | case9 => cases h
  | case6 _ _ _ _ hname hup _ hnode ih =>
    exact ih h (hdown hdir hname hup) (hplain.concat fun t he => by rw [hnode] at he; cases he)
  | case7 _ _ _ _ hname hup _ _ hnode =>
    cases h
    exact ⟨hdown hdir hname hup, hplain.concat fun t he => by rw [hnode] at he; cases he⟩
  | case10 _ _ _ _ _ _ _ _ _ ih =>
    -- a link is followed from the root or from its directory
    refine ih h ?_ ?_ <;> split
    · exact fun n hn => absurd hn List.not_mem_nil
    · exact hdir
    · exact plain_nil fs
    · exact hplain

theorem locate_nil (fs : Files) : fs.locate [] = .ok [] := by
  have hfault : pathFault? [] = none := by decide
  unfold locate
  simp only [hfault, follow]

theorem plain_of_locate (h : fs.locate p = .ok q) : (∀ n ∈ q, IsName n) ∧ fs.Plain q := by
  unfold locate at h
  split at h
  · cases h
  · exact plain_of_follow h (fun n hn => absurd hn List.not_mem_nil) (plain_nil fs)

section
variable (hp : ∀ name ∈ p, IsName name) (hplain : fs.Plain p)
include hp hplain

theorem eq_of_locate (h : fs.locate p = .ok q) : q = p ∧ (fs.node? q).isSome = true := by
  unfold locate at h
  split at h
  · cases h
  · have hnil : ([] : Path) ++ p = p := rfl
    obtain ⟨hq, hsome⟩ := eq_of_follow hp (hnil.symm ▸ hplain) h
    refine ⟨hq, ?_⟩
    by_cases hempty : p = []
    · rw [hq, hempty]
      rfl
    · exact hsome hempty

theorem locate_congr (hsame : ∀ r, r <+: p → fs'.node? r = fs.node? r) :
    fs'.locate p = fs.locate p := by
  unfold locate
  split
  · rfl
  · have hnil : ([] : Path) ++ p = p := rfl
    exact follow_congr hp (hnil.symm ▸ hplain) hsame

omit hp hplain in
theorem utf8ByteSize_text_concat (dir : Path) (name : String) : (Path.text (dir ++ [name])).utf8ByteSize =
    (Path.text dir).utf8ByteSize + (if dir = [] then 0 else 1) + name.utf8ByteSize := by
  have hjoin : ∀ l : List String, ("/".intercalate (l ++ [name])).utf8ByteSize =
      ("/".intercalate l).utf8ByteSize + (if l = [] then 0 else 1) + name.utf8ByteSize := by
    intro l
    induction l with
    | nil => simp
    | cons a r ih =>
      cases r with
      | nil =>
        rw [List.singleton_append, String.intercalate_cons_cons, String.intercalate_singleton,
          String.intercalate_singleton, String.utf8ByteSize_append, String.utf8ByteSize_append]
        rfl
      | cons b r =>
        have hstep : ∀ s, ("/".intercalate (a :: b :: s)).utf8ByteSize =
            a.utf8ByteSize + "/".utf8ByteSize + ("/".intercalate (b :: s)).utf8ByteSize := by
          intro s
          rw [String.intercalate_cons_cons, String.utf8ByteSize_append, String.utf8ByteSize_append]
        rw [List.cons_append, if_neg (List.cons_ne_nil _ _)] at ih
        rw [List.cons_append, List.cons_append, hstep, hstep, if_neg (List.cons_ne_nil _ _)]
        omega
  unfold Path.text
  rw [String.utf8ByteSize_append, String.utf8ByteSize_append, hjoin dir]
  omega

omit hp hplain in
theorem utf8ByteSize_text_le (dir : Path) (name : String) :
    (Path.text dir).utf8ByteSize ≤ (Path.text (dir ++ [name])).utf8ByteSize := by
  rw [utf8ByteSize_text_concat]
  omega

omit hp hplain in
/-- What is wrong with a path is wrong with the paths that it leads on to. -/
theorem pathFault?_of_concat {name : String} (h : pathFault? (p ++ [name]) = none) :
    pathFault? p = none := by
  have hsize := utf8ByteSize_text_le p name
  unfold pathFault? at h ⊢
  split at h
  · cases h
  · next hbad =>
    split at h
    · cases h
    · rw [if_neg, if_neg (by omega)]
      exact fun hb => hbad (by rw [List.any_append, hb, Bool.true_or])

/-- If an entry of a plain path leads somewhere, so does the path. -/
theorem locate_of_concat {name : String} (h : fs.locate (p ++ [name]) = .ok q) :
    fs.locate p = .ok p := by
  unfold locate at h ⊢
  split at h
  · cases h
  · next hfault =>
    rw [pathFault?_of_concat hfault]
    exact follow_of_concat hp hplain h

/-- If a plain path leads somewhere, so does every path on the way. -/
theorem locate_above (h : fs.locate p = .ok q) {r : Path} (hr : r <+: p) :
    fs.locate r = .ok r := by
  obtain ⟨rest, rfl⟩ := hr
  induction rest using List.reverseRecOn generalizing q with
  | nil =>
    rw [List.append_nil] at h hp hplain
    obtain ⟨rfl, -⟩ := eq_of_locate hp hplain h
    exact h
  | append_singleton rest name ih =>
    rw [← List.append_assoc] at h hp hplain
    have hrest : ∀ n ∈ r ++ rest, IsName n := fun n hn => hp n (List.mem_append_left _ hn)
    have hplain' : fs.Plain (r ++ rest) := hplain.of_prefix (List.prefix_append _ _)
    exact ih hrest hplain' (locate_of_concat hrest hplain' h)

omit hp hplain in
theorem exists_locate_of_locateEntry {name : String} (h : fs.locateEntry (p ++ [name]) = .ok q) :
    ∃ d, fs.locate p = .ok d := by
  unfold locateEntry at h
  rw [List.getLast?_concat, List.dropLast_concat] at h
  simp only at h
  split at h
  · cases h
  · cases h
  · next d _ hd => exact ⟨d, hd⟩

/-- If an entry can lie in a plain path, the path leads to a directory. -/
theorem locate_of_locateEntry {name : String} (h : fs.locateEntry (p ++ [name]) = .ok q) :
    fs.locate p = .ok p := by
  obtain ⟨d, hd⟩ := exists_locate_of_locateEntry h
  obtain ⟨rfl, -⟩ := eq_of_locate hp hplain hd
  exact hd

theorem eq_of_locateEntry (h : fs.locateEntry p = .ok q) : q = p := by
  unfold locateEntry at h
  split at h
  · next hlast =>
    cases h
    exact (List.getLast?_eq_none_iff.1 hlast).symm
  · next name hlast =>
    obtain ⟨dir, rfl⟩ : ∃ dir, p = dir ++ [name] := ⟨_, (List.dropLast_append_getLast? name hlast).symm⟩
    rw [List.dropLast_concat] at h
    have hname := hp name (by simp)
    split at h
    · cases h
    · cases h
    · next d _ hdir =>
      obtain ⟨rfl, -⟩ := eq_of_locate (fun n hn => hp n (List.mem_append_left _ hn))
        (hplain.of_prefix (List.prefix_append _ _)) hdir
      split at h
      · cases h
      · rw [if_neg hname.2.2] at h
        split at h
        · cases h
        · cases h
          rfl

end

/-! ## Making directories -/

/-- Whether a tree has over another at most new directories on the way to a path. -/
def Grown (p : Path) (fs fs' : Files) : Prop :=
  ∀ q, fs'.node? q = fs.node? q ∨ q <+: p ∧ fs.node? q = none ∧ fs'.node? q = some .directory

namespace Grown

theorem refl (p : Path) (fs : Files) : Grown p fs fs := fun _ => .inl rfl

theorem trans {fs'' : Files} (h : Grown p fs fs') (h' : Grown p fs' fs'') : Grown p fs fs'' := by
  intro q
  rcases h q with hq | ⟨hpre, hnone, hdir⟩
  · rcases h' q with hq' | ⟨hpre, hnone, hdir⟩
    · exact .inl (hq'.trans hq)
    · exact .inr ⟨hpre, hq ▸ hnone, hdir⟩
  · rcases h' q with hq' | ⟨-, hnone', -⟩
    · exact .inr ⟨hpre, hnone, hq'.trans hdir⟩
    · rw [hdir] at hnone'
      cases hnone'

theorem mono (h : Grown p fs fs') (hpq : p <+: q) : Grown q fs fs' := fun r =>
  (h r).imp_right fun ⟨hpre, hr⟩ => ⟨hpre.trans hpq, hr⟩

theorem plain (h : Grown p fs fs') (hplain : fs.Plain q) : fs'.Plain q := by
  intro r t hr he
  rcases h r with hsame | ⟨-, -, hdir⟩
  · exact hplain r t hr (hsame.symm.trans he)
  · rw [hdir] at he
    cases he

end Grown

section
variable (hp : ∀ name ∈ p, IsName name) (hplain : fs.Plain p)
include hp hplain

theorem grown_makeDirectory (h : fs.makeDirectory p = .ok fs') : Grown p fs fs' := by
  unfold makeDirectory at h
  split at h
  · cases h
  · next q hq =>
    obtain rfl := eq_of_locateEntry hp hplain hq
    split at h
    · cases h
    · next hnone =>
      cases h
      rw [Option.not_isSome_iff_eq_none] at hnone
      intro r
      by_cases hr : r = q
      · subst hr
        have hne : r ≠ [] := fun he => by simp [he] at hnone
        exact .inr ⟨List.prefix_refl _, hnone, node?_put_self hne _⟩
      · exact .inl (node?_put_of_ne hr _)

theorem grown_ensureDirectory (h : fs.ensureDirectory p = .ok fs') : Grown p fs fs' := by
  unfold ensureDirectory at h
  split at h
  · next hmade =>
    cases h
    exact grown_makeDirectory hp hplain hmade
  · split at h
    · cases h
      exact .refl p _
    · cases h

end

/-- Making a path's directories, given its names from the last to the first. -/
theorem grown_makeUp {names : List String} (hp : ∀ name ∈ names, IsName name)
    (hplain : fs.Plain names.reverse) : Grown names.reverse fs (makeUp fs names).1 := by
  induction names with
  | nil => exact .refl _ fs
  | cons name up ih =>
    have hnames : ∀ n ∈ (name :: up).reverse, IsName n := fun n hn => hp n (List.mem_reverse.1 hn)
    have hup : up.reverse <+: (name :: up).reverse := by
      rw [List.reverse_cons]
      exact List.prefix_append _ _
    have habove := (ih (fun n hn => hp n (List.mem_cons_of_mem _ hn)) (hplain.of_prefix hup)).mono hup
    rw [makeUp]
    split
    · next hmade => exact grown_makeDirectory hnames hplain hmade
    · generalize makeUp fs up = made at habove
      obtain ⟨fs', r⟩ := made
      cases r with
      | error e => exact habove
      | ok _ =>
        simp only
        split
        · next hmade => exact habove.trans (grown_ensureDirectory hnames (habove.plain hplain) hmade)
        · exact habove
    · split <;> exact .refl _ fs

theorem grown_makeDirectories (hp : ∀ name ∈ p, IsName name) (hplain : fs.Plain p) :
    Grown p fs (fs.makeDirectories p).1 := by
  have h : Grown p.reverse.reverse fs (makeUp fs p.reverse).1 :=
    grown_makeUp (fun n hn => hp n (List.mem_reverse.1 hn)) (p.reverse_reverse.symm ▸ hplain)
  rwa [List.reverse_reverse] at h

/-! ## Files -/

section
variable (hp : ∀ name ∈ p, IsName name) (hplain : fs.Plain p)
include hp hplain

theorem of_writeFile {content : ByteArray} (h : fs.writeFile p content = .ok fs') :
    fs' = fs.put p (.file content) ∧ fs.node? p ≠ some .directory := by
  unfold writeFile at h
  split at h
  · next q hq =>
    obtain ⟨rfl, -⟩ := eq_of_locate hp hplain hq
    split at h
    · cases h
    · next hne =>
      cases h
      exact ⟨rfl, hne⟩
  · split at h
    · cases h
    · next q hq =>
      obtain rfl := eq_of_locateEntry hp hplain hq
      split at h
      · cases h
      · next hnone =>
        cases h
        rw [Option.not_isSome_iff_eq_none] at hnone
        exact ⟨rfl, by rw [hnone]; simp⟩
  · cases h

/-- A file can only be written in a directory that is there. -/
theorem locate_of_writeFile {name : String} {content : ByteArray}
    (h : fs.writeFile (p ++ [name]) content = .ok fs') : fs.locate p = .ok p := by
  unfold writeFile at h
  split at h
  · next hq => exact locate_of_concat hp hplain hq
  · split at h
    · cases h
    · next hq => exact locate_of_locateEntry hp hplain hq
  · cases h

end

theorem of_moveFile {a b : Path} (ha : ∀ name ∈ a, IsName name) (hb : ∀ name ∈ b, IsName name)
    (hplain : fs.Plain a) (hplain' : fs.Plain b) (h : fs.moveFile a b = .ok fs') :
    ∃ n, fs.node? a = some n ∧ fs.node? b ≠ some .directory ∧ fs' = (fs.erase a).put b n := by
  unfold moveFile at h
  obtain ⟨old, hold, hrest⟩ := exists_of_bind h
  obtain ⟨new, hnew, hmove⟩ := exists_of_bind hrest
  obtain rfl := eq_of_locateEntry ha hplain hold
  obtain rfl := eq_of_locateEntry hb hplain' hnew
  split at hmove
  · cases hmove
  · cases hmove
  · next n hn hdir =>
    cases hmove
    exact ⟨n, hn, hdir, rfl⟩

/-- A file that has been put in its place can be removed from it. -/
theorem removeFile_of_entry {content : ByteArray} (h : fs.locateEntry p = .ok q)
    (hn : fs.node? q = some (.file content)) : fs.removeFile p = .ok (fs.erase q) := by
  unfold removeFile
  rw [h]
  simp only [hn]

end BuildLoop.Files
