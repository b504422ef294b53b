import BuildLoop.Proofs.Files.Locate

/-!
# Files in a folder

A folder is a directory that its own path leads to, by plain names. What is done to an entry for which
there is room succeeds, unless a directory lies there:

    Folder fs dir, Room dir name, nothing at dir/name   →   fs.writeFile (dir/name) c = ok (fs.put …)
                                                                                   (Folder.writeFile)
    Folder fs dir, Room dir a, Room dir b, a file at dir/a, no directory at dir/b
      →   fs.moveFile (dir/a) (dir/b) = ok …                                        (Folder.moveFile)
    fs.locateEntry (dir/name) = ok q   →   Folder fs dir, Room dir name        (of_locateEntry_concat)

Where links lead to a directory d, an entry that is no link lies in d under its own name:

    fs.locate dir = ok d, fs.locate (dir/name) = ok q   →   q = d/name               (of_locate_concat)
-/

namespace BuildLoop.Files

variable {fs fs' : Files} {dir p q : Path} {name : String}

/-! ## Trees -/

theorem erase_eq_self (h : fs.entries.lookup p = none) : fs.erase p = fs := by
  unfold erase
  rw [List.filter_eq_self.2]
  intro e he
  have hne := bne_iff_ne.1 (List.lookup_eq_none_iff.1 h e he)
  simpa using hne.symm

/-- A node that is put where nothing lay and taken away again. -/
theorem erase_put (h : fs.entries.lookup p = none) (n : Node) : (fs.put p n).erase p = fs := by
  have hfilter : fs.entries.filter (fun e => !(e.1 == p)) = fs.entries :=
    congrArg Files.entries (erase_eq_self h)
  unfold put erase
  rw [List.filter_append, List.filter_filter]
  simp [hfilter]

/-! ## Following -/

section
variable {links : Nat} {names : List String} (hnames : ∀ n ∈ names, IsName n)
  (hplain : fs.Plain (dir ++ names))
include hnames hplain

/-- What follows a path that leads to a directory is followed from there. -/
theorem follow_append {rest : List String} (h : follow fs links dir names = .ok q)
    (hq : fs.node? q = some .directory) : follow fs links dir (names ++ rest) = follow fs links q rest := by
  induction names generalizing dir with
  | nil =>
    rw [follow] at h
    rw [Except.ok.inj h, List.nil_append]
  | cons n names ih =>
    have hrest : ∀ m ∈ names, IsName m := fun m hm => hnames m (List.mem_cons_of_mem _ hm)
    have hsplit : dir ++ n :: names = dir ++ [n] ++ names := by simp
    have hn := hnames n List.mem_cons_self
    rw [hsplit] at hplain
    rw [follow_name hn] at h
    rw [List.cons_append, follow_name hn]
    split at h
    · cases h
    · next hsize =>
      rw [if_neg hsize]
      split at h
      · cases h
      · exact ih hrest hplain h
      · next hfile =>
        split at h
        · cases h
          rw [hfile] at hq
          cases hq
        · cases h
      · next target hlink => exact absurd hlink (hplain _ target (List.prefix_append _ _))

/-- The last name of a path that leads somewhere is that of an entry of a directory. -/
theorem directory_of_follow (hdir : fs.node? dir = some .directory)
    (h : follow fs links dir (names ++ [name]) = .ok q) (hname : IsName name) :
    fs.node? (dir ++ names) = some .directory ∧ name.utf8ByteSize ≤ nameLimit := by
  induction names generalizing dir with
  | nil =>
    rw [List.nil_append, follow_name hname] at h
    split at h
    · cases h
    · next hsize => exact ⟨by rwa [List.append_nil], Nat.le_of_not_lt hsize⟩
  | cons n names ih =>
    have hrest : ∀ m ∈ names, IsName m := fun m hm => hnames m (List.mem_cons_of_mem _ hm)
    have hsplit : dir ++ n :: names = dir ++ [n] ++ names := by simp
    rw [hsplit] at hplain ⊢
    rw [List.cons_append, follow_name (hnames n List.mem_cons_self)] at h
    split at h
    · cases h
    · split at h
      · cases h
      · next hnode => exact ih hrest hplain hnode h
      · rw [if_neg (by simp)] at h
        cases h
      · next target hlink => exact absurd hlink (hplain _ target (List.prefix_append _ _))

end

/-! ## Folders -/

/-- A directory that its path leads to, by plain names. -/
structure Folder (fs : Files) (dir : Path) : Prop where
  names : ∀ n ∈ dir, IsName n
  plain : fs.Plain dir
  located : fs.locate dir = .ok dir
  directory : fs.node? dir = some .directory

/-- Whether a directory can have an entry of a name: the name is one step down and neither it nor the
whole path is too long. -/
structure Room (dir : Path) (name : String) : Prop where
  isName : IsName name
  short : name.utf8ByteSize ≤ nameLimit
  faultless : pathFault? (dir ++ [name]) = none

theorem not_concat_prefix : ¬ dir ++ [name] <+: dir := by
  intro h
  have hle := h.length_le
  rw [List.length_append, List.length_singleton] at hle
  omega

theorem Room.names (h : Room dir name) (hdir : ∀ n ∈ dir, IsName n) : ∀ n ∈ dir ++ [name], IsName n :=
  fun n hn => (List.mem_append.1 hn).elim (hdir n) fun hn => List.mem_singleton.1 hn ▸ h.isName

/-- An entry can only lie in a folder that has room for it. -/
theorem of_locateEntry_concat (hp : ∀ n ∈ dir ++ [name], IsName n) (hplain : fs.Plain dir)
    (h : fs.locateEntry (dir ++ [name]) = .ok q) : Folder fs dir ∧ Room dir name := by
  have hdir : ∀ n ∈ dir, IsName n := fun n hn => hp n (List.mem_append_left _ hn)
  have hname : IsName name := hp name (by simp)
  have hlocate := locate_of_locateEntry hdir hplain h
  unfold locateEntry at h
  rw [List.getLast?_concat, List.dropLast_concat, hlocate] at h
  simp only at h
  split at h
  · cases h
  · next heq => cases heq
  · next hfault heq =>
    cases heq
    split at h
    · cases h
    · next hnode =>
      rw [if_neg hname.2.2] at h
      split at h
      · cases h
      · next hsize =>
        exact ⟨⟨hdir, hplain, hlocate, by simpa using hnode⟩, hname, Nat.le_of_not_lt hsize, hfault⟩

/-- What has an entry is a directory. -/
theorem directory_of_locate (hp : ∀ n ∈ dir ++ [name], IsName n) (hplain : fs.Plain dir)
    (h : fs.locate (dir ++ [name]) = .ok q) : fs.node? dir = some .directory ∧ name.utf8ByteSize ≤ nameLimit := by
  have hdir : ∀ n ∈ dir, IsName n := fun n hn => hp n (List.mem_append_left _ hn)
  have hnil : ([] : Path) ++ dir = dir := rfl
  unfold locate at h
  split at h
  · cases h
  · exact directory_of_follow hdir (hnil.symm ▸ hplain) (node?_nil fs) h (hp name (by simp))

/-- What lies on the way to a path is a directory. -/
theorem directory_above (hp : ∀ n ∈ p, IsName n) (hplain : fs.Plain p) (h : fs.locate p = .ok q) {r : Path}
    (hr : r <+: p) (hne : r ≠ p) : fs.node? r = some .directory := by
  obtain ⟨rest, rfl⟩ := hr
  obtain ⟨name, more, rfl⟩ := List.exists_cons_of_ne_nil fun he : rest = [] => hne (by simp [he])
  have hpre : r ++ [name] <+: r ++ name :: more := ⟨more, by simp⟩
  exact (directory_of_locate (fun n hn => hp n (hpre.subset hn)) (hplain.of_prefix (List.prefix_append _ _))
    (locate_above hp hplain h hpre)).1

/-- A path that leads to itself is an entry. -/
theorem locateEntry_of_locate (hp : ∀ n ∈ p, IsName n) (hplain : fs.Plain p) (h : fs.locate p = .ok p) :
    fs.locateEntry p = .ok p := by
  rcases List.eq_nil_or_concat p with rfl | ⟨dir, name, rfl⟩
  · rfl
  rw [List.concat_eq_append] at *
  have hdir : ∀ n ∈ dir, IsName n := fun n hn => hp n (List.mem_append_left _ hn)
  have hname : IsName name := hp name (by simp)
  have habove := hplain.of_prefix (List.prefix_append dir [name])
  have hlocate := locate_of_concat hdir habove h
  obtain ⟨hnode, hsize⟩ := directory_of_locate hp habove h
  unfold locate at h
  split at h
  · cases h
  · next hfault =>
    unfold locateEntry
    rw [List.getLast?_concat, List.dropLast_concat, hlocate, hfault]
    simp only
    rw [if_neg (by simpa using hnode), if_neg hname.2.2, if_neg (Nat.not_lt.2 hsize)]

theorem folder_nil (fs : Files) : Folder fs [] := ⟨by simp, plain_nil fs, locate_nil fs, rfl⟩

namespace Folder

variable (h : Folder fs dir)
include h

/-- A folder is one wherever the same lies at it and above it. -/
theorem congr (hsame : ∀ r, r <+: dir → fs'.node? r = fs.node? r) : Folder fs' dir :=
  ⟨h.names, h.plain.congr hsame, (locate_congr h.names h.plain hsame).trans h.located,
    (hsame dir (List.prefix_refl _)).trans h.directory⟩

theorem isDirectory : fs.isDirectory dir = true := by
  unfold Files.isDirectory
  rw [h.located]
  simp [h.directory]

theorem makeDirectories : fs.makeDirectories dir = (fs, .ok ()) := by
  unfold Files.makeDirectories
  cases hdir : dir.reverse with
  | nil => rfl
  | cons name up =>
    have hback : (name :: up).reverse = dir := by rw [← hdir, List.reverse_reverse]
    have hmade : fs.makeDirectory dir = .error .exists := by
      unfold makeDirectory
      rw [locateEntry_of_locate h.names h.plain h.located]
      simp only
      rw [if_pos (by rw [h.directory]; rfl)]
    unfold makeUp
    simp only [hback, hmade, h.isDirectory, if_true]

variable (hr : Room dir name)
include hr

theorem locateEntry : fs.locateEntry (dir ++ [name]) = .ok (dir ++ [name]) := by
  unfold Files.locateEntry
  rw [List.getLast?_concat, List.dropLast_concat, h.located, hr.faultless]
  simp only
  rw [if_neg (by simp [h.directory]), if_neg hr.isName.2.2, if_neg (Nat.not_lt.2 hr.short)]

/-- Where an entry leads. -/
theorem locate_concat : fs.locate (dir ++ [name]) = follow fs linkLimit dir [name] := by
  have hnil : ([] : Path) ++ dir = dir := rfl
  have hdir := h.located
  unfold locate at hdir ⊢
  rw [hr.faultless]
  split at hdir
  · cases hdir
  · exact follow_append h.names (hnil.symm ▸ h.plain) hdir h.directory

theorem locate_of_none (hnode : fs.node? (dir ++ [name]) = none) :
    fs.locate (dir ++ [name]) = .error .notFound := by
  rw [h.locate_concat hr, follow_name hr.isName, if_neg (Nat.not_lt.2 hr.short)]
  simp only [hnode]

theorem locate_of_file {content : ByteArray} (hnode : fs.node? (dir ++ [name]) = some (.file content)) :
    fs.locate (dir ++ [name]) = .ok (dir ++ [name]) := by
  rw [h.locate_concat hr, follow_name hr.isName, if_neg (Nat.not_lt.2 hr.short)]
  simp only [hnode, List.isEmpty_nil, if_true]

/-- A link leads to the file beside it that it names. -/
theorem locate_of_link {target : String} {content : ByteArray} (htarget : Room dir target)
    (hbare : namesOf target = [target]) (hrelative : target.toList.head? ≠ some '/')
    (hnode : fs.node? (dir ++ [name]) = some (.link target))
    (hfile : fs.node? (dir ++ [target]) = some (.file content)) :
    fs.locate (dir ++ [name]) = .ok (dir ++ [target]) := by
  have hlimit : linkLimit = 39 + 1 := rfl
  rw [h.locate_concat hr, follow_name hr.isName, if_neg (Nat.not_lt.2 hr.short), hlimit]
  simp only [hnode]
  rw [if_neg hrelative, hbare, List.singleton_append, follow_name htarget.isName, if_neg (Nat.not_lt.2 htarget.short)]
  simp only [hfile, List.isEmpty_nil, if_true]

theorem readText {content : String} (hnode : fs.node? (dir ++ [name]) = some (.file content.toUTF8)) :
    fs.readText (dir ++ [name]) = .ok content := by
  have hdecode : String.fromUTF8? content.toUTF8 = some content := dif_pos content.isValidUTF8
  simp only [Files.readText, readBytes, h.locate_of_file hr hnode, hnode, hdecode]

theorem writeFile (hnode : fs.node? (dir ++ [name]) = none) (content : ByteArray) :
    fs.writeFile (dir ++ [name]) content = .ok (fs.put (dir ++ [name]) (.file content)) := by
  unfold Files.writeFile
  rw [h.locate_of_none hr hnode]
  simp only [h.locateEntry hr, hnode, Option.isSome_none, Bool.false_eq_true, if_false]

omit hr in
/-- Putting an entry into a folder leaves the folder one. -/
theorem put (n : Node) : Folder (fs.put (dir ++ [name]) n) dir :=
  h.congr fun _ hr => node?_put_of_ne (fun he => not_concat_prefix (he ▸ hr)) n

/-- A directory in a folder is a folder. -/
theorem child (hnode : fs.node? (dir ++ [name]) = some .directory) : Folder fs (dir ++ [name]) := by
  refine ⟨hr.names h.names, h.plain.concat fun t => by rw [hnode]; simp, ?_, hnode⟩
  rw [h.locate_concat hr, follow_name hr.isName, if_neg (Nat.not_lt.2 hr.short)]
  simp only [hnode, follow]

theorem makeDirectories_concat (hnode : fs.node? (dir ++ [name]) = none) :
    fs.makeDirectories (dir ++ [name]) = (fs.put (dir ++ [name]) .directory, .ok ()) := by
  have hback : (name :: dir.reverse).reverse = dir ++ [name] := by simp
  have hmade : fs.makeDirectory (dir ++ [name]) = .ok (fs.put (dir ++ [name]) .directory) := by
    simp only [makeDirectory, h.locateEntry hr, hnode, Option.isSome_none, Bool.false_eq_true, if_false]
  unfold Files.makeDirectories
  rw [List.reverse_append, List.reverse_singleton, List.singleton_append, makeUp]
  simp only [hback, hmade]

omit hr in
theorem moveFile {a b : String} (ha : Room dir a) (hb : Room dir b) {n : Node}
    (hold : fs.node? (dir ++ [a]) = some n) (hnew : fs.node? (dir ++ [b]) ≠ some .directory) :
    fs.moveFile (dir ++ [a]) (dir ++ [b]) = .ok ((fs.erase (dir ++ [a])).put (dir ++ [b]) n) := by
  unfold Files.moveFile
  rw [h.locateEntry ha, h.locateEntry hb]
  simp only [bind, Except.bind, hold]

end Folder

/-! ## Entries of a directory, wherever its path leads -/

section
variable {d : Path}

/-- Putting a node where nothing lay changes nothing on the way of what leads somewhere. -/
theorem follow_put {links : Nat} {names : List String} (h : follow fs links dir names = .ok q)
    (hnone : fs.node? p = none) (n : Node) : follow (fs.put p n) links dir names = .ok q := by
  have hsame : ∀ {r : Path} {m : Node}, fs.node? r = some m → (fs.put p n).node? r = some m := by
    intro r m hr
    rw [node?_put_of_ne (fun he => by rw [he, hnone] at hr; cases hr), hr]
  fun_induction follow fs links dir names with
  | case1 => rwa [follow]
  | case2 _ _ _ _ hhere ih => rw [follow, if_pos hhere, ih h]
  | case3 _ _ _ hhere ih => rw [follow, if_neg hhere, if_pos rfl, ih h]
  | case4 | case5 | case8 | case9 => cases h
  | case6 _ _ _ _ hhere hup hsize hnode ih =>
    rw [follow, if_neg hhere, if_neg hup, if_neg hsize]
    simp only [hsame hnode, ih h]
  | case7 _ _ _ _ hhere hup hsize _ hnode hlast =>
    rw [follow, if_neg hhere, if_neg hup, if_neg hsize]
    simp only [hsame hnode, if_pos hlast, h]
  | case10 _ _ _ hhere hup hsize _ hnode _ ih =>
    rw [follow, if_neg hhere, if_neg hup, if_neg hsize]
    simp only [hsame hnode]
    exact ih h

theorem locate_put (h : fs.locate dir = .ok q) (hnone : fs.node? p = none) (n : Node) :
    (fs.put p n).locate dir = .ok q := by
  unfold locate at h ⊢
  split at h
  · cases h
  · exact follow_put h hnone n

/-- A name after what leads to a directory leads to the entry, which is there, unless that is a link. -/
theorem of_follow_concat {links : Nat} {names : List String} (hname : IsName name)
    (hdir : follow fs links dir names = .ok d) (hlink : ∀ t, fs.node? (d ++ [name]) ≠ some (.link t))
    (h : follow fs links dir (names ++ [name]) = .ok q) : q = d ++ [name] ∧ (fs.node? q).isSome = true := by
  fun_induction follow fs links dir names with
  | case1 =>
    cases hdir
    rw [List.nil_append, follow_name hname] at h
    split at h
    · cases h
    · split at h
      · cases h
      · next hnode =>
        rw [follow] at h
        cases h
        exact ⟨rfl, by rw [hnode]; rfl⟩
      · next hnode =>
        cases h
        exact ⟨rfl, by rw [hnode]; rfl⟩
      · next t hnode => exact absurd hnode (hlink t)
  | case2 _ _ _ _ hhere ih =>
    rw [List.cons_append, follow, if_pos hhere] at h
    exact ih hdir h
  | case3 _ _ _ hhere ih =>
    rw [List.cons_append, follow, if_neg hhere, if_pos rfl] at h
    exact ih hdir h
  | case4 | case5 | case8 | case9 => cases hdir
  | case6 _ _ _ _ hhere hup hsize hnode ih =>
    rw [List.cons_append, follow, if_neg hhere, if_neg hup, if_neg hsize] at h
    simp only [hnode] at h
    exact ih hdir h
  | case7 _ _ _ _ hhere hup hsize _ hnode hlast =>
    rw [List.cons_append, follow, if_neg hhere, if_neg hup, if_neg hsize] at h
    simp [hnode] at h
  | case10 _ _ _ hhere hup hsize _ hnode _ ih =>
    rw [List.cons_append, follow, if_neg hhere, if_neg hup, if_neg hsize] at h
    simp only [hnode, ← List.append_assoc] at h
    exact ih hdir h

/-- What leads somewhere leads there through what its path leads to without its last name. -/
theorem exists_follow_of_concat {links : Nat} {names : List String}
    (h : follow fs links dir (names ++ [name]) = .ok q) : ∃ d, follow fs links dir names = .ok d := by
  fun_induction follow fs links dir names with
  | case1 => exact ⟨_, rfl⟩
  | case2 _ _ _ _ hhere ih =>
    rw [List.cons_append, follow, if_pos hhere] at h
    exact ih h
  | case3 _ _ _ hhere ih =>
    rw [List.cons_append, follow, if_neg hhere, if_pos rfl] at h
    exact ih h
  | case4 _ _ _ _ hhere hup hsize =>
    rw [List.cons_append, follow, if_neg hhere, if_neg hup, if_pos hsize] at h
    cases h
  | case5 _ _ _ _ hhere hup hsize hnode =>
    rw [List.cons_append, follow, if_neg hhere, if_neg hup, if_neg hsize] at h
    simp [hnode] at h
  | case6 _ _ _ _ hhere hup hsize hnode ih =>
    rw [List.cons_append, follow, if_neg hhere, if_neg hup, if_neg hsize] at h
    simp only [hnode] at h
    exact ih h
  | case7 => exact ⟨_, rfl⟩
  | case8 _ _ _ _ hhere hup hsize _ hnode hlast =>
    rw [List.cons_append, follow, if_neg hhere, if_neg hup, if_neg hsize] at h
    simp [hnode] at h
  | case9 _ _ _ hhere hup hsize _ hnode =>
    rw [List.cons_append, follow, if_neg hhere, if_neg hup, if_neg hsize] at h
    simp [hnode] at h
  | case10 _ _ _ hhere hup hsize _ hnode _ ih =>
    rw [List.cons_append, follow, if_neg hhere, if_neg hup, if_neg hsize] at h
    simp only [hnode, ← List.append_assoc] at h
    exact ih h

theorem of_locate_concat (hname : IsName name) (hdir : fs.locate dir = .ok d)
    (hlink : ∀ t, fs.node? (d ++ [name]) ≠ some (.link t)) (h : fs.locate (dir ++ [name]) = .ok q) :
    q = d ++ [name] ∧ (fs.node? q).isSome = true := by
  unfold locate at h hdir
  split at hdir
  · cases hdir
  · split at h
    · cases h
    · exact of_follow_concat hname hdir hlink h

theorem exists_locate_of_concat (h : fs.locate (dir ++ [name]) = .ok q) : ∃ d, fs.locate dir = .ok d := by
  unfold locate at h ⊢
  split at h
  · cases h
  · next hfault =>
    rw [pathFault?_of_concat hfault]
    exact exists_follow_of_concat h

theorem pathFault?_ne_notFound (p : Path) : pathFault? p ≠ some .notFound := by
  unfold pathFault?
  split
  · simp
  · split <;> simp

/-- The entry of a directory that is there. -/
theorem of_locateEntry_of_locate (hname : IsName name) (hdir : fs.locate dir = .ok d) :
    (∀ q, fs.locateEntry (dir ++ [name]) = .ok q → q = d ++ [name]) ∧
      fs.locateEntry (dir ++ [name]) ≠ .error .notFound := by
  unfold locateEntry
  rw [List.getLast?_concat, List.dropLast_concat, hdir]
  cases hfault : pathFault? (dir ++ [name]) with
  | some e =>
    refine ⟨fun q h => (by cases h), fun h => ?_⟩
    cases h
    exact pathFault?_ne_notFound _ hfault
  | none =>
    simp only
    rw [if_neg hname.2.2]
    split
    · simp
    · split
      · simp
      · simp

/-- An entry lies where it lay when something is put where nothing was. -/
theorem locateEntry_put (hentry : fs.locateEntry (dir ++ [name]) = .ok q) (hnone : fs.node? p = none)
    (n : Node) : (fs.put p n).locateEntry (dir ++ [name]) = .ok q := by
  obtain ⟨d, hdir⟩ := exists_locate_of_locateEntry hentry
  unfold locateEntry at hentry ⊢
  rw [List.getLast?_concat, List.dropLast_concat, hdir] at hentry
  rw [List.getLast?_concat, List.dropLast_concat, locate_put hdir hnone]
  cases hfault : pathFault? (dir ++ [name]) with
  | some e =>
    rw [hfault] at hentry
    cases hentry
  | none =>
    rw [hfault] at hentry
    simp only at hentry ⊢
    split at hentry
    · cases hentry
    · next hd =>
      have hne : d ≠ p := fun he => by simp [he, hnone] at hd
      rwa [node?_put_of_ne hne, if_neg hd]

/-- A file that is written where its directory has nothing of its name is a new entry there. -/
theorem put_of_writeFile {content : ByteArray} (hname : IsName name)
    (hfree : ∀ d, fs.locate dir = .ok d → fs.node? (d ++ [name]) = none)
    (h : fs.writeFile (dir ++ [name]) content = .ok fs') :
    ∃ q ≠ [], fs.node? q = none ∧ fs.locateEntry (dir ++ [name]) = .ok q ∧
      fs' = fs.put q (.file content) := by
  unfold writeFile at h
  split at h
  · next q hlocate =>
    obtain ⟨d, hdir⟩ := exists_locate_of_concat hlocate
    obtain ⟨rfl, hsome⟩ := of_locate_concat hname hdir (fun t => by simp [hfree d hdir]) hlocate
    rw [hfree d hdir] at hsome
    cases hsome
  · split at h
    · cases h
    · next q hentry =>
      obtain ⟨d, hdir⟩ := exists_locate_of_locateEntry hentry
      obtain rfl := (of_locateEntry_of_locate hname hdir).1 q hentry
      split at h <;> cases h
      exact ⟨_, by simp, hfree d hdir, hentry, rfl⟩
  · cases h

/-- A directory is made in one that is there, or was there. -/
theorem of_makeDirectories_concat (hname : IsName name) (hdir : fs.locate dir = .ok d)
    (h : fs.makeDirectories (dir ++ [name]) = (fs', .ok ())) :
    fs' = fs ∨ fs.node? (d ++ [name]) = none ∧ fs' = fs.put (d ++ [name]) .directory := by
  obtain ⟨heq, hfound⟩ := of_locateEntry_of_locate hname hdir
  unfold makeDirectories at h
  rw [List.reverse_append, List.reverse_singleton, List.singleton_append, makeUp] at h
  have hback : (name :: dir.reverse).reverse = dir ++ [name] := by simp
  rw [hback] at h
  unfold makeDirectory at h
  cases hentry : fs.locateEntry (dir ++ [name]) with
  | error e =>
    simp only [hentry] at h
    split at h
    · next he =>
      simp at he
    · next he =>
      cases he
      exact absurd hentry hfound
    · split at h <;> cases h
      exact .inl rfl
  | ok q =>
    obtain rfl := heq q hentry
    cases hnode : fs.node? (d ++ [name]) with
    | none =>
      simp only [hentry, hnode, Option.isSome_none, Bool.false_eq_true, if_false] at h
      exact .inr ⟨rfl, (congrArg Prod.fst h).symm⟩
    | some n =>
      simp only [hentry, hnode, Option.isSome_some, if_true] at h
      split at h <;> cases h
      exact .inl rfl

end

end BuildLoop.Files
