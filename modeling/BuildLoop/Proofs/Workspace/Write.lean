import BuildLoop.Proofs.Files.Folder
import BuildLoop.Proofs.Workspace.Confine

/-!
# A file is written whole or not at all

A write ends in one of two ways. It succeeds, and among the regular files only the one that its path
means differs, and holds the content; or it fails, and the regular files are what they were, wherever
it failed. Directories on the way may stay, a staging file never does:

    w.write fs path s = (ok r, fs')      →   fs' has s at p, else what fs has                (wrote_write)
    w.write fs path s = (error e, fs')   →   fs' has what fs has                      (content?_of_write)
    Vacant fs dir name, no refusal       →   w.write fs path s = (ok …, fs.put (dir/name) s)    (write_eq)

What was written is read back through each path that means the same place.
-/

namespace BuildLoop

namespace Files

variable {fs fs' : Files} {p q : Path}

/-- The bytes of the regular file at a path. -/
def content? (fs : Files) (p : Path) : Option ByteArray :=
  match fs.node? p with
  | some (.file content) => some content
  | _ => none

theorem content?_congr (h : fs'.node? q = fs.node? q) : fs'.content? q = fs.content? q := by
  unfold content?
  rw [h]

theorem content?_of_node? {content : ByteArray} (h : fs.node? p = some (.file content)) :
    fs.content? p = some content := by
  unfold content?
  rw [h]

theorem content?_makeDirectory (h : fs.makeDirectory p = .ok fs') (q : Path) :
    fs'.content? q = fs.content? q := by
  unfold makeDirectory at h
  split at h
  · cases h
  · next r _ =>
    split at h
    · cases h
    · next hnone =>
      cases h
      rw [Option.not_isSome_iff_eq_none] at hnone
      have hr : r ≠ [] := fun he => by simp [he] at hnone
      by_cases hq : q = r
      · unfold content?
        rw [hq, hnone, node?_put_self hr]
      · exact content?_congr (node?_put_of_ne hq _)

theorem content?_ensureDirectory (h : fs.ensureDirectory p = .ok fs') (q : Path) :
    fs'.content? q = fs.content? q := by
  unfold ensureDirectory at h
  split at h
  · next hmade =>
    cases h
    exact content?_makeDirectory hmade q
  · split at h <;> cases h
    rfl

/-- Making directories makes no file, wherever links lead. -/
theorem content?_makeUp (fs : Files) (names : List String) (q : Path) :
    (makeUp fs names).1.content? q = fs.content? q := by
  induction names with
  | nil => rfl
  | cons name up ih =>
    rw [makeUp]
    split
    · next hmade => exact content?_makeDirectory hmade q
    · generalize makeUp fs up = made at ih
      obtain ⟨fs', r⟩ := made
      cases r with
      | error e => exact ih
      | ok _ =>
        simp only
        split
        · next hmade => exact (content?_ensureDirectory hmade q).trans ih
        · exact ih
    · split <;> rfl

theorem content?_makeDirectories (fs : Files) (p q : Path) :
    (fs.makeDirectories p).1.content? q = fs.content? q := content?_makeUp fs p.reverse q

/-- Whether a tree has over another at most new directories and, at one path, a file with a content where no
directory was. -/
def Edited (p : Path) (content : ByteArray) (fs fs' : Files) : Prop := ∀ q,
  fs'.node? q = fs.node? q ∨ fs.node? q = none ∧ fs'.node? q = some .directory ∨
    q = p ∧ fs.node? p ≠ some .directory ∧ fs'.node? p = some (.file content)

namespace Edited

variable {content : ByteArray} (h : Edited p content fs fs')
include h

theorem plain (hplain : fs.Plain q) : fs'.Plain q := by
  intro r t hr hlink
  rcases h r with hsame | ⟨-, hdirectory⟩ | ⟨rfl, -, hfile⟩
  · exact hplain r t hr (hsame ▸ hlink)
  · rw [hdirectory] at hlink
    cases hlink
  · rw [hfile] at hlink
    cases hlink

/-- What another path leads to stays as it is, and so does the way to it. -/
theorem locate_eq (hq : ∀ n ∈ q, IsName n) (hplain : fs.Plain q) (hlocate : fs.locate q = .ok q) (hne : q ≠ p) :
    fs'.locate q = .ok q ∧ fs'.node? q = fs.node? q := by
  have hsame : ∀ r, r <+: q → fs'.node? r = fs.node? r := by
    intro r hr
    rcases h r with hsame | ⟨hnone, -⟩ | ⟨rfl, hdirectory, -⟩
    · exact hsame
    · obtain ⟨-, hsome⟩ := eq_of_locate (fun n hn => hq n (hr.subset hn)) (hplain.of_prefix hr)
        (locate_above hq hplain hlocate hr)
      rw [hnone] at hsome
      cases hsome
    · exact absurd (directory_above hq hplain hlocate hr fun he => hne he.symm) hdirectory
  exact ⟨(locate_congr hq hplain hsame).trans hlocate, hsame q (List.prefix_refl q)⟩

end Edited

end Files

namespace Workspace

open Files

variable {w : Workspace} {fs fs' : Files} {dir p : Path} {name path content : String}

/-! ## Where there is room -/

/-- Whether a file can be written in a folder: there is room for it and for its staging file, and no
directory in its place. -/
structure Vacant (fs : Files) (dir : Path) (name : String) : Prop where
  folder : Folder fs dir
  room : Room dir name
  staging : Room dir (stagingName fs dir name)
  free : fs.node? (dir ++ [name]) ≠ some .directory

theorem stage_eq (h : Vacant fs dir name) (content : String) :
    stage fs (dir ++ [name]) content = (fs.put (dir ++ [name]) (.file content.toUTF8), .ok ()) := by
  have hnone := node?_stagingName h.folder.located name
  have hwrite := h.folder.writeFile h.staging hnone content.toUTF8
  have hne : dir ++ [name] ≠ dir ++ [stagingName fs dir name] := fun he =>
    stagingName_ne fs dir name (by simpa using he.symm)
  have hmove := (h.folder.put (.file content.toUTF8)).moveFile h.staging h.room
    (node?_put_self (by simp) _) ((node?_put_of_ne hne _).trans_ne h.free)
  have hback := erase_put ((node?_of_ne (by simp)).symm.trans hnone) (.file content.toUTF8)
  rw [hback] at hmove
  unfold stage
  simp only [List.dropLast_concat, List.getLast?_concat, Option.getD_some, hwrite, hmove]

/-- A write for which there is room does what it is asked for and nothing else. -/
theorem write_eq (hresolve : w.resolve fs path = .ok (dir ++ [name])) (h : Vacant fs dir name)
    (hrefusal : w.refusal? (dir ++ [name]) content = none) :
    w.write fs path content = (.ok ⟨w.below (dir ++ [name]), content.utf8ByteSize⟩,
      fs.put (dir ++ [name]) (.file content.toUTF8)) := by
  unfold write
  simp only [hresolve, hrefusal, List.dropLast_concat, h.folder.makeDirectories, stage_eq h]

/-! ## After a success -/

/-- What a staged write has written lies in a folder with room for it. -/
theorem folder_of_stage (hp : ∀ n ∈ dir ++ [name], IsName n) (hplain : fs.Plain (dir ++ [name]))
    (h : stage fs (dir ++ [name]) content = (fs', .ok ())) : Folder fs' dir ∧ Room dir name := by
  obtain ⟨-, -, hother⟩ := of_stage hp hplain (by simp) h
  have hdir : ∀ n ∈ dir, IsName n := fun n hn => hp n (List.mem_append_left _ hn)
  have habove : fs.Plain dir := hplain.of_prefix (List.prefix_append _ _)
  unfold stage at h
  simp only [List.dropLast_concat, List.getLast?_concat, Option.getD_some] at h
  split at h
  · cases h
  · next staged hw =>
    obtain ⟨-, -, hadded⟩ := added_stagingName hdir habove hw
    split at h
    · next moved hm =>
      cases h
      -- the file could be moved to its place only if that is an entry of a folder
      obtain ⟨q, hentry⟩ : ∃ q, staged.locateEntry (dir ++ [name]) = .ok q := by
        obtain ⟨_, -, h⟩ := exists_of_bind hm
        obtain ⟨q, hq, -⟩ := exists_of_bind h
        exact ⟨q, hq⟩
      obtain ⟨hfolder, hroom⟩ := of_locateEntry_concat hp (hadded.plain habove) hentry
      refine ⟨hfolder.congr fun r hr => ?_, hroom⟩
      have hne : ∀ s, r ≠ dir ++ [s] := fun s he => not_concat_prefix (he ▸ hr)
      rw [hother r (hne _), hadded.other r (hne _)]
    · split at h <;> cases h

/-- A path that means a place means it still when something lies there. -/
theorem resolve_of_locate (h : w.resolve fs path = .ok p) (hlocate : fs'.locate p = .ok p) :
    w.resolve fs' path = .ok p := by
  unfold resolve at h ⊢
  split at h
  · cases h
  · split at h
    · next hbelow =>
      cases h
      rw [Bool.and_eq_true, List.isPrefixOf_iff_prefix] at hbelow
      rw [nearest_of_locate hlocate, Bool.and_self, if_pos (List.isPrefixOf_iff_prefix.2 hbelow.1)]
    · cases h

/-- What lies in a folder is read through each path that means its place. -/
theorem read_eq (hresolve : w.resolve fs path = .ok (dir ++ [name])) (hfolder : Folder fs dir)
    (hroom : Room dir name) (hnode : fs.node? (dir ++ [name]) = some (.file content.toUTF8)) :
    w.read fs path = .ok content := by
  unfold read
  rw [hresolve]
  simp only [bind, Except.bind, hfolder.readText hroom hnode, pure, Except.pure]

theorem exists_locate_of_read {s : String} (hresolve : w.resolve fs path = .ok p) (hread : w.read fs path = .ok s) :
    ∃ q, fs.locate p = .ok q := by
  cases hlocate : fs.locate p with
  | error e =>
    have hnone : fs.readText p = .error e := by simp only [Files.readText, readBytes, hlocate]
    unfold read at hread
    simp only [hresolve, hnone, bind, Except.bind] at hread
    cases e <;> cases hread
  | ok q => exact ⟨q, rfl⟩

/-- What is read at one place does not depend on what is written at another. -/
theorem read_of_edited {q : Path} {bytes : ByteArray} {s : String} (hedited : Edited p bytes fs fs')
    (hresolve : w.resolve fs path = .ok q) (hq : ∀ n ∈ q, IsName n) (hplain : fs.Plain q) (hne : q ≠ p)
    (hread : w.read fs path = .ok s) : w.read fs' path = .ok s := by
  obtain ⟨r, hlocate⟩ := exists_locate_of_read hresolve hread
  obtain rfl : q = r := (eq_of_locate hq hplain hlocate).1.symm
  obtain ⟨hlocate', hnode⟩ := hedited.locate_eq hq hplain hlocate hne
  have htext : fs'.readText q = fs.readText q := by
    simp only [Files.readText, readBytes, hlocate, hlocate', hnode]
  unfold read at hread ⊢
  rw [resolve_of_locate hresolve hlocate']
  rw [hresolve] at hread
  simpa only [bind, Except.bind, htext] using hread

/-- What a write at a place leaves: the content there and through each path that means the place, and
all other files as they were. -/
structure Wrote (w : Workspace) (fs fs' : Files) (p : Path) (content : String) : Prop where
  self : fs'.content? p = some content.toUTF8
  other : ∀ q, q ≠ p → fs'.content? q = fs.content? q
  read : ∀ path, w.resolve fs path = .ok p ∨ w.resolve fs' path = .ok p → w.read fs' path = .ok content

theorem wrote_stage {made : Files} (hp : ∀ n ∈ dir ++ [name], IsName n)
    (hplain : made.Plain (dir ++ [name])) (hmade : ∀ q, made.content? q = fs.content? q)
    (h : stage made (dir ++ [name]) content = (fs', .ok ())) : w.Wrote fs fs' (dir ++ [name]) content := by
  obtain ⟨-, hfile, hother⟩ := of_stage hp hplain (by simp) h
  obtain ⟨hfolder, hroom⟩ := folder_of_stage hp hplain h
  refine ⟨content?_of_node? hfile, fun q hq => ?_, fun path hpath => ?_⟩
  · rw [content?_congr (hother q hq), hmade q]
  · have hresolve : w.resolve fs' path = .ok (dir ++ [name]) :=
      hpath.elim (resolve_of_locate · (hfolder.locate_of_file hroom hfile)) id
    exact read_eq hresolve hfolder hroom hfile

/-! ## Both ways -/

theorem rest_ne_nil_of_refusal {rest : List String}
    (h : w.refusal? (w.root ++ rest) content = none) : rest ≠ [] := by
  rintro rfl
  unfold refusal? below at h
  simp at h

theorem exists_resolve_of_write {receipt : Receipt} (h : w.write fs path content = (.ok receipt, fs')) :
    ∃ p, w.resolve fs path = .ok p := by
  unfold write at h
  split at h
  · cases h
  · next p hresolve => exact ⟨p, hresolve⟩

section
variable {r : Except Failure Receipt} (hroot : ∀ n ∈ w.root, IsName n) (hresolve : w.resolve fs path = .ok p)
  (hplain : fs.Plain p) (h : w.write fs path content = (r, fs'))
include hroot hresolve hplain h

/-- The stages of a write: it is refused, or directories are made for it, and then it fails, or the file is
put in its place. -/
theorem write_cases : (fs' = fs ∧ ∃ e, r = .error e) ∨
    ∃ dir name made, p = dir ++ [name] ∧ (∀ n ∈ dir ++ [name], IsName n) ∧ Grown dir fs made ∧
      (∀ q, made.content? q = fs.content? q) ∧
      ((fs' = made ∧ ∃ e, r = .error e) ∨
        stage made (dir ++ [name]) content = (fs', .ok ()) ∧ r = .ok ⟨w.below p, content.utf8ByteSize⟩) := by
  unfold write at h
  rw [hresolve] at h
  simp only at h
  split at h
  · cases h
    exact .inl ⟨rfl, _, rfl⟩
  next hrefusal =>
  obtain ⟨rest, rfl, hrest⟩ := of_resolve hresolve
  obtain ⟨up, name, rfl⟩ := (List.eq_nil_or_concat' rest).resolve_left (rest_ne_nil_of_refusal hrefusal)
  have hnames : ∀ n ∈ w.root ++ (up ++ [name]), IsName n := fun n hn => (List.mem_append.1 hn).elim (hroot n) (hrest n)
  rw [← List.append_assoc] at *
  rw [List.dropLast_concat] at h
  have hgrown := grown_makeDirectories (fun n hn => hnames n (List.mem_append_left _ hn))
    (hplain.of_prefix (List.prefix_append _ _))
  refine .inr ⟨_, name, _, rfl, hnames, hgrown, content?_makeDirectories fs (w.root ++ up), ?_⟩
  generalize fs.makeDirectories (w.root ++ up) = made at *
  obtain ⟨made, rmade⟩ := made
  cases rmade with
  | error e =>
    cases h
    exact .inl ⟨rfl, _, rfl⟩
  | ok _ =>
    simp only at h
    split at h
    · next hstage =>
      cases h
      exact .inl ⟨eq_of_stage_error hstage, _, rfl⟩
    · next hstage =>
      cases h
      exact .inr ⟨hstage, rfl⟩

/-- However a write ends, it is told by what lies where. -/
theorem edited_write : Edited p content.toUTF8 fs fs' := by
  rcases write_cases hroot hresolve hplain h with ⟨rfl, -⟩ | ⟨dir, name, made, rfl, hnames, hgrown, -, hend⟩
  · exact fun q => .inl rfl
  have hmade : ∀ q, made.node? q = fs.node? q ∨ fs.node? q = none ∧ made.node? q = some .directory := fun q =>
    (hgrown q).imp_right And.right
  rcases hend with ⟨rfl, -⟩ | ⟨hstage, -⟩
  · exact fun q => (hmade q).imp_right .inl
  · obtain ⟨hdirectory, hfile, hother⟩ := of_stage hnames (hgrown.plain hplain) (by simp) hstage
    intro q
    by_cases hq : q = dir ++ [name]
    · refine .inr (.inr ⟨hq, fun hd => hdirectory ?_, hfile⟩)
      rcases hmade (dir ++ [name]) with hsame | ⟨-, hd'⟩
      · rw [hsame, hd]
      · exact hd'
    · rw [hother q hq]
      exact (hmade q).imp_right .inl

end

theorem wrote_of_write {receipt : Receipt} (hroot : ∀ n ∈ w.root, IsName n) (hresolve : w.resolve fs path = .ok p)
    (hplain : fs.Plain p) (h : w.write fs path content = (.ok receipt, fs')) :
    receipt = ⟨w.below p, content.utf8ByteSize⟩ ∧ w.Wrote fs fs' p content := by
  rcases write_cases hroot hresolve hplain h with ⟨-, e, he⟩ | ⟨dir, name, made, rfl, hnames, hgrown, hmade, hend⟩
  · cases he
  · rcases hend with ⟨-, e, he⟩ | ⟨hstage, hok⟩
    · cases he
    · exact ⟨Except.ok.inj hok, wrote_stage hnames (hgrown.plain hplain) hmade hstage⟩

end Workspace

end BuildLoop
