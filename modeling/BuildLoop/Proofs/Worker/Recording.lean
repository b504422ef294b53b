import BuildLoop.Proofs.Worker.Action
import BuildLoop.Proofs.Worker.Dependency
import BuildLoop.Proofs.Workspace.Flat
import BuildLoop.Proofs.Workspace.Inside

/-!
# Recording a package again and again

A package is recorded in the files of a task one after another, up to the first that is not fit for it or
cannot be written. Where no link lies on the way to them, what is written into one is not read from another,
and a file into which nothing is to be written keeps its text. So it comes to rest:

    Records … world files r world'   ↔   (recordIn … files).run world = (r, world')    (records_run, run_eq)
    f ∉ files, or nothing to be written into f   →   f is read as before                (Records.read_eq)
    all is accepted that is to be written   →   nothing is left to be written              (Records.still)
    nothing is to be written   →   nothing happens                                   (Records.eq_of_still)
-/

namespace BuildLoop.Worker

open Text Files

/-! ## Files in order -/

section
variable {w : Workspace} {t : Task} {package : String}

/-- How a package is recorded in files, one after another: what is answered, and where it leads. -/
inductive Records (w : Workspace) (t : Task) (package : String) :
    World → List String → Except Failure (List String) → World → Prop
  | nil (world : World) : Records w t package world [] (.ok []) world
  /-- A file is not fit to record a package in it. -/
  | unfit {world : World} {file : String} {rest : List String} {e : Failure}
      (hupdated : updated w world.files t file package = .error e) :
      Records w t package world (file :: rest) (.error e) world
  | settled {world world' : World} {file : String} {rest : List String} {r : Except Failure (List String)}
      (hupdated : updated w world.files t file package = .ok none) (hrest : Records w t package world rest r world') :
      Records w t package world (file :: rest) r world'
  | unwritten {world : World} {file content : String} {rest : List String} {e : Failure} {files : Files}
      (hupdated : updated w world.files t file package = .ok (some content))
      (hwrite : w.write world.files file content = (.error e, files)) :
      Records w t package world (file :: rest) (.error e) { world with files }
  | written {world world' : World} {file content : String} {rest : List String} {receipt : Receipt} {files : Files}
      {r : Except Failure (List String)} (hupdated : updated w world.files t file package = .ok (some content))
      (hwrite : w.write world.files file content = (.ok receipt, files))
      (hrest : Records w t package { world with files } rest r world') :
      Records w t package world (file :: rest) (r.map (receipt.path :: ·)) world'

section
variable {world : World} {file content : String} {rest : List String} {e : Failure}

theorem run_recordIn_cons {next : Except Failure (Option String)}
    (hupdated : updated w world.files t file package = next) :
    (recordIn w t package (file :: rest)).run world = (do
      match ← ExceptT.mk (pure next) with
      | none => recordIn w t package rest
      | some content =>
        let receipt ← w.writing file content
        return receipt.path :: (← recordIn w t package rest) : Act World (List String)).run world := by
  subst hupdated
  rfl

theorem run_recordIn_of_error (hupdated : updated w world.files t file package = .error e) :
    (recordIn w t package (file :: rest)).run world = (.error e, world) := by
  rw [run_recordIn_cons hupdated]
  rfl

theorem run_recordIn_of_none (hupdated : updated w world.files t file package = .ok none) :
    (recordIn w t package (file :: rest)).run world = (recordIn w t package rest).run world := by
  rw [run_recordIn_cons hupdated]
  rfl

variable (hupdated : updated w world.files t file package = .ok (some content)) {files : Files}
include hupdated

theorem run_recordIn_of_write_error (hwrite : w.write world.files file content = (.error e, files)) :
    (recordIn w t package (file :: rest)).run world = (.error e, { world with files }) := by
  have hnext : (ExceptT.mk (pure (.ok (some content))) : Act World (Option String)).run world =
      (.ok (some content), world) := rfl
  rw [run_recordIn_cons hupdated, Run.run_bind_ok hnext, Run.run_bind_error (run_writing hwrite)]

theorem run_recordIn_of_write {receipt : Receipt} (hwrite : w.write world.files file content = (.ok receipt, files)) :
    (recordIn w t package (file :: rest)).run world =
      (((recordIn w t package rest).run { world with files }).1.map (receipt.path :: ·),
        ((recordIn w t package rest).run { world with files }).2) := by
  have hnext : (ExceptT.mk (pure (.ok (some content))) : Act World (Option String)).run world =
      (.ok (some content), world) := rfl
  rw [run_recordIn_cons hupdated, Run.run_bind_ok hnext, Run.run_bind_ok (run_writing hwrite)]
  cases hrest : (recordIn w t package rest).run { world with files } with
  | mk r world' =>
    cases r with
    | error e => rw [Run.run_bind_error hrest]; rfl
    | ok paths => rw [Run.run_bind_ok hrest]; rfl

end

theorem records_run (w : Workspace) (t : Task) (package : String) (files : List String) (world : World) :
    Records w t package world files ((recordIn w t package files).run world).1
      ((recordIn w t package files).run world).2 := by
  induction files generalizing world with
  | nil => exact .nil world
  | cons file rest ih =>
    cases hupdated : updated w world.files t file package with
    | error e =>
      rw [run_recordIn_of_error hupdated]
      exact .unfit hupdated
    | ok next =>
      cases next with
      | none =>
        rw [run_recordIn_of_none hupdated]
        exact .settled hupdated (ih world)
      | some content =>
        cases hwrite : w.write world.files file content with
        | mk r files =>
          cases r with
          | error e =>
            rw [run_recordIn_of_write_error hupdated hwrite]
            exact .unwritten hupdated hwrite
          | ok receipt =>
            rw [run_recordIn_of_write hupdated hwrite]
            exact .written hupdated hwrite (ih _)

theorem Records.run_eq {world world' : World} {files : List String} {r : Except Failure (List String)}
    (h : Records w t package world files r world') : (recordIn w t package files).run world = (r, world') := by
  induction h with
  | nil world => rfl
  | unfit hupdated => exact run_recordIn_of_error hupdated
  | settled hupdated _ ih => rw [run_recordIn_of_none hupdated, ih]
  | unwritten hupdated hwrite => exact run_recordIn_of_write_error hupdated hwrite
  | written hupdated hwrite _ ih => rw [run_recordIn_of_write hupdated hwrite, ih]

section
variable {world world' : World} {file : String} {rest : List String} {r : Except Failure (List String)}
  (h : Records w t package world (file :: rest) r world')
include h

theorem Records.eq_of_unfit {e : Failure} (hupdated : updated w world.files t file package = .error e) :
    world' = world :=
  congrArg Prod.snd (h.run_eq.symm.trans (run_recordIn_of_error hupdated))

theorem Records.rest_of_settled (hupdated : updated w world.files t file package = .ok none) :
    Records w t package world rest r world' := by
  have hrest := records_run w t package rest world
  rwa [← run_recordIn_of_none hupdated, h.run_eq] at hrest

theorem Records.rest_of_written {content : String} {receipt : Receipt} {files : Files}
    (hupdated : updated w world.files t file package = .ok (some content))
    (hwrite : w.write world.files file content = (.ok receipt, files)) :
    ∃ r', Records w t package { world with files } rest r' world' := by
  have hrest := records_run w t package rest { world with files }
  have hlast : world' = _ := congrArg Prod.snd (h.run_eq.symm.trans (run_recordIn_of_write hupdated hwrite))
  rw [← hlast] at hrest
  exact ⟨_, hrest⟩

end

/-- Whether nothing is to be written into files, up to the first that is not fit to record the package in it. -/
inductive Still (w : Workspace) (t : Task) (package : String) (fs : Files) : List String → Prop
  | nil : Still w t package fs []
  | unfit {file : String} {rest : List String} {e : Failure} (hupdated : updated w fs t file package = .error e) :
      Still w t package fs (file :: rest)
  | settled {file : String} {rest : List String} (hsettled : Settled w fs t file package)
      (hrest : Still w t package fs rest) : Still w t package fs (file :: rest)

/-- Where nothing is to be written nothing happens. -/
theorem Records.eq_of_still {world world' : World} {files : List String} {r : Except Failure (List String)}
    (h : Records w t package world files r world') (hstill : Still w t package world.files files) : world' = world := by
  induction h with
  | nil => rfl
  | unfit _ => rfl
  | settled hupdated _ ih =>
    cases hstill with
    | unfit hupdated' => cases hupdated.symm.trans hupdated'
    | settled _ hrest => exact ih hrest
  | unwritten hupdated _ =>
    cases hstill with
    | unfit hupdated' => cases hupdated.symm.trans hupdated'
    | settled hsettled _ => exact absurd hupdated (hsettled _)
  | written hupdated _ _ =>
    cases hstill with
    | unfit hupdated' => cases hupdated.symm.trans hupdated'
    | settled hsettled _ => exact absurd hupdated (hsettled _)

/-- Whether each text is accepted that is to be written into a file when its turn comes. -/
def Accepts (w : Workspace) (t : Task) (package : String) (world : World) (files : List String) : Prop :=
  ∀ before file after written reached content, files = before ++ file :: after →
    (recordIn w t package before).run world = (.ok written, reached) →
    updated w reached.files t file package = .ok (some content) →
    ∃ receipt, (w.write reached.files file content).1 = .ok receipt

theorem Accepts.rest {world world' : World} {file : String} {rest : List String} (h : Accepts w t package world (file :: rest))
    (hrun : ∀ more written reached, (recordIn w t package more).run world' = (.ok written, reached) →
      ∃ written', (recordIn w t package (file :: more)).run world = (.ok written', reached)) :
    Accepts w t package world' rest := by
  intro before g after written reached content hsplit hbefore hupdated
  obtain ⟨written', hmore⟩ := hrun before written reached hbefore
  exact h (file :: before) g after written' reached content (by rw [hsplit]; rfl) hmore hupdated

end

/-! ## Files that no link leads to -/

/-- Whether the way to a file is as its path names it: no link lies on it. -/
def Direct (w : Workspace) (fs : Files) (f : String) : Prop :=
  (∀ n ∈ Files.namesOf f, IsName n) ∧ fs.Plain (w.root ++ Files.namesOf f)

section
variable {w : Workspace} {fs fs' : Files} {f g content s : String} {r : Except Failure Receipt}
  (hroot : ∀ n ∈ w.root, IsName n)
include hroot

theorem edited_of_write (hg : Direct w fs g) (h : w.write fs g content = (r, fs')) :
    Edited (w.root ++ Files.namesOf g) content.toUTF8 fs fs' := by
  cases hresolve : w.resolve fs g with
  | error e =>
    unfold Workspace.write at h
    rw [hresolve] at h
    cases h
    exact fun q => .inl rfl
  | ok p =>
    obtain rfl := Workspace.eq_of_resolve_of_names hg.1 hresolve
    exact Workspace.edited_write hroot hresolve hg.2 h

theorem direct_of_write (hg : Direct w fs g) (h : w.write fs g content = (r, fs')) (hf : Direct w fs f) :
    Direct w fs' f :=
  ⟨hf.1, (edited_of_write hroot hg h).plain hf.2⟩

/-- What one file holds does not depend on what is written into another. -/
theorem read_of_write_ne (hg : Direct w fs g) (h : w.write fs g content = (r, fs')) (hf : Direct w fs f)
    (hne : f ≠ g) (hread : w.read fs f = .ok s) : w.read fs' f = .ok s := by
  obtain ⟨p, hresolve, -⟩ := exists_of_bind hread
  obtain rfl := Workspace.eq_of_resolve_of_names hf.1 hresolve
  refine Workspace.read_of_edited (edited_of_write hroot hg h) hresolve (fun n hn => ?_) hf.2 (fun heq => ?_) hread
  · exact (List.mem_append.1 hn).elim (hroot n) (hf.1 n)
  · exact hne (Workspace.namesOf_injective (List.append_cancel_left heq))

theorem read_of_write {receipt : Receipt} (hf : Direct w fs f) (h : w.write fs f content = (.ok receipt, fs')) :
    w.read fs' f = .ok content := by
  obtain ⟨p, hresolve⟩ := Workspace.exists_resolve_of_write h
  obtain rfl := Workspace.eq_of_resolve_of_names hf.1 hresolve
  exact (Workspace.wrote_of_write hroot hresolve hf.2 h).2.read f (.inl hresolve)

end

/-! ## What a run leaves -/

namespace Records

variable {w : Workspace} {t : Task} {package f s : String} {world world' : World} {files : List String}
  {r : Except Failure (List String)} (hroot : ∀ n ∈ w.root, IsName n)
  (h : Records w t package world files r world') (hdirect : ∀ g ∈ files, Direct w world.files g)
include hroot h hdirect

theorem direct (hf : Direct w world.files f) : Direct w world'.files f := by
  induction h with
  | nil => exact hf
  | unfit _ => exact hf
  | settled _ _ ih => exact ih (fun g hg => hdirect g (List.mem_cons_of_mem _ hg)) hf
  | unwritten _ hwrite => exact direct_of_write hroot (hdirect _ List.mem_cons_self) hwrite hf
  | written _ hwrite _ ih =>
    have hhead := hdirect _ List.mem_cons_self
    exact ih (fun g hg => direct_of_write hroot hhead hwrite (hdirect g (List.mem_cons_of_mem _ hg)))
      (direct_of_write hroot hhead hwrite hf)

/-- A file keeps its text that is not among those in which the package is recorded, or has it. -/
theorem read_eq (hf : Direct w world.files f) (hread : w.read world.files f = .ok s)
    (hkept : f ∉ files ∨ Settled w world.files t f package) : w.read world'.files f = .ok s := by
  induction h with
  | nil => exact hread
  | unfit _ => exact hread
  | settled _ _ ih =>
    exact ih (fun g hg => hdirect g (List.mem_cons_of_mem _ hg)) hf hread
      (hkept.imp_left fun hf => List.not_mem_of_not_mem_cons hf)
  | @unwritten _ file _ _ _ _ hupdated hwrite =>
    have hne : f ≠ file := by
      rintro rfl
      exact hkept.elim (fun hf => hf List.mem_cons_self) (fun hsettled => hsettled _ hupdated)
    exact read_of_write_ne hroot (hdirect _ List.mem_cons_self) hwrite hf hne hread
  | @written _ _ file _ _ _ files _ hupdated hwrite _ ih =>
    have hne : f ≠ file := by
      rintro rfl
      exact hkept.elim (fun hf => hf List.mem_cons_self) (fun hsettled => hsettled _ hupdated)
    have hhead := hdirect _ List.mem_cons_self
    have hread' : w.read files f = .ok s := read_of_write_ne hroot hhead hwrite hf hne hread
    refine ih (fun g hg => direct_of_write hroot hhead hwrite (hdirect g (List.mem_cons_of_mem _ hg)))
      (direct_of_write hroot hhead hwrite hf) hread' (hkept.imp List.not_mem_of_not_mem_cons fun hsettled content => ?_)
    rw [updated_congr (hread'.trans hread.symm)]
    exact hsettled content

theorem settled_of_read (hf : Direct w world.files f) (hread : w.read world.files f = .ok s)
    (hsettled : Settled w world.files t f package) : Settled w world'.files t f package := by
  intro content
  rw [updated_congr ((read_eq hroot h hdirect hf hread (.inr hsettled)).trans hread.symm)]
  exact hsettled content

/-- When all that is to be written is accepted nothing is left to be written. -/
theorem still (hpackage : IsToken package) (haccepts : Accepts w t package world files) :
    Still w t package world'.files files := by
  induction h with
  | nil => exact .nil
  | unfit hupdated => exact .unfit hupdated
  | @unwritten world file content _ _ _ hupdated hwrite =>
    obtain ⟨receipt, haccepted⟩ := haccepts [] file _ [] world content rfl rfl hupdated
    rw [hwrite] at haccepted
    cases haccepted
  | @settled _ _ file _ _ hupdated hrest ih =>
    obtain ⟨hhead, hdirect⟩ := List.forall_mem_cons.1 hdirect
    refine .settled ?_ (ih hdirect (haccepts.rest fun more written reached hmore => ⟨written, ?_⟩))
    · by_cases hmanifest : IsManifest file
      · obtain ⟨s, hread⟩ := exists_read_of_none hmanifest hupdated
        exact hrest.settled_of_read hroot hdirect hhead hread (settled_of_none hupdated)
      · exact settled_of_none (updated_of_not_manifest hmanifest)
    · rw [run_recordIn_of_none hupdated, hmore]
  | @written _ _ file _ _ receipt _ r hupdated hwrite hrest ih =>
    obtain ⟨hhead, hdirect⟩ := List.forall_mem_cons.1 hdirect
    have hdirect' := fun g hg => direct_of_write hroot hhead hwrite (hdirect g hg)
    have hread := read_of_write hroot hhead hwrite
    refine .settled ?_ (ih hdirect' (haccepts.rest fun more written reached hmore => ⟨receipt.path :: written, ?_⟩))
    · exact hrest.settled_of_read hroot hdirect' (direct_of_write hroot hhead hwrite hhead) hread
        (Worker.settled_of_read hpackage hupdated hread)
    · rw [run_recordIn_of_write hupdated hwrite, hmore]
      rfl

end Records

/-! ## Recording again and again -/

section
variable {w : Workspace} {t : Task} {package : String} {world reached : World} {before rest : List String}

theorem recordIn_append (w : Workspace) (t : Task) (package : String) (before rest : List String) :
    recordIn w t package (before ++ rest) = do
      let paths ← recordIn w t package before
      let more ← recordIn w t package rest
      return paths ++ more := by
  induction before with
  | nil => simp [recordIn]
  | cons file before ih =>
    rw [List.cons_append, recordIn, recordIn, bind_assoc]
    refine bind_congr fun world => ?_
    rw [bind_assoc]
    refine bind_congr fun next => ?_
    cases next with
    | none => exact ih
    | some content => simp [ih]

theorem snd_run_recordIn_append {written : List String}
    (hbefore : (recordIn w t package before).run world = (.ok written, reached)) (rest : List String) :
    ((recordIn w t package (before ++ rest)).run world).2 = ((recordIn w t package rest).run reached).2 := by
  rw [recordIn_append, Run.run_bind_ok hbefore]
  cases hrest : (recordIn w t package rest).run reached with
  | mk r last =>
    cases r with
    | error e => rw [Run.run_bind_error hrest]
    | ok more =>
      rw [Run.run_bind_ok hrest]
      rfl

end

section
variable {w : Workspace} {t : Task} {package file text : String} {world reached last : World} {rest : List String}
  {r : Except Failure (List String)} (hpackage : IsToken package) (hroot : ∀ n ∈ w.root, IsName n)
  (hname : baseName file = "requirements.txt")
include hpackage hroot hname

/-- When the turn of a manifest comes it is left as it is, or gets its line, and stays so. -/
theorem Records.of_requirements (h : Records w t package reached (file :: rest) r last)
    (hdirect : ∀ f ∈ file :: rest, Direct w reached.files f)
    (htext : (w.read reached.files file).toOption.getD "" = text)
    (haccepts : ¬ Lists text package →
      ∃ receipt, (w.write reached.files file (withLine text package)).1 = .ok receipt) :
    w.read last.files file = .ok (if Lists text package then text else withLine text package) ∧
      Settled w last.files t file package := by
  obtain ⟨hfile, hrest⟩ := List.forall_mem_cons.1 hdirect
  have hupdated : updated w reached.files t file package =
      .ok (if Lists text package then none else some (withLine text package)) := by
    rw [updated_requirements hname, htext, recordedLine_eq]
  by_cases hlists : Lists text package
  · rw [if_pos hlists] at hupdated ⊢
    have hread : w.read reached.files file = .ok text := by
      obtain ⟨s, hs⟩ := exists_read_of_none (.inl hname) hupdated
      rw [hs] at htext ⊢
      exact congrArg Except.ok htext
    have hsettled := settled_of_none hupdated
    exact ⟨h.read_eq hroot hdirect hfile hread (.inr hsettled), h.settled_of_read hroot hdirect hfile hread hsettled⟩
  · rw [if_neg hlists] at hupdated ⊢
    obtain ⟨receipt, haccepted⟩ := haccepts hlists
    have hwrite : w.write reached.files file (withLine text package) =
        (.ok receipt, (w.write reached.files file (withLine text package)).2) := Prod.ext haccepted rfl
    obtain ⟨r', hmore⟩ := h.rest_of_written hupdated hwrite
    have hread := read_of_write hroot hfile hwrite
    have hsettled := Worker.settled_of_read hpackage hupdated hread
    have hdirect' := fun g hg => direct_of_write hroot hfile hwrite (hrest g hg)
    have hfile' := direct_of_write hroot hfile hwrite hfile
    exact ⟨hmore.read_eq hroot hdirect' hfile' hread (.inr hsettled),
      hmore.settled_of_read hroot hdirect' hfile' hread hsettled⟩

end

/-- A file that has what is to be recorded keeps its text, however often recording goes on. -/
theorem read_iterate {w : Workspace} {t : Task} {package file : String} {world : World} (hroot : ∀ n ∈ w.root, IsName n)
    (hdirect : ∀ f ∈ t.files, Direct w world.files f) {s : String} (hfile : file ∈ t.files)
    (hread : w.read world.files file = .ok s) (hsettled : Settled w world.files t file package) (n : Nat) :
    w.read ((fun world => ((recordIn w t package t.files).run world).2)^[n] world).files file = .ok s := by
  induction n generalizing world with
  | zero => exact hread
  | succ n ih =>
    have hrecords := records_run w t package t.files world
    exact ih (fun f hf => hrecords.direct hroot hdirect (hdirect f hf))
      (hrecords.read_eq hroot hdirect (hdirect file hfile) hread (.inr hsettled))
      (hrecords.settled_of_read hroot hdirect (hdirect file hfile) hread hsettled)

/-- A package that was installed is recorded in each `requirements.txt` that a task names and whose turn comes:
the recording in the files before it succeeds, and a text with the package is accepted. If a line has the
package's name, the file keeps its text. Otherwise it gets its lines, but for blanks at its end, and the
package in a line behind them. It stays so however often recording goes on; and where all is accepted that is
to be written, recording again changes nothing at all. What the file could be read as at first is what its turn
finds, and a file that cannot be read counts as an empty one. -/
theorem recordDependency_once {w : Workspace} {t : Task} {package file text : String} {world reached : World}
    {before after written : List String} (hpackage : IsToken package) (hroot : ∀ n ∈ w.root, IsName n)
    (hname : baseName file = "requirements.txt") (hfiles : t.files = before ++ file :: after)
    (hplain : ∀ f ∈ t.files, world.files.Plain (w.root ++ Files.namesOf f))
    (hbefore : (recordIn w t package before).run world = (.ok written, reached))
    (htext : (w.read reached.files file).toOption.getD "" = text)
    (haccepts : ¬ Lists text package →
      ∃ receipt, (w.write reached.files file (withLine text package)).1 = .ok receipt) :
    let record (world : World) : World := ((recordDependency w t ("pip install " ++ package)).run world).2
    (∀ s, w.read world.files file = .ok s → s = text) ∧
    w.read (record world).files file = .ok (if Lists text package then text else withLine text package) ∧
    linesOf (withLine text package) = linesOf (String.ofList (trimEnd text.toList)) ++ [package] ∧
    (∀ n, w.read (record^[n] (record world)).files file = w.read (record world).files file) ∧
    (Accepts w t package world t.files → record (record world) = record world) := by
  have hdirect : ∀ f ∈ t.files, Direct w world.files f := fun f hf => ⟨names_of_mentioned hf, hplain f hf⟩
  have hfile : file ∈ t.files := by simp [hfiles]
  have hreaches := records_run w t package before world
  rw [hbefore] at hreaches
  have hbeforeDirect : ∀ f ∈ before, Direct w world.files f := fun f hf => hdirect f (by simp [hfiles, hf])
  have hreachedDirect : ∀ f ∈ t.files, Direct w reached.files f := fun f hf =>
    hreaches.direct hroot hbeforeDirect (hdirect f hf)
  have hlast : ((recordIn w t package t.files).run world).2 =
      ((recordIn w t package (file :: after)).run reached).2 := by
    rw [hfiles]
    exact snd_run_recordIn_append hbefore _
  obtain ⟨hread, hsettled⟩ := (records_run w t package (file :: after) reached).of_requirements hpackage hroot hname
    (fun f hf => hreachedDirect f (by simp [hfiles, List.mem_cons.1 hf])) htext haccepts
  rw [← hlast] at hread hsettled
  have hrecords := records_run w t package t.files world
  have hlastDirect : ∀ f ∈ t.files, Direct w ((recordIn w t package t.files).run world).2.files f := fun f hf =>
    hrecords.direct hroot hdirect (hdirect f hf)
  simp only [recordDependency_pip hpackage]
  refine ⟨fun s hs => ?_, hread, linesOf_withLine hpackage text, fun n => ?_, fun hall => ?_⟩
  · have hnew : file ∉ before := by
      have hnodup : t.files.Nodup := nodup_mentioned t.description
      rw [hfiles] at hnodup
      exact fun hmem => (List.nodup_append.1 hnodup).2.2 file hmem file List.mem_cons_self rfl
    rw [hreaches.read_eq hroot hbeforeDirect (hdirect file hfile) hs (.inl hnew)] at htext
    exact htext
  · rw [read_iterate hroot hlastDirect hfile hread hsettled n, hread]
  · exact (records_run w t package t.files _).eq_of_still (hrecords.still hroot hdirect hpackage hall)

/-! ## A project with a manifest -/

/-- The workspace of a project. -/
def pipSpace : Workspace := ⟨["p"], .standard⟩

/-- The project before there are files in it. -/
def pipRoot : Files := ⟨[(["p"], .directory)]⟩

/-- The project with one file. -/
def pipFiles (name content : String) : Files := pipRoot.put ["p", name] (.file content.toUTF8)

theorem empty_pipRoot : Workspace.Empty pipSpace pipRoot where
  folder := (folder_nil _).child ⟨by decide, by decide, by decide⟩ rfl
  room := by decide
  nothing := by
    intro q hq
    obtain ⟨a, q, rfl⟩ := List.exists_cons_of_ne_nil hq
    rfl

theorem isFileName_manifests : Workspace.IsFileName "requirements.txt" ∧ Workspace.IsFileName "package.json" :=
  ⟨⟨by decide, List.all_iff_forall_prop.1 (by decide), by decide, by decide⟩,
    ⟨by decide, List.all_iff_forall_prop.1 (by decide), by decide, by decide⟩⟩

theorem flat_pipFiles : Workspace.Flat pipSpace (pipFiles "requirements.txt" "flask\n") :=
  empty_pipRoot.flat.put isFileName_manifests.1 (by decide)

theorem isToken_requests : IsToken "requests" := ⟨by decide, List.all_iff_forall_prop.1 (by decide), by decide⟩

/-- A task to add what is not there, described in some words. -/
def pipTask (description : String) : Task := { Task.new "fix_1" description .backend with fault := some .missingDependency }

theorem not_lists_flask : ¬ Lists "flask\n" "requests" := by decide

theorem withLine_flask : withLine "flask\n" "requests" = "flask\nrequests\n" := by decide

theorem read_pipFiles : pipSpace.read (pipFiles "requirements.txt" "flask\n") "requirements.txt" = .ok "flask\n" :=
  flat_pipFiles.read_eq isFileName_manifests.1 (node?_put_self (by simp) _)

theorem write_pipFiles : ∃ receipt, (pipSpace.write (pipFiles "requirements.txt" "flask\n") "requirements.txt"
    (withLine "flask\n" "requests")).1 = .ok receipt := by
  rw [withLine_flask]
  exact ⟨_, congrArg Prod.fst (flat_pipFiles.write_eq (by decide +kernel) isFileName_manifests.1)⟩

/-- A requirement is put behind another, once. -/
theorem recordDependency_once_requests :
    let t := pipTask "Run 'pip install requests' in the project root and add it to requirements.txt."
    let world : World := ⟨pipFiles "requirements.txt" "flask\n", [], []⟩
    let record (world : World) : World := ((recordDependency pipSpace t ("pip install " ++ "requests")).run world).2
    t.files = ["requirements.txt"] ∧ (∀ f ∈ t.files, world.files.Plain (pipSpace.root ++ Files.namesOf f)) ∧
      pipSpace.read world.files "requirements.txt" = .ok "flask\n" ∧
      (∃ receipt, (pipSpace.write world.files "requirements.txt" (withLine "flask\n" "requests")).1 = .ok receipt) ∧
      ∀ n, pipSpace.read (record^[n] (record world)).files "requirements.txt" = .ok "flask\nrequests\n" := by
  intro t world record
  have hfiles : t.files = ["requirements.txt"] := by decide
  have hplain : ∀ f ∈ t.files, world.files.Plain (pipSpace.root ++ Files.namesOf f) := by
    rw [hfiles]
    exact fun f hf => List.mem_singleton.1 hf ▸ flat_pipFiles.plain "requirements.txt"
  have htext : (pipSpace.read world.files "requirements.txt").toOption.getD "" = "flask\n" := by
    rw [read_pipFiles]
    rfl
  have hsplit : t.files = [] ++ "requirements.txt" :: [] := hfiles
  have hbefore : (recordIn pipSpace t "requests" []).run world = (.ok [], world) := rfl
  obtain ⟨-, hread, -, hagain, -⟩ := recordDependency_once isToken_requests (by decide) (by decide) hsplit hplain hbefore
    htext fun _ => write_pipFiles
  refine ⟨hfiles, hplain, read_pipFiles, write_pipFiles, fun n => ?_⟩
  rw [hagain n, hread, if_neg not_lists_flask, withLine_flask]

/-! ## Where it is not recorded -/

/-- The project with a manifest and a link to it. -/
def linkedFiles : Files :=
  (pipFiles "package.json" "\x7b\x7d").put ["p", "requirements.txt"] (.link "package.json")

/-- The manifest with a package of this name. -/
def bracesText : String := "\x7b\n  \"dependencies\": \x7b\n    \"\x7b\x7d\": \"*\"\n  \x7d\n\x7d\n"

section
variable {fs : Files} {content : String} (hfolder : Folder fs ["p"])
  (hfile : fs.node? ["p", "package.json"] = some (.file content.toUTF8))
include hfolder hfile

theorem resolve_package : pipSpace.resolve fs "package.json" = .ok ["p", "package.json"] := by
  have hnames : Workspace.namesIn "package.json" = ["package.json"] := by decide
  have hplain : fs.Plain (["p"] ++ ["package.json"]) := hfolder.plain.concat fun t ht => by
    rw [List.singleton_append, hfile] at ht
    cases ht
  have hresolve : pipSpace.resolve fs "package.json" = .ok (["p"] ++ Workspace.namesIn "package.json") :=
    Workspace.resolve_of_names hfolder (by rw [hnames]; exact hplain) (by decide) (by decide)
  rwa [hnames] at hresolve

theorem read_package : pipSpace.read fs "package.json" = .ok content :=
  Workspace.read_eq (resolve_package hfolder hfile) hfolder ⟨by decide, by decide, by decide⟩ hfile

/-- Through the link the manifest is read. -/
theorem read_link (hlink : fs.node? ["p", "requirements.txt"] = some (.link "package.json")) :
    pipSpace.read fs "requirements.txt" = .ok content := by
  have hlocate : fs.locate ["p", "requirements.txt"] = .ok ["p", "package.json"] :=
    hfolder.locate_of_link ⟨by decide, by decide, by decide⟩ ⟨by decide, by decide, by decide⟩ (by decide) (by decide)
      hlink hfile
  have hdecode : String.fromUTF8? content.toUTF8 = some content := dif_pos content.isValidUTF8
  have htext : fs.readText ["p", "requirements.txt"] = .ok content := by
    simp only [Files.readText, readBytes, hlocate, hfile, hdecode]
  have hclimb : Workspace.climb (if Workspace.isAbsolute "requirements.txt" then [] else pipSpace.root)
      (Workspace.namesIn "requirements.txt") = some ["p", "requirements.txt"] := by decide
  have hresolve : pipSpace.resolve fs "requirements.txt" = .ok ["p", "requirements.txt"] := by
    unfold Workspace.resolve
    rw [hclimb]
    simp only [Workspace.nearest_of_locate hlocate]
    rfl
  unfold Workspace.read
  rw [hresolve]
  simp only [bind, Except.bind, htext, pure, Except.pure]

end

theorem linkedFiles_spec : Folder linkedFiles ["p"] ∧
    linkedFiles.node? ["p", "requirements.txt"] = some (.link "package.json") ∧
    linkedFiles.node? ["p", "package.json"] = some (.file "\x7b\x7d".toUTF8) := by
  refine ⟨(empty_pipRoot.folder.put _).put _, node?_put_self (by simp) _, ?_⟩
  rw [linkedFiles, node?_put_of_ne (by decide)]
  exact node?_put_self (by simp) _

theorem write_linkedFiles : pipSpace.write linkedFiles "package.json" bracesText =
    (.ok ⟨pipSpace.below ["p", "package.json"], bracesText.utf8ByteSize⟩,
      linkedFiles.put ["p", "package.json"] (.file bracesText.toUTF8)) := by
  obtain ⟨hfolder, hlink, hfile⟩ := linkedFiles_spec
  have hstaging : Workspace.stagingName linkedFiles ["p"] "package.json" =
      ".package.json.00000000000000000000000000000000.tmp" := by
    unfold Workspace.stagingName
    simp only [hfolder.located]
    decide
  have hvacant : Workspace.Vacant linkedFiles ["p"] "package.json" :=
    { folder := hfolder
      room := ⟨by decide, by decide, by decide⟩
      staging := by
        rw [hstaging]
        exact ⟨by decide, by decide, by decide⟩
      free := by
        rw [List.singleton_append, hfile]
        simp }
  exact Workspace.write_eq (resolve_package hfolder hfile) hvacant (by decide)

theorem isToken_braces : IsToken "\x7b\x7d" := ⟨by decide, List.all_iff_forall_prop.1 (by decide), by decide⟩

theorem lists_braces : Lists "\x7b\x7d" "\x7b\x7d" := by decide +kernel

/-- A requirement is not recorded if a manifest that is named before cannot be read, although the file would
be written. And a file that has the package in a line does not keep its text if it is a link to another. -/
theorem recordDependency_held_up :
    (let t := pipTask "Run 'pip install requests' in the project root and add it to package.json and requirements.txt."
      let world : World := ⟨pipFiles "requirements.txt" "flask\n", [], []⟩
      IsToken "requests" ∧ "requirements.txt" ∈ t.files ∧ ¬ Lists "flask\n" "requests" ∧
        pipSpace.read world.files "requirements.txt" = .ok "flask\n" ∧
        (∃ receipt, (pipSpace.write world.files "requirements.txt" (withLine "flask\n" "requests")).1 = .ok receipt) ∧
        ((recordDependency pipSpace t ("pip install " ++ "requests")).run world).2 = world) ∧
    (let t := pipTask "Run 'pip install \x7b\x7d' in the project root and add it to requirements.txt and package.json."
      let world : World := ⟨linkedFiles, [], []⟩
      IsToken "\x7b\x7d" ∧ "requirements.txt" ∈ t.files ∧ Lists "\x7b\x7d" "\x7b\x7d" ∧
        pipSpace.read world.files "requirements.txt" = .ok "\x7b\x7d" ∧
        pipSpace.read ((recordDependency pipSpace t ("pip install " ++ "\x7b\x7d")).run world).2.files
          "requirements.txt" = .ok bracesText ∧ bracesText ≠ "\x7b\x7d") := by
  constructor
  · intro t world
    have hfiles : t.files = ["package.json", "requirements.txt"] := by decide
    refine ⟨isToken_requests, by rw [hfiles]; simp, not_lists_flask, read_pipFiles, write_pipFiles, ?_⟩
    rw [recordDependency_pip isToken_requests, hfiles]
    obtain ⟨e, he⟩ : ∃ e, pipSpace.read world.files "package.json" = .error e :=
      flat_pipFiles.read_of_none isFileName_manifests.2 (by decide)
    have hupdated : updated pipSpace world.files t "package.json" "requests" = .error e := by
      rw [updated_package (by decide), he]
      rfl
    exact (records_run pipSpace t "requests" _ world).eq_of_unfit hupdated
  · intro t world
    have hfiles : t.files = ["requirements.txt", "package.json"] := by decide
    obtain ⟨hfolder, hlink, hfile⟩ := linkedFiles_spec
    have hread : pipSpace.read world.files "requirements.txt" = .ok "\x7b\x7d" := read_link hfolder hfile hlink
    have hlisted : updated pipSpace world.files t "requirements.txt" "\x7b\x7d" = .ok none := by
      rw [updated_requirements (by decide), hread, recordedLine_eq]
      exact congrArg Except.ok (if_pos lists_braces)
    have hupdated : updated pipSpace world.files t "package.json" "\x7b\x7d" = .ok (some bracesText) := by
      have hparsed : Json.parse "\x7b\x7d" = .ok (.object []) := rfl
      have hrecorded : recordedMember (.object []) "\x7b\x7d" = some bracesText := by decide
      rw [updated_package (by decide), show pipSpace.read world.files "package.json" = _ from read_package hfolder hfile]
      simp only [bind, Except.bind, hparsed, Except.mapError, hrecorded]
      rfl
    refine ⟨isToken_braces, by rw [hfiles]; simp, lists_braces, hread, ?_, by decide⟩
    rw [recordDependency_pip isToken_braces, hfiles]
    obtain ⟨r, hlast⟩ := ((records_run pipSpace t "\x7b\x7d" _ world).rest_of_settled hlisted).rest_of_written hupdated
      write_linkedFiles
    rw [hlast.eq_of_still .nil]
    exact read_link (hfolder.put _) (node?_put_self (by simp) _) ((node?_put_of_ne (by decide) _).trans hlink)

end BuildLoop.Worker
