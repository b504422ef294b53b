import BuildLoop.Proofs.Command.Policy
import BuildLoop.Proofs.Failure
import BuildLoop.Proofs.Workspace.Resolve
import BuildLoop.Proofs.Workspace.Staging

/-!
# What a workspace lets happen

Every effect on a project goes through four operations. Whatever paths and command lines they are
given and in whatever order they come, the workspace writes only below its root and under no protected
name, starts only what may run, and starts it in a directory of the project. What is refused has no
effect.

    (establish c fs d path).1 = ok w   →   Opened c w                              (opened_establish)
    Opened .standard w   →   Confined w h world (w.perform h op world)             (confined_perform)
    (w.performAll h world ops).calls = world.calls ++ started, each Startable where it is started
                                                                                    (calls_performAll)

Programs may do to the files what they like. What the workspace itself writes is told for trees where
no link lies on the way to the root or below it; it makes none (linkFree_performAll).
-/

namespace BuildLoop

namespace Files

/-- Whether no link lies on the way to a path or below it. -/
def LinkFree (root : Path) (fs : Files) : Prop :=
  ∀ q t, fs.node? q = some (.link t) → ¬ q <+: root ∧ ¬ root <+: q

theorem LinkFree.plain {root : Path} {fs : Files} (h : LinkFree root fs) (rest : List String) :
    fs.Plain (root ++ rest) := by
  intro q t hq hlink
  obtain ⟨habove, hbelow⟩ := h q t hlink
  rcases List.prefix_or_prefix_of_prefix hq (List.prefix_append root rest) with hpre | hpre
  · exact habove hpre
  · exact hbelow hpre

end Files

namespace Workspace

open Files

variable {w : Workspace} {fs fs' : Files} {p q : Path} {path : String}

/-! ## Opening -/

/-- What a workspace is that was opened with a configuration. -/
structure Opened (c : WorkspaceConfig) (w : Workspace) : Prop where
  config : w.config = c
  names : ∀ n ∈ w.root, IsName n

theorem of_establish {c : WorkspaceConfig} {directory : Path}
    (h : (establish c fs directory path).1 = .ok w) :
    w.config = c ∧
      (establish c fs directory path).2.locate (fromDirectory directory path) = .ok w.root := by
  unfold establish at h ⊢
  split at h
  · cases h
  · next hpath =>
    rw [if_neg hpath]
    simp only at h ⊢
    split at h
    · cases h
    · next made _ =>
      cases hroot : made.locate (fromDirectory directory path) with
      | error e =>
        rw [hroot] at h
        cases h
      | ok root =>
        rw [hroot] at h
        cases h
        exact ⟨rfl, rfl⟩

theorem opened_establish {c : WorkspaceConfig} {directory : Path}
    (h : (establish c fs directory path).1 = .ok w) : Opened c w :=
  ⟨(of_establish h).1, (plain_of_locate (of_establish h).2).1⟩

/-- A root lies where no link leads; so links can only lie below it. -/
theorem linkFree_establish {c : WorkspaceConfig} {directory : Path}
    (h : (establish c fs directory path).1 = .ok w)
    (hbelow : ∀ q t, w.root <+: q → (establish c fs directory path).2.node? q ≠ some (.link t)) :
    LinkFree w.root (establish c fs directory path).2 := fun q t hlink =>
  ⟨fun habove => (plain_of_locate (of_establish h).2).2 q t habove hlink, fun hq => hbelow q t hq hlink⟩

/-! ## Writing -/

/-- What a workspace may do to what lies at a path: write a regular file, or make a directory where
nothing is. -/
inductive Edit : Option Node → Option Node → Prop where
  | create (new : ByteArray) : Edit none (some (.file new))
  | replace (old new : ByteArray) : Edit (some (.file old)) (some (.file new))
  | directory : Edit none (some .directory)

theorem Edit.not_link {old : Option Node} {t : String} : ¬ Edit old (some (.link t)) := by
  intro h
  cases h

/-- Whether a path lies below the root and under no protected name. -/
def IsOpen (w : Workspace) (q : Path) : Prop :=
  ∃ name more, q = w.root ++ name :: more ∧ name ∉ protectedNames

/-- Whether what differs between two trees is what the workspace may do. -/
def Within (w : Workspace) (fs fs' : Files) : Prop :=
  ∀ q, fs'.node? q = fs.node? q ∨ w.IsOpen q ∧ Edit (fs.node? q) (fs'.node? q)

theorem Within.refl (w : Workspace) (fs : Files) : w.Within fs fs := fun _ => .inl rfl

theorem Within.linkFree (h : w.Within fs fs') (hfree : LinkFree w.root fs) : LinkFree w.root fs' := by
  intro q t hlink
  rcases h q with hsame | ⟨-, hedit⟩
  · exact hfree q t (hsame ▸ hlink)
  · exact absurd (hlink ▸ hedit) Edit.not_link

/-- Writing a file at a place that is open, after other changes that keep what lies there. -/
theorem Within.file {made : Files} {content : ByteArray} (h : w.Within fs made) (hp : w.IsOpen p)
    (hplain : fs.Plain p) (hdir : fs.node? p ≠ some .directory)
    (hfile : fs'.node? p = some (.file content)) (hother : ∀ q, q ≠ p → fs'.node? q = made.node? q) :
    w.Within fs fs' := by
  intro q
  by_cases hq : q = p
  · subst hq
    refine .inr ⟨hp, ?_⟩
    rw [hfile]
    cases hnode : fs.node? q with
    | none => exact .create content
    | some n =>
      cases n with
      | file old => exact .replace old content
      | directory => exact absurd hnode hdir
      | link t => exact absurd hnode (hplain q t (List.prefix_refl q))
  · rw [hother q hq]
    exact h q

section
variable {name : String} {more : List String}

/-- Where a path was not refused, directories are only made below the root. -/
theorem within_grown (hnames : ∀ n ∈ w.root ++ name :: more, IsName n)
    (hplain : fs.Plain (w.root ++ name :: more))
    (hroot : w.root <+: nearest fs (w.root ++ name :: more).reverse)
    (hname : name ∉ protectedNames) (h : Grown (w.root ++ name :: more) fs fs') :
    w.Within fs fs' := by
  intro q
  rcases h q with hsame | ⟨hq, hnone, hdir⟩
  · exact .inl hsame
  · have hlocate : fs.locate w.root = .ok w.root := by
      have hnearest := locate_nearest (fun n hn => hnames n (List.mem_reverse.1 hn))
        (by rwa [List.reverse_reverse])
      obtain ⟨hn, hp⟩ := plain_of_locate hnearest
      exact locate_above hn hp hnearest hroot
    have habove : ¬ q <+: w.root := by
      intro hpre
      obtain ⟨hn, hp⟩ := plain_of_locate hlocate
      have hq' : ∀ n ∈ q, IsName n := fun n hmem => hn n (hpre.subset hmem)
      have hsome := (eq_of_locate hq' (hp.of_prefix hpre) (locate_above hn hp hlocate hpre)).2
      rw [hnone] at hsome
      cases hsome
    obtain ⟨t, rfl⟩ : w.root <+: q :=
      (List.prefix_or_prefix_of_prefix (List.prefix_append _ _) hq).resolve_right habove
    have ht : t <+: name :: more := (List.prefix_append_right_inj w.root).1 hq
    cases t with
    | nil => exact absurd (by simp) habove
    | cons n t =>
      obtain ⟨rfl, -⟩ := List.cons_prefix_cons.1 ht
      refine .inr ⟨⟨n, t, rfl, hname⟩, ?_⟩
      rw [hnone, hdir]
      exact .directory

end

/-- What a write does is what the workspace may do, whether it succeeds or fails half way. -/
theorem within_write {content : String} (hw : Opened .standard w) (hfree : LinkFree w.root fs) :
    w.Within fs (w.write fs path content).2 := by
  unfold write
  split
  · exact .refl w fs
  · next p hresolve =>
    split
    · exact .refl w fs
    · next hrefusal =>
      obtain ⟨rest, rfl, hrest⟩ := of_resolve hresolve
      obtain ⟨name, more, rfl, hname⟩ := of_refusal hw.config hrefusal
      have hnames : ∀ n ∈ w.root ++ name :: more, IsName n := fun n hn =>
        (List.mem_append.1 hn).elim (hw.names n) (hrest n)
      have hplain := hfree.plain (name :: more)
      have hdir := List.dropLast_prefix (w.root ++ name :: more)
      have hgrown := grown_makeDirectories (fun n hn => hnames n (hdir.subset hn))
        (hplain.of_prefix hdir)
      have hmade : w.Within fs (fs.makeDirectories (w.root ++ name :: more).dropLast).1 :=
        within_grown hnames hplain (prefix_nearest_of_resolve hresolve) hname (hgrown.mono hdir)
      have hsame : (fs.makeDirectories (w.root ++ name :: more).dropLast).1.node?
          (w.root ++ name :: more) = fs.node? (w.root ++ name :: more) := by
        refine (hgrown _).resolve_right fun ⟨hpre, _⟩ => ?_
        have hlen := hpre.length_le
        rw [List.length_dropLast, List.length_append, List.length_cons] at hlen
        omega
      generalize fs.makeDirectories (w.root ++ name :: more).dropLast = made at *
      obtain ⟨fs₁, r⟩ := made
      cases r with
      | error e => exact hmade
      | ok _ =>
        simp only
        cases hstage : stage fs₁ (w.root ++ name :: more) content with
        | mk fs₂ r =>
          cases r with
          | error e => exact eq_of_stage_error hstage ▸ hmade
          | ok _ =>
            obtain ⟨hdirectory, hfile, hother⟩ := of_stage hnames (hgrown.plain hplain) (by simp) hstage
            exact hmade.file ⟨name, more, rfl, hname⟩ hplain (hsame ▸ hdirectory) hfile hother

/-- Whether a failure is the workspace's own no: the path leads out of the project or may not be
written, or the command may not run. -/
def IsRefusal : Failure → Prop
  | .path _ | .commandRejected .. => True
  | _ => False

theorem write_of_refusal {content : String} {f : Failure} (h : (w.write fs path content).1 = .error f)
    (hf : IsRefusal f) : (w.write fs path content).2 = fs := by
  unfold write at h ⊢
  split
  · rfl
  · next hresolve =>
    simp only [hresolve] at h
    split
    · rfl
    · next hrefusal =>
      -- once directories are made, only the system can fail
      simp only [hrefusal] at h
      split at h
      · cases h
        exact hf.elim
      · split at h
        · cases h
          exact hf.elim
        · cases h

/-! ## Starting -/

/-- What a workspace may start: a command that may run, in a directory of the project. -/
structure Startable (w : Workspace) (fs : Files) (call : Call) : Prop where
  allowed : Command.Allowed (call.program :: call.args)
  /-- The directory is given by a path below the root, -/
  below : w.root <+: call.directory
  /-- and lies there, wherever links lead. -/
  inside : ∃ d, fs.locate call.directory = .ok d ∧ fs.node? d = some .directory ∧ w.root <+: d

theorem startable_of_permitted {line workdir : String} {argv : List String} {directory : Path}
    (h : w.permitted fs line workdir = .ok (argv, directory)) :
    ∃ program args, argv = program :: args ∧ Startable w fs ⟨program, args, directory⟩ := by
  unfold permitted at h
  obtain ⟨d, hresolve, h⟩ := exists_of_bind h
  split at h
  · next hdirectory =>
    obtain ⟨argv', hsplit, h⟩ := exists_of_bind h
    obtain ⟨_, hcheck, h⟩ := exists_of_bind h
    cases h
    obtain ⟨program, args, rfl⟩ := List.exists_cons_of_ne_nil (Command.ne_nil_of_split hsplit)
    refine ⟨program, args, rfl, Command.allowed_of_check hcheck, ?_, ?_⟩
    · obtain ⟨rest, rfl, -⟩ := of_resolve hresolve
      exact List.prefix_append _ _
    · unfold isDirectory at hdirectory
      split at hdirectory
      · next q hq =>
        exact ⟨q, hq, eq_of_beq hdirectory, nearest_of_locate hq ▸ prefix_nearest_of_resolve hresolve⟩
      · cases hdirectory
  · cases h

/-- Whether between two worlds one program was started and nothing else happened: the files are those
that the program left. -/
def Started (h : Host) (world world' : World) (call : Call) : Prop :=
  ∃ reply, world' = { world with
      files := (h.program world.calls call world.files).2, calls := world.calls ++ [(call, reply)] }

theorem of_start (h : Host) (world : World) (call : Call) :
    (world.start h call).2 = world ∨ Started h world (world.start h call).2 call := by
  unfold World.start
  split
  · exact .inl rfl
  · exact .inl rfl
  · next reply files _ _ hprogram =>
    split
    · exact .inl rfl
    · refine .inr ⟨reply, ?_⟩
      rw [hprogram]

theorem of_runProgram (h : Host) (world : World) (program : String) (args : List String)
    (directory : Path) (ms : Nat) :
    let result := world.runProgram h (program :: args) directory ms
    (result.2 = world ∨ Started h world result.2 ⟨program, args, directory⟩) ∧
      ∀ f, result.1 = .error f → ¬ IsRefusal f := by
  intro result
  have hstart := of_start h world ⟨program, args, directory⟩
  cases hs : world.start h ⟨program, args, directory⟩ with
  | mk reply world' =>
    rw [hs] at hstart
    cases reply with
    | ends code out err =>
      simp only [result, World.runProgram, hs]
      exact ⟨hstart, fun f hf => (by cases hf)⟩
    | hangs =>
      simp only [result, World.runProgram, hs]
      exact ⟨hstart, fun f hf => Except.error.inj hf ▸ id⟩
    | refused reason =>
      simp only [result, World.runProgram, hs]
      exact ⟨hstart, fun f hf => Except.error.inj hf ▸ id⟩

/-! ## Operations -/

/-- What a workspace can be asked for. -/
inductive Operation where
  | list (path : String)
  | read (path : String)
  | write (path content : String)
  | run (line workdir : String) (milliseconds : Nat)

/-- Does what is asked for, and answers only whether it failed. -/
def perform (w : Workspace) (h : Host) : Operation → Act World Unit
  | .list path => do let _ ← w.listing path
  | .read path => do let _ ← w.reading path
  | .write path content => do let _ ← w.writing path content
  | .run line workdir milliseconds => do let _ ← w.running h line workdir milliseconds

/-- Does one thing after another, whether it fails or not. -/
def performAll (w : Workspace) (h : Host) (world : World) (ops : List Operation) : World :=
  ops.foldl (fun world op => ((w.perform h op).run world).2) world

/-- What one operation may do. -/
structure Confined (w : Workspace) (h : Host) (world : World) (result : Except Failure Unit × World) :
    Prop where
  /-- It changes some files, as the workspace may, or it starts one program that may be started. -/
  effect : (∃ files, result.2 = { world with files } ∧
      (LinkFree w.root world.files → w.Within world.files files)) ∨
    ∃ call, Startable w world.files call ∧ Started h world result.2 call
  /-- It does nothing if it is refused. -/
  refused : ∀ f, result.1 = .error f → IsRefusal f → result.2 = world

theorem run_discard {α : Type} (x : Act World α) (world : World) :
    (do let _ ← x : Act World Unit).run world =
      ((x.run world).1.map fun _ => (), (x.run world).2) := by
  let answer : α → Act World Unit := fun _ => pure ()
  have hrun : (x >>= answer).run world = ExceptT.bindCont answer (x.run world).1 (x.run world).2 := rfl
  show (x >>= answer).run world = _
  rw [hrun]
  cases (x.run world).1 <;> rfl

/-- Looking changes nothing. -/
theorem confined_self (w : Workspace) (h : Host) (world : World) (r : Except Failure Unit) :
    Confined w h world (r, world) :=
  ⟨.inl ⟨world.files, rfl, fun _ => .refl w world.files⟩, fun _ _ _ => rfl⟩

theorem eq_error_of_map {α : Type} {x : Except Failure α} {f : Failure}
    (h : (x.map fun _ => ()) = .error f) : x = .error f := by
  cases x with
  | error e => exact congrArg Except.error (Except.error.inj h)
  | ok a => cases h

theorem confined_perform (hw : Opened .standard w) (h : Host) (world : World) (op : Operation) :
    Confined w h world ((w.perform h op).run world) := by
  cases op with
  | list path =>
    have hrun : (w.listing path).run world = (w.list world.files path, world) := rfl
    rw [perform, run_discard, hrun]
    exact confined_self w h world _
  | read path =>
    have hrun : (w.reading path).run world = (w.read world.files path, world) := rfl
    rw [perform, run_discard, hrun]
    exact confined_self w h world _
  | write path content =>
    have hrun : (w.writing path content).run world =
        ((w.write world.files path content).1,
          { world with files := (w.write world.files path content).2 }) := rfl
    rw [perform, run_discard, hrun]
    refine ⟨.inl ⟨_, rfl, within_write hw⟩, fun f hf hrefusal => ?_⟩
    have hsame := write_of_refusal (eq_error_of_map hf) hrefusal
    exact congrArg (fun files => { world with files }) hsame
  | run line workdir milliseconds =>
    have hrun : (w.running h line workdir milliseconds).run world =
        w.run h world line workdir milliseconds := rfl
    rw [perform, run_discard, hrun, run]
    split
    · exact confined_self w h world _
    · next hpermitted =>
      obtain ⟨program, args, rfl, hstartable⟩ := startable_of_permitted hpermitted
      obtain ⟨heffect, hanswer⟩ := of_runProgram h world program args _ milliseconds
      refine ⟨?_, fun f hf hrefusal => absurd hrefusal (hanswer f (eq_error_of_map hf))⟩
      rcases heffect with hsame | hstarted
      · exact .inl ⟨world.files, hsame, fun _ => .refl w _⟩
      · exact .inr ⟨_, hstartable, hstarted⟩

theorem performAll_concat (w : Workspace) (h : Host) (world : World) (ops : List Operation)
    (op : Operation) :
    w.performAll h world (ops ++ [op]) = ((w.perform h op).run (w.performAll h world ops)).2 :=
  List.foldl_concat ..

/-- What confined operations start is startable, each where it is started. -/
theorem calls_performAll (hw : Opened .standard w) (h : Host) (world : World) (ops : List Operation) :
    ∃ started, (w.performAll h world ops).calls = world.calls ++ started ∧
      ∀ c ∈ started, ∃ before, before <+: ops ∧
        Startable w (w.performAll h world before).files c.1 := by
  induction ops using List.reverseRecOn with
  | nil => exact ⟨[], (List.append_nil _).symm, fun c hc => absurd hc List.not_mem_nil⟩
  | append_singleton ops op ih =>
    obtain ⟨started, hcalls, hstarted⟩ := ih
    have hmono : ∀ c ∈ started, ∃ before, before <+: ops ++ [op] ∧
        Startable w (w.performAll h world before).files c.1 := by
      intro c hc
      obtain ⟨before, hbefore, hstartable⟩ := hstarted c hc
      exact ⟨before, hbefore.trans (List.prefix_append _ _), hstartable⟩
    rw [performAll_concat]
    rcases (confined_perform hw h (w.performAll h world ops) op).effect with
      ⟨files, hfiles, -⟩ | ⟨call, hstartable, reply, hworld⟩
    · rw [hfiles]
      exact ⟨started, hcalls, hmono⟩
    · refine ⟨started ++ [(call, reply)], ?_, fun c hc => ?_⟩
      · rw [hworld, ← List.append_assoc, ← hcalls]
      · rcases List.mem_append.1 hc with hc | hc
        · exact hmono c hc
        · rw [List.mem_singleton.1 hc]
          exact ⟨ops, List.prefix_append _ _, hstartable⟩

/-- Where programs make no links, there are none after any operations. -/
theorem linkFree_performAll (hw : Opened .standard w) (h : Host) (world : World)
    (hprogram : ∀ calls call fs, Startable w fs call → LinkFree w.root fs →
      LinkFree w.root (h.program calls call fs).2)
    (hfree : LinkFree w.root world.files) (ops : List Operation) :
    LinkFree w.root (w.performAll h world ops).files := by
  induction ops using List.reverseRecOn with
  | nil => exact hfree
  | append_singleton ops op ih =>
    rw [performAll_concat]
    rcases (confined_perform hw h (w.performAll h world ops) op).effect with
      ⟨files, hfiles, hwithin⟩ | ⟨call, hstartable, reply, hworld⟩
    · rw [hfiles]
      exact (hwithin ih).linkFree ih
    · rw [hworld]
      exact hprogram _ call _ hstartable ih

/-- Whatever a workspace with the standard configuration is asked for, and in whatever order: each
operation is confined, all that is started is startable where it is started, and links come from
programs only. -/
theorem performAll_confined {directory : Path} (hw : (establish .standard fs directory path).1 = .ok w)
    (h : Host) (world : World) (ops : List Operation) :
    (∀ before op after, ops = before ++ op :: after →
      Confined w h (w.performAll h world before) ((w.perform h op).run (w.performAll h world before))) ∧
    (∃ started, (w.performAll h world ops).calls = world.calls ++ started ∧
      ∀ c ∈ started, ∃ before, before <+: ops ∧
        Startable w (w.performAll h world before).files c.1) ∧
    (LinkFree w.root world.files →
      (∀ calls call fs, Startable w fs call → LinkFree w.root fs →
        LinkFree w.root (h.program calls call fs).2) →
      ∀ before, before <+: ops → LinkFree w.root (w.performAll h world before).files) := by
  have hopened := opened_establish hw
  refine ⟨fun before op _ _ => confined_perform hopened h _ op, calls_performAll hopened h world ops, ?_⟩
  intro hfree hprogram before _
  exact linkFree_performAll hopened h world hprogram hfree before

/-- Opening a project where nothing was. -/
theorem establish_empty : establish .standard .empty [] "/p" =
    (.ok ⟨["p"], .standard⟩, ⟨[(["p"], .directory)]⟩) := by
  have hp : IsName "p" := by decide
  have hfault : pathFault? ["p"] = none := by decide
  have hentry : Files.empty.locateEntry ["p"] = .ok ["p"] := by
    simp only [locateEntry, List.getLast?_singleton, hfault, List.dropLast_singleton, locate_nil]
    decide
  have hdirectory : Files.empty.makeDirectory ["p"] = .ok ⟨[(["p"], .directory)]⟩ := by
    unfold makeDirectory
    rw [hentry]
    rfl
  have hmade : Files.empty.makeDirectories ["p"] = (⟨[(["p"], .directory)]⟩, .ok ()) := by
    show makeUp Files.empty ["p"] = _
    unfold makeUp
    simp only [List.reverse_singleton]
    rw [hdirectory]
  have hlocate : locate ⟨[(["p"], .directory)]⟩ ["p"] = .ok ["p"] := by
    have hnode : node? ⟨[(["p"], .directory)]⟩ ["p"] = some .directory := rfl
    simp only [locate, hfault, follow_name hp]
    rw [if_neg (by decide)]
    simp only [List.nil_append, hnode, follow]
  have hpath : fromDirectory [] "/p" = ["p"] := by decide
  unfold establish
  rw [if_neg (by decide)]
  simp only [hpath, hmade, hlocate]
  rfl

theorem linkFree_establish_empty :
    LinkFree ["p"] (establish .standard .empty [] "/p").2 := by
  have hopened : (establish .standard .empty [] "/p").1 = .ok ⟨["p"], .standard⟩ := by
    rw [establish_empty]
  refine linkFree_establish hopened fun q t _ hlink => ?_
  rw [establish_empty] at hlink
  by_cases hnil : q = []
  · rw [hnil, node?_nil] at hlink
    cases hlink
  · rw [node?_of_ne hnil, List.lookup_cons] at hlink
    split at hlink <;> cases hlink

theorem folder_establish_empty : Folder (establish .standard .empty [] "/p").2 ["p"] := by
  rw [establish_empty]
  exact (folder_nil _).child ⟨by decide, by decide, by decide⟩ rfl

/-- A project that is opened where nothing was, then written to and made to run. -/
theorem performAll_confined_opened :
    let w : Workspace := ⟨["p"], .standard⟩
    let h : Host := ⟨fun _ _ files => (.ends (some 0) .empty .empty, files), fun _ _ => .unreachable "",
      fun _ => none⟩
    let world : World := ⟨(establish .standard .empty [] "/p").2, [], []⟩
    let written := w.performAll h world [.write "a.txt" "x"]
    (establish .standard .empty [] "/p").1 = .ok w ∧ LinkFree w.root world.files ∧
      LinkFree w.root written.files ∧
      Confined w h written ((w.perform h (.run "node a.txt" "." 5)).run written) := by
  intro w h world written
  have hopened : (establish .standard .empty [] "/p").1 = .ok w := by rw [establish_empty]
  have hfree : LinkFree w.root world.files := linkFree_establish_empty
  obtain ⟨hconfined, -, hkept⟩ := performAll_confined hopened h world
    [.write "a.txt" "x", .run "node a.txt" "." 5]
  exact ⟨hopened, hfree, hkept hfree (fun _ _ _ _ hfree => hfree) _ ⟨[.run "node a.txt" "." 5], rfl⟩,
    hconfined [.write "a.txt" "x"] _ [] rfl⟩

end Workspace

end BuildLoop
