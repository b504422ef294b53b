import BuildLoop.Proofs.Files.Folder
import BuildLoop.Proofs.Workspace.Confine
import BuildLoop.Service.Runs

/-!
# Whose directory a run has

A run's directory is the child of the service's directory that has the name asked for, or the run's id
if none is. It is the run's own exactly as long as no other run asks for the name: the name is not
looked up among those of earlier runs.

    (establish c fs directory name).1 = ok w   →   w.root = d/name                     (root_of_establish)
    s.Tracked directory d turns                →   (s.take t).Tracked … (turns ++ [t])    (Tracked.arrive,
                                                                                           Tracked.finish)
    r.workspace.root = r'.workspace.root       ↔   they asked for the same name           (roots_of_runs)
-/

namespace BuildLoop

open Files

/-! ## Workspaces in a directory -/

namespace Workspace

variable {c : WorkspaceConfig} {fs : Files} {dir d : Path} {name : String} {w : Workspace}

/-- A workspace that is opened under a bare name lies in the directory, unless a link lies there. -/
theorem root_of_establish (hname : IsName name) (hbare : '/' ∉ name.toList) (hdir : fs.locate dir = .ok d)
    (hlink : ∀ t, fs.node? (d ++ [name]) ≠ some (.link t)) (h : (establish c fs dir name).1 = .ok w) :
    w = ⟨d ++ [name], c⟩ := by
  obtain ⟨hconfig, hlocate⟩ := of_establish h
  have hpath : fromDirectory dir name = dir ++ [name] := by
    rw [fromDirectory, isAbsolute_of_bare hbare, namesIn_of_bare hname hbare]
    rfl
  have hempty : name.isEmpty = false := by simpa using hname.1
  unfold establish at h hlocate
  rw [hempty, hpath] at h hlocate
  simp only [Bool.false_eq_true, if_false] at h hlocate
  cases hmade : fs.makeDirectories (dir ++ [name]) with
  | mk fs' r =>
    rw [hmade] at h hlocate
    cases r with
    | error e => cases h
    | ok _ =>
      have hroot : w.root = d ++ [name] := by
        rcases of_makeDirectories_concat hname hdir hmade with rfl | ⟨hnone, rfl⟩
        · exact (of_locate_concat hname hdir hlink hlocate).1
        · refine (of_locate_concat hname (locate_put hdir hnone _) (fun t => ?_) hlocate).1
          rw [node?_put_self (by simp)]
          simp
      rw [← hroot, ← hconfig]

/-- A workspace is opened in a folder that has room for it and nothing of its name. -/
theorem establish_of_none (hfolder : Folder fs dir) (hr : Room dir name) (hbare : '/' ∉ name.toList)
    (hnode : fs.node? (dir ++ [name]) = none) (c : WorkspaceConfig) :
    establish c fs dir name = (.ok ⟨dir ++ [name], c⟩, fs.put (dir ++ [name]) .directory) := by
  have hempty : name.isEmpty = false := by simpa using hr.isName.1
  have hmade := (hfolder.put .directory).child hr (node?_put_self (by simp) .directory)
  unfold establish
  simp only [hempty, fromDirectory, isAbsolute_of_bare hbare, namesIn_of_bare hr.isName hbare,
    hfolder.makeDirectories_concat hr hnode, hmade.located, Bool.false_eq_true, if_false]
  rfl

/-- It is opened as well if its directory is there. -/
theorem establish_of_folder (hfolder : Folder fs (dir ++ [name])) (hr : Room dir name)
    (hbare : '/' ∉ name.toList) (c : WorkspaceConfig) :
    establish c fs dir name = (.ok ⟨dir ++ [name], c⟩, fs) := by
  have hempty : name.isEmpty = false := by simpa using hr.isName.1
  unfold establish
  simp only [hempty, fromDirectory, isAbsolute_of_bare hbare, namesIn_of_bare hr.isName hbare,
    hfolder.makeDirectories, hfolder.located, Bool.false_eq_true, if_false]
  rfl

/-- Whether nothing that a workspace writes, wherever and whenever, changes anything below another's
root. -/
def Apart (w w' : Workspace) : Prop :=
  ∀ fs path content q, LinkFree w.root fs → w'.root <+: q →
    (w.write fs path content).2.node? q = fs.node? q

theorem apart_of_ne {a b : String} (hw : Opened .standard ⟨d ++ [a], .standard⟩) (hab : a ≠ b) :
    Apart ⟨d ++ [a], .standard⟩ ⟨d ++ [b], c⟩ := by
  intro fs path content q hfree hq
  refine (within_write hw hfree q).resolve_right ?_
  rintro ⟨⟨name, more, rfl, -⟩, -⟩
  rw [List.append_assoc, List.prefix_append_right_inj, List.singleton_append, List.cons_prefix_cons] at hq
  exact hab hq.1.symm

end Workspace

namespace Service

open Workspace

namespace Runs

/-! ## What happens to a service -/

/-- A request that comes in, with the id for a run that it starts and the files as they are then; or the
end of a run. -/
inductive Turn where
  | arrive (id : String) (m : Message) (fs : Files)
  | finish (id : String) (h : Host) (world : World)

/-- The service after a turn. -/
def take (s : Runs) : Turn → Runs
  | .arrive id m fs => (s.handle id m fs).2.1
  | .finish id h world => (s.complete h id world).1

/-- The service after one turn after another. -/
def takeAll (s : Runs) (turns : List Turn) : Runs := turns.foldl take s

/-- The ids for the runs that requests may start. -/
def ids (turns : List Turn) : List String :=
  turns.filterMap fun
    | .arrive id _ _ => some id
    | .finish .. => none

/-- Whether a request under an id asks for a run in the directory of a name. -/
def Asks (turns : List Turn) (id name : String) : Prop :=
  ∃ m fs o, .arrive id m fs ∈ turns ∧ m.method = "POST" ∧ route? m.path = some .runs ∧
    readOrder m.body = .ok o ∧ name = o.project.getD id

/-- Whether the service's directory leads to a place where no link lies. -/
structure Stands (directory d : Path) (fs : Files) : Prop where
  located : fs.locate directory = .ok d
  linkless : ∀ name t, fs.node? (d ++ [name]) ≠ some (.link t)

/-! ## One turn -/

theorem bare_of_isProjectName {name : String} (h : isProjectName name = true) :
    IsName name ∧ '/' ∉ name.toList := by
  unfold isProjectName at h
  simp only [Bool.and_eq_true, List.all_eq_true] at h
  obtain ⟨⟨hempty, -⟩, hchars⟩ := h
  have hdot : '.' ∉ name.toList := fun hc => absurd (hchars _ hc) (by decide)
  refine ⟨⟨by simpa using hempty, ?_, ?_⟩, fun hc => absurd (hchars _ hc) (by decide)⟩ <;>
    · rintro rfl
      exact hdot (by decide)

variable {s : Runs} {directory d : Path} {turns : List Turn}

theorem create_eq_of_establish (id : String) (o : RunOrder) {fs fs' : Files} {w : Workspace}
    (hblank : Text.isBlankText o.requirements = false) (hname : isProjectName (o.project.getD id) = true)
    (h : establish .standard fs s.directory (o.project.getD id) = (.ok w, fs')) :
    s.create id o fs =
      (.ofJson 202 (.object (RunRecord.mk id o.requirements (s.configFor o) w .empty none).summary),
        { s with records := s.records ++ [⟨id, o.requirements, s.configFor o, w, .empty, none⟩] }, fs') := by
  unfold create
  simp only [hblank, hname, h, Bool.not_true, Bool.false_eq_true, if_false]

/-- A request starts no run, or one in a workspace that it opens. -/
theorem of_handle (s : Runs) (id : String) (m : Message) (fs : Files) :
    (s.handle id m fs).2.1 = s ∨ ∃ o w, m.method = "POST" ∧ route? m.path = some .runs ∧
      readOrder m.body = .ok o ∧ isProjectName (o.project.getD id) = true ∧
      (establish .standard fs s.directory (o.project.getD id)).1 = .ok w ∧
      (s.handle id m fs).2.1 =
        { s with records := s.records ++ [⟨id, o.requirements, s.configFor o, w, .empty, none⟩] } := by
  unfold handle
  split
  · exact .inl rfl
  next route hroute =>
  split
  · exact .inl rfl
  split
  · exact .inl rfl
  split
  · next hpost =>
    split
    · exact .inl rfl
    next o horder =>
    obtain ⟨hmethod, rfl⟩ := hpost
    unfold create
    simp only
    split
    · exact .inl rfl
    split
    · exact .inl rfl
    next hname =>
    split
    · exact .inl rfl
    · next w fs' hestablish =>
      exact .inr ⟨o, w, hmethod, hroute, horder, by simpa using hname, by rw [hestablish], rfl⟩
  · exact .inl rfl

/-- The ids of the runs, with their workspaces. -/
def places (s : Runs) : List (String × Workspace) := s.records.map fun r => (r.id, r.workspace)

theorem complete_keeps (r : RunRecord) (h : Host) (world : World) :
    (r.complete h world).1.id = r.id ∧ (r.complete h world).1.workspace = r.workspace := by
  unfold RunRecord.complete
  split <;> exact ⟨rfl, rfl⟩

/-- A run that ends keeps its workspace. -/
theorem places_complete (hids : (s.places.map Prod.fst).Nodup) (h : Host) (id : String) (world : World) :
    (s.complete h id world).1.places = s.places ∧
      (s.complete h id world).1.directory = s.directory := by
  unfold complete
  split
  · exact ⟨rfl, rfl⟩
  next r hfind =>
  have hr : r ∈ s.records := List.mem_of_find?_eq_some hfind
  obtain ⟨hid, hworkspace⟩ := complete_keeps r h world
  generalize r.complete h world = ended at *
  refine ⟨?_, rfl⟩
  unfold places update at *
  rw [List.map_map] at *
  refine List.map_congr_left fun q hq => ?_
  simp only [Function.comp_apply]
  split
  · next heq =>
    rw [hid] at heq
    rw [hid, hworkspace, List.inj_on_of_nodup_map hids hq hr heq]
  · rfl

/-! ## Every turn -/

/-- What is known of a service after some turns. -/
structure Tracked (s : Runs) (directory d : Path) (turns : List Turn) : Prop where
  directory : s.directory = directory
  ids : (s.places.map Prod.fst).Sublist (Runs.ids turns)
  placed : ∀ p ∈ s.places, ∃ name, Asks turns p.1 name ∧ isProjectName name = true ∧
    p.2 = ⟨d ++ [name], .standard⟩

namespace Tracked

theorem new (config : RunConfig) (directory d : Path) : (Runs.new config directory).Tracked directory d [] :=
  ⟨rfl, List.Sublist.refl _, fun _ hp => absurd hp List.not_mem_nil⟩

variable (ht : s.Tracked directory d turns)
include ht

/-- Nothing is lost if a turn leaves the service's places as they are. -/
theorem same {s' : Runs} (hdirectory : s'.directory = s.directory) (hplaces : s'.places = s.places)
    (t : Turn) : s'.Tracked directory d (turns ++ [t]) := by
  refine ⟨hdirectory.trans ht.directory, ?_, fun p hp => ?_⟩
  · rw [hplaces, Runs.ids, List.filterMap_append]
    exact ht.ids.trans (List.sublist_append_left _ _)
  · obtain ⟨name, ⟨m, fs, o, hmem, hasked⟩, hplaced⟩ := ht.placed p (hplaces ▸ hp)
    exact ⟨name, ⟨m, fs, o, List.mem_append_left _ hmem, hasked⟩, hplaced⟩

theorem arrive {fs : Files} (hstands : Stands directory d fs) (id : String) (m : Message) :
    (s.take (.arrive id m fs)).Tracked directory d (turns ++ [.arrive id m fs]) := by
  rcases of_handle s id m fs with hsame | ⟨o, w, hmethod, hroute, horder, hname, hestablish, hrecords⟩
  · rw [take, hsame]
    exact ht.same rfl rfl _
  · rw [take, hrecords]
    obtain ⟨hdown, hbare⟩ := bare_of_isProjectName hname
    rw [ht.directory] at hestablish
    obtain rfl := root_of_establish hdown hbare hstands.located (hstands.linkless _) hestablish
    have hsame := ht.same rfl rfl (.arrive id m fs)
    refine ⟨hsame.directory, ?_, fun p hp => ?_⟩
    · rw [places, List.map_append, List.map_append, Runs.ids, List.filterMap_append]
      exact ht.ids.append (List.Sublist.refl _)
    · rw [places, List.map_append] at hp
      rcases List.mem_append.1 hp with hp | hp
      · exact hsame.placed p hp
      · obtain rfl := List.mem_singleton.1 hp
        exact ⟨_, ⟨m, fs, o, by simp, hmethod, hroute, horder, rfl⟩, hname, rfl⟩

theorem finish (hids : (Runs.ids turns).Nodup) (id : String) (h : Host) (world : World) :
    (s.take (.finish id h world)).Tracked directory d (turns ++ [.finish id h world]) := by
  obtain ⟨hplaces, hdirectory⟩ := places_complete (ht.ids.nodup hids) h id world
  exact ht.same hdirectory hplaces _

end Tracked

theorem ids_concat (turns : List Turn) (t : Turn) : (ids turns).Sublist (ids (turns ++ [t])) := by
  rw [ids, ids, List.filterMap_append]
  exact List.sublist_append_left _ _

theorem tracked_takeAll (config : RunConfig) (hids : (ids turns).Nodup)
    (hstands : ∀ id m fs, .arrive id m fs ∈ turns → Stands directory d fs) :
    ((new config directory).takeAll turns).Tracked directory d turns := by
  induction turns using List.reverseRecOn with
  | nil => exact .new config directory d
  | append_singleton turns t ih =>
    have hbefore := ih ((ids_concat turns t).nodup hids) fun id m fs ht =>
      hstands id m fs (List.mem_append_left _ ht)
    rw [takeAll, List.foldl_concat]
    cases t with
    | arrive id m fs => exact hbefore.arrive (hstands id m fs (by simp)) id m
    | finish id h world => exact hbefore.finish ((ids_concat turns _).nodup hids) id h world

theorem eq_of_mem_ids {id : String} {m m' : Message} {fs fs' : Files} (hids : (ids turns).Nodup)
    (h : .arrive id m fs ∈ turns) (h' : .arrive id m' fs' ∈ turns) : m = m' := by
  induction turns with
  | nil => cases h
  | cons t turns ih =>
    have hlater : ∀ {m fs}, Turn.arrive id m fs ∈ turns → id ∈ ids turns := fun h =>
      List.mem_filterMap.2 ⟨_, h, rfl⟩
    have hrest : (ids turns).Nodup := hids.sublist ((List.sublist_cons_self t turns).filterMap _)
    rcases List.mem_cons.1 h with rfl | hm <;> rcases List.mem_cons.1 h' with he | hm'
    · cases he
      rfl
    · exact absurd (hlater hm') (List.nodup_cons.1 hids).1
    · subst he
      exact absurd (hlater hm) (List.nodup_cons.1 hids).1
    · exact ih hrest hm hm'

/-- Requests with ids of their own ask for one name each. -/
theorem Asks.eq {id name name' : String} (hids : (ids turns).Nodup) (h : Asks turns id name)
    (h' : Asks turns id name') : name = name' := by
  obtain ⟨m, fs, o, hmem, -, -, horder, rfl⟩ := h
  obtain ⟨m', fs', o', hmem', -, -, horder', rfl⟩ := h'
  rw [eq_of_mem_ids hids hmem hmem'] at horder
  rw [Except.ok.inj (horder.symm.trans horder')]

/-- Whatever requests come in, and whenever runs end: each run has the directory of the name that it
asks for, a child of the service's. Two runs have the same directory exactly if they ask for the same
name, and what runs with different names write stays apart. -/
theorem roots_of_runs (config : RunConfig) (hids : (ids turns).Nodup)
    (hstands : ∀ id m fs, .arrive id m fs ∈ turns → Stands directory d fs) :
    let s := (new config directory).takeAll turns
    (s.records.map (·.id)).Nodup ∧
    (∀ r ∈ s.records, ∃ name, Asks turns r.id name ∧ isProjectName name = true ∧
      r.workspace = ⟨d ++ [name], .standard⟩) ∧
    ∀ r ∈ s.records, ∀ r' ∈ s.records, ∀ name name', Asks turns r.id name → Asks turns r'.id name' →
      (r.workspace.root = r'.workspace.root ↔ name = name') ∧
      (name ≠ name' → Apart r.workspace r'.workspace) := by
  intro s
  have ht : s.Tracked directory d turns := tracked_takeAll config hids hstands
  have hplaced : ∀ r ∈ s.records, ∃ name, Asks turns r.id name ∧ isProjectName name = true ∧
      r.workspace = ⟨d ++ [name], .standard⟩ := fun r hr => ht.placed _ (List.mem_map_of_mem hr)
  refine ⟨?_, hplaced, fun r hr r' hr' name name' hasks hasks' => ?_⟩
  · have hnodup := ht.ids.nodup hids
    rwa [places, List.map_map] at hnodup
  · obtain ⟨a, ha, hname, hw⟩ := hplaced r hr
    obtain ⟨b, hb, -, hw'⟩ := hplaced r' hr'
    obtain rfl := ha.eq hids hasks
    obtain rfl := hb.eq hids hasks'
    rw [hw, hw']
    refine ⟨by simp, fun hne => apart_of_ne ⟨rfl, fun n hn => ?_⟩ hne⟩
    obtain ⟨m, fs, -, hmem, -⟩ := ha
    have hd := (plain_of_locate (hstands _ m fs hmem).located).1
    rcases List.mem_append.1 hn with hn | hn
    · exact hd n hn
    · exact List.mem_singleton.1 hn ▸ (bare_of_isProjectName hname).1

/-! ## Two runs for one name -/

/-- A request for a run in the directory `p`, -/
def named : Message := ⟨"POST", "/", some "\x7b\"requirements\":\"x\",\"project\":\"p\"\x7d"⟩

/-- and one that asks for no name. -/
def unnamed : Message := ⟨"POST", "/", some "\x7b\"requirements\":\"x\"\x7d"⟩

theorem readOrder_named : readOrder named.body = .ok ⟨"x", some "p", none⟩ := by
  have h : (readOrder named.body).toOption = some ⟨"x", some "p", none⟩ := by decide +kernel
  cases horder : readOrder named.body with
  | error e => rw [horder] at h; cases h
  | ok o => rw [horder] at h; exact congrArg Except.ok (Option.some.inj h)

theorem readOrder_unnamed : readOrder unnamed.body = .ok ⟨"x", none, none⟩ := by
  have h : (readOrder unnamed.body).toOption = some ⟨"x", none, none⟩ := by decide +kernel
  cases horder : readOrder unnamed.body with
  | error e => rw [horder] at h; cases h
  | ok o => rw [horder] at h; exact congrArg Except.ok (Option.some.inj h)

theorem route?_named : route? named.path = some .runs := by decide +kernel

/-- The files of a service that has no run yet, -/
def unused : Files := ⟨[(["runs"], .directory)]⟩

/-- and with the directory `p` of a run. -/
def used : Files := unused.put ["runs", "p"] .directory

theorem node?_ne_link {fs : Files} {p : Path} (hp : p ≠ []) (h : ∀ e ∈ fs.entries, e.2 = .directory)
    (t : String) : fs.node? p ≠ some (.link t) := by
  rw [node?_of_ne hp, Ne, List.lookup_eq_some_iff]
  rintro ⟨before, after, hentries, -⟩
  have hdirectory := h (p, .link t) (by rw [hentries]; simp)
  cases hdirectory

theorem folder_unused : Folder unused ["runs"] := by
  have hroot : Folder unused [] := ⟨by simp, plain_nil _, locate_nil _, rfl⟩
  exact hroot.child ⟨by decide, by decide, by decide⟩ rfl

theorem room_runs : Room ["runs"] "p" := ⟨by decide, by decide, by decide⟩

theorem folder_used : Folder used ["runs", "p"] :=
  (folder_unused.put .directory).child room_runs (node?_put_self (by simp) .directory)

/-- The run that a request for the directory `p` starts. -/
def inP (config : RunConfig) (id : String) : RunRecord :=
  ⟨id, "x", config, ⟨["runs", "p"], .standard⟩, .empty, none⟩

theorem handle_named {fs fs' : Files} (id : String)
    (h : establish .standard fs s.directory "p" = (.ok ⟨["runs", "p"], .standard⟩, fs')) :
    s.handle id named fs = (.ofJson 202 (.object (inP s.config id).summary),
      { s with records := s.records ++ [inP s.config id] }, fs') := by
  have hname : isProjectName "p" = true := by decide
  have hcreate := create_eq_of_establish id ⟨"x", some "p", none⟩ (by decide) hname h
  unfold handle
  rw [route?_named, readOrder_named]
  exact hcreate

/-- Two requests for the directory `p`, one after the other: both are accepted, and both runs have it. -/
theorem root_shared :
    let first := (new .standard ["runs"]).handle "a" named unused
    let second := first.2.1.handle "b" named first.2.2
    first.1.status = 202 ∧ second.1.status = 202 ∧
      second.2.1.records.map (fun r => (r.id, Path.text r.workspace.root)) =
        [("a", "/runs/p"), ("b", "/runs/p")] := by
  intro first second
  have hfirst : first = (_, _, used) := handle_named "a"
    (establish_of_none folder_unused room_runs (by decide) rfl .standard)
  have hsecond : second = (.ofJson 202 (.object (inP first.2.1.config "b").summary),
      { first.2.1 with records := first.2.1.records ++ [inP first.2.1.config "b"] }, used) := by
    refine handle_named "b" ?_
    rw [hfirst]
    exact establish_of_folder folder_used room_runs (by decide) .standard
  rw [hsecond, hfirst]
  exact ⟨rfl, rfl, by decide⟩

/-- A request for the directory `p` and one that asks for no name: their runs have directories of their
own. -/
theorem roots_of_runs_unnamed :
    let turns : List Turn := [.arrive "a" named unused, .arrive "b" unnamed used]
    (ids turns).Nodup ∧ (∀ id m fs, .arrive id m fs ∈ turns → Stands ["runs"] ["runs"] fs) ∧
      ∀ r ∈ ((new .standard ["runs"]).takeAll turns).records, r.id = "a" →
        ∀ r' ∈ ((new .standard ["runs"]).takeAll turns).records, r'.id = "b" →
          r.workspace.root ≠ r'.workspace.root ∧ Apart r.workspace r'.workspace := by
  intro turns
  have hids : (ids turns).Nodup := by decide
  have hstands : ∀ id m fs, .arrive id m fs ∈ turns → Stands ["runs"] ["runs"] fs := by
    intro id m fs hmem
    simp only [turns, List.mem_cons, List.not_mem_nil, or_false, Turn.arrive.injEq] at hmem
    rcases hmem with ⟨-, -, rfl⟩ | ⟨-, -, rfl⟩
    · exact ⟨folder_unused.located, fun _ => node?_ne_link (by simp) (by decide)⟩
    · exact ⟨(folder_unused.put .directory).located, fun _ => node?_ne_link (by simp) (by decide)⟩
  have ha : Asks turns "a" "p" :=
    ⟨named, unused, _, by simp [turns], rfl, route?_named, readOrder_named, rfl⟩
  have hb : Asks turns "b" "b" :=
    ⟨unnamed, used, _, by simp [turns], rfl, route?_named, readOrder_unnamed, rfl⟩
  refine ⟨hids, hstands, fun r hr hid r' hr' hid' => ?_⟩
  obtain ⟨-, -, happly⟩ := roots_of_runs .standard hids hstands
  obtain ⟨hroots, hapart⟩ := happly r hr r' hr' "p" "b" (hid ▸ ha) (hid' ▸ hb)
  exact ⟨fun he => absurd (hroots.1 he) (by decide), hapart (by decide)⟩

end Runs

end Service

end BuildLoop
