import BuildLoop.Proofs.Scaffold.Title

/-!
# Servers

The template of a server has places for lines: for the models, for the store and for what else is asked for.
With lines put in them that are blocks, the server is a block, whatever is put in and in whatever order:

    Layout f ps s, Part f new   →   Layout f (ps without p) (replace p new s)           (Layout.replace)

So every server is complete, and so is every module.
-/

namespace BuildLoop.Scaffold

open Text Completeness

/-! ## Places for lines -/

/-- The places for lines in the templates of servers. -/
def linePlaces : List (List Char) := ["__MODELS__".toList, "__STORAGE__".toList, "__EXTRA__".toList]

theorem of_linePlaces {p : List Char} (hp : p ∈ linePlaces) : p ≠ [] ∧ '\n' ∉ p := by
  have hall : linePlaces.all (fun p => !p.isEmpty && !p.contains '\n') = true := by decide
  simpa using List.all_eq_true.1 hall p hp

/-- No place lies in another. -/
theorem eq_of_linePlaces {p q : List Char} (hp : p ∈ linePlaces) (hq : q ∈ linePlaces) (h : p <:+: q) : p = q := by
  have hall : linePlaces.all (fun p => linePlaces.all fun q => !occurs p q || p == q) = true := by decide
  have hone := List.all_eq_true.1 (List.all_eq_true.1 hall p hp) q hq
  rw [occurs_iff.2 h] at hone
  simpa using hone

/-- A block without a place for lines. -/
structure Part (f : Family) (u : List Char) : Prop where
  block : Block f u
  free : ∀ p ∈ linePlaces, ¬ p <:+: u

/-- Whether some characters are a block without a place. -/
def IsPart (f : Family) (u : List Char) : Prop := IsBlock f u ∧ linePlaces.all (fun p => !occurs p u) = true

instance (f : Family) (u : List Char) : Decidable (IsPart f u) := inferInstanceAs (Decidable (_ ∧ _))

section
variable {f : Family} {p u v new : List Char}

theorem IsPart.part (h : IsPart f u) : Part f u := by
  refine ⟨h.1.block, fun p hp hmem => ?_⟩
  have hfree := List.all_eq_true.1 h.2 p hp
  rw [occurs_iff.2 hmem] at hfree
  cases hfree

theorem Part.nil : Part f [] := ⟨.nil, fun _ hp h => (of_linePlaces hp).1 (List.eq_nil_of_infix_nil h)⟩

theorem Part.append (hu : Part f u) (hv : Part f v) : Part f (u ++ v) := by
  refine ⟨hu.block.append hv.block, fun p hp hmem => ?_⟩
  obtain rfl | ⟨x, rfl⟩ := hu.block.lines
  · exact hv.free p hp hmem
  · rw [List.append_assoc] at hmem
    rcases (infix_append_cons (of_linePlaces hp).2).1 hmem with hmem | hmem
    · exact hu.free p hp (hmem.trans (List.prefix_append x _).isInfix)
    · exact hv.free p hp hmem

theorem Part.feed : Part f ['\n'] := ⟨.feed, by decide⟩

/-- Lines without a place are left as they are. -/
theorem Part.replace_append (h : Part f u) (hp : p ∈ linePlaces) (t : List Char) :
    replace p new (u ++ t) = u ++ replace p new t := by
  obtain rfl | ⟨x, rfl⟩ := h.block.lines
  · rfl
  · refine replace_append_of_free fun a b hab hb => ?_
    refine not_prefix_of_append (of_linePlaces hp).2 (fun hmem => h.free p hp ?_) hab hb
    exact hmem.trans (List.prefix_append x _).isInfix

end

/-- Parts with places between them, each on a line of its own. -/
inductive Layout (f : Family) : List (List Char) → List Char → Prop
  | last {u : List Char} : Part f u → Layout f [] u
  | place {u p v : List Char} {ps : List (List Char)} : Part f u → p ∈ linePlaces → Layout f ps v →
      Layout f (p :: ps) (u ++ (p ++ '\n' :: v))

/-- Whether some characters are parts with places between them. -/
def isLayout (f : Family) : List (List Char) → List Char → Bool
  | [], s => decide (IsPart f s)
  | p :: ps, s =>
    match cutAt p s with
    | some (u, '\n' :: v) => decide (IsPart f u) && linePlaces.contains p && isLayout f ps v
    | _ => false

section
variable {f : Family} {p new u s : List Char} {ps : List (List Char)}

theorem layout_of_isLayout (h : isLayout f ps s = true) : Layout f ps s := by
  fun_induction isLayout f ps s with
  | case1 s => exact .last (of_decide_eq_true h).part
  | case2 p ps s u v hcut ih =>
    simp only [Bool.and_eq_true, decide_eq_true_eq, List.contains_iff_mem] at h
    rw [eq_of_cutAt hcut, List.append_assoc]
    exact .place h.1.1.part h.1.2 (ih h.2)
  | case3 => cases h

theorem Layout.block (h : Layout f [] s) : Block f s := by
  cases h with
  | last h => exact h.block

theorem Layout.prepend (hu : Part f u) (h : Layout f ps s) : Layout f ps (u ++ s) := by
  cases h with
  | last h => exact .last (hu.append h)
  | place h hp hs =>
    rw [← List.append_assoc]
    exact .place (hu.append h) hp hs

/-- With lines put in the places of one kind, those of the other kinds are left. -/
theorem Layout.replace (h : Layout f ps s) (hp : p ∈ linePlaces) (hnew : Part f new) :
    Layout f (ps.filter (· ≠ p)) (Text.replace p new s) := by
  obtain ⟨hne, hfeed⟩ := of_linePlaces hp
  induction h with
  | last hu =>
    rw [replace_eq_self (hu.free p hp)]
    exact .last hu
  | @place u q v ps hu hq _ ih =>
    have hline : Text.replace p new ('\n' :: v) = '\n' :: Text.replace p new v :=
      replace_cons_of_not fun h => by
        obtain ⟨c, w, rfl⟩ := List.exists_cons_of_ne_nil hne
        obtain ⟨rfl, -⟩ := List.cons_prefix_cons.1 h
        exact hfeed List.mem_cons_self
    rw [hu.replace_append hp]
    by_cases heq : q = p
    · subst heq
      rw [List.filter_cons_of_neg (by simp), replace_needle hne, hline]
      exact (ih.prepend .feed).prepend hnew |>.prepend hu
    · rw [List.filter_cons_of_pos (by simpa using heq), replace_append_of_free, hline]
      · exact .place hu hq ih
      · intro a b hab hb hprefix
        refine heq (eq_of_linePlaces hp hq ?_).symm
        rw [hab]
        exact (prefix_append_cons hfeed hprefix).isInfix.trans (List.suffix_append a b).isInfix

end

/-! ## Fixed texts -/

/-- The fixed texts of Python servers and their modules. -/
def pythonParts : List String :=
  [Template.fastApiModels, Template.plainModels, Template.pythonDatabase, Template.pythonStore, Template.inlineModels,
    Template.fastApiAccounts, Template.fastApiUpload, Template.flaskAccounts, Template.flaskUpload]

/-- The fixed texts of Node servers and their modules. -/
def nodeParts : List String :=
  [Template.nodeModels, Template.nodeDatabase, Template.nodeStore, Template.expressAccounts, Template.expressUpload]

set_option maxRecDepth 20000 in
theorem part_python : ∀ t ∈ pythonParts, Part .python t.toList := by
  unfold pythonParts
  simp only [List.forall_mem_cons, List.not_mem_nil, false_imp_iff, implies_true, and_true]
  refine ⟨?_, ?_, ?_, ?_, ?_, ?_, ?_, ?_, ?_⟩
  all_goals
    refine IsPart.part ?_
    apply Spells.of_unlines
    case h => repeat' first | exact Spells.nil | apply Spells.cons rfl
    decide +kernel

set_option maxRecDepth 20000 in
theorem part_node : ∀ t ∈ nodeParts, Part .script t.toList := by
  unfold nodeParts
  simp only [List.forall_mem_cons, List.not_mem_nil, false_imp_iff, implies_true, and_true]
  refine ⟨?_, ?_, ?_, ?_, ?_⟩
  all_goals
    refine IsPart.part ?_
    apply Spells.of_unlines
    case h => repeat' first | exact Spells.nil | apply Spells.cons rfl
    decide +kernel

theorem part_imports : Part .python "from database import add_item, list_items\n".toList ∧
    Part .python "from models import Credentials, ItemCreate\n".toList ∧
    Part .script "const \x7b listItems, addItem \x7d = require('./database');\n".toList :=
  ⟨IsPart.part (by decide +kernel), IsPart.part (by decide +kernel), IsPart.part (by decide +kernel)⟩

/-- The places in the templates of servers, in order. -/
def fastApiPlaces : List (List Char) := ["__MODELS__".toList, "__STORAGE__".toList, "__EXTRA__".toList]
def plainPlaces : List (List Char) := ["__STORAGE__".toList, "__EXTRA__".toList]

set_option maxRecDepth 20000 in
theorem layout_servers : Layout .python fastApiPlaces Template.fastApiServer.toList ∧
    Layout .python plainPlaces Template.flaskServer.toList ∧ Layout .script plainPlaces Template.expressServer.toList := by
  dsimp only [Template.fastApiServer, Template.flaskServer, Template.expressServer]
  refine ⟨?_, ?_, ?_⟩
  all_goals
    apply layout_of_isLayout
    apply Spells.of_unlines (P := fun s => isLayout _ _ s = true)
    case h => repeat' first | exact Spells.nil | apply Spells.cons rfl
    decide +kernel

/-! ## Servers -/

section
variable {f : Family} {ps : List (List Char)} {template place new title path : String} {c : Context}

theorem Layout.fill (h : Layout f ps template.toList) (hplace : place.toList ∈ linePlaces) (hnew : Part f new.toList) :
    Layout f (ps.filter (· ≠ place.toList)) (replaced template place new).toList := by
  rw [replaced, String.toList_ofList]
  exact h.replace hplace hnew

theorem part_parts {texts : List (Bool × String)} (h : ∀ t ∈ texts, Part f t.2.toList) :
    Part f (parts texts).toList := by
  unfold parts
  induction texts with
  | nil => exact .nil
  | cons t texts ih =>
    obtain ⟨ht, htexts⟩ := List.forall_mem_cons.1 h
    cases hb : t.1 with
    | false =>
      rw [List.filter_cons_of_neg (by simp [hb])]
      exact ih htexts
    | true =>
      rw [List.filter_cons_of_pos (by exact hb), List.map_cons, String.join_cons, String.toList_append]
      exact ht.append (ih htexts)

theorem models_mem_linePlaces : "__MODELS__".toList ∈ linePlaces := by decide

theorem storage_mem_linePlaces : "__STORAGE__".toList ∈ linePlaces := by decide

theorem extra_mem_linePlaces : "__EXTRA__".toList ∈ linePlaces := by decide

/-- What a server has beside its store: each part is there or not. -/
theorem part_extra {t u : String} (ht : Part f t.toList) (hu : Part f u.toList) (b b' : Bool) :
    Part f (parts [(b, t), (b', u)]).toList :=
  part_parts (by simpa using ⟨ht, hu⟩)

variable (htitle : Titled title)
include htitle

theorem complete_pythonServer (hext : IsSource .python (extension (lowercase path))) :
    checkComplete path (pythonServer c title) = .ok () := by
  have hstorage : Part .python (if c.siblings.contains "database.py" then
      "from database import add_item, list_items\n" else Template.pythonStore).toList := by
    split
    · exact part_imports.1
    · exact part_python _ (by simp [pythonParts])
  have hmodels : Part .python (if c.siblings.contains "models.py" then
      "from models import Credentials, ItemCreate\n" else Template.inlineModels).toList := by
    split
    · exact part_imports.2.1
    · exact part_python _ (by simp [pythonParts])
  have hflask := part_extra (part_python Template.flaskAccounts (by simp [pythonParts]))
    (part_python Template.flaskUpload (by simp [pythonParts])) (c.mentions "/api/register") (c.mentions "/api/upload")
  have hfastApi := part_extra (part_python Template.fastApiAccounts (by simp [pythonParts]))
    (part_python Template.fastApiUpload (by simp [pythonParts])) (c.mentions "/api/register") (c.mentions "/api/upload")
  unfold pythonServer
  simp only
  split
  · have hfilled := (layout_servers.2.1.fill storage_mem_linePlaces hstorage).fill extra_mem_linePlaces hflask
    exact complete_titled (Layout.block hfilled) htitle hext
  · have hfilled := ((layout_servers.1.fill models_mem_linePlaces hmodels).fill storage_mem_linePlaces
      hstorage).fill extra_mem_linePlaces hfastApi
    exact complete_titled (Layout.block hfilled) htitle hext

theorem complete_nodeServer (hext : IsSource .script (extension (lowercase path))) :
    checkComplete path (nodeServer c title) = .ok () := by
  have hstorage : Part .script (if c.siblings.contains "database.js" then
      "const \x7b listItems, addItem \x7d = require('./database');\n" else Template.nodeStore).toList := by
    split
    · exact part_imports.2.2
    · exact part_node _ (by simp [nodeParts])
  have hextra := part_extra (part_node Template.expressAccounts (by simp [nodeParts]))
    (part_node Template.expressUpload (by simp [nodeParts])) (c.mentions "/api/register") (c.mentions "/api/upload")
  have hfilled := (layout_servers.2.2.fill storage_mem_linePlaces hstorage).fill extra_mem_linePlaces hextra
  exact complete_titled (Layout.block hfilled) htitle hext

end

/-! ## Modules -/

/-- What a file is called without its extension: a word without blanks, or nothing. -/
def IsStem (stem : String) : Prop := ∀ c ∈ stem.toList, isQuiet c = true ∧ c ≠ ' '

section
variable {title stem path content : String} {head rest : List Char} {c : Char}

/-- A module names itself in a sentence. Before it no full stop can stand but in the file's name, which no
blank follows that starts a marker. -/
theorem unmarked_module
    (hcontent : content.toList = head ++ (stem.toList ++ ' ' :: (['m', 'o', 'd', 'u', 'l', 'e', '.'] ++ c :: rest)))
    (hhead : '.' ∉ head ∧ '[' ∉ head) (hstem : IsStem stem) (hc : c ∉ ['.', ' ', '[', 'r', 'e', '-'])
    (hrest : (∀ x, ¬ ['.', ' ', x] <:+: rest) ∧ '[' ∉ rest) : markers.find? (contains content ·) = none := by
  have hblank : ' ' ∉ stem.toList := fun hmem => (hstem _ hmem).2 rfl
  have hbracket : '[' ∉ stem.toList := fun hmem => ne_of_isQuiet (hstem _ hmem).1 rfl rfl
  refine find?_markers_eq_none (fun x hx hmem => ?_) (not_infix_of_mem List.mem_cons_self ?_)
  · rw [hcontent] at hmem
    have hnot : c ∉ ['.', ' ', x] := by
      rintro hcx
      simp only [List.mem_cons, List.not_mem_nil, or_false] at hcx hx hc
      rcases hcx with rfl | rfl | rfl
      · simp at hc
      · simp at hc
      · rcases hx with rfl | rfl | rfl <;> simp at hc
    rcases infix_cut (u := ['.']) (by decide) hblank (infix_of_append_left hhead.1 hmem) with ⟨-, hnext⟩ | hmem
    · obtain ⟨rfl, -⟩ := List.cons_prefix_cons.1 hnext
      simp at hx
    · rcases (infix_append_cons hnot).1 hmem with hmem | hmem
      · have := hmem.subset (List.mem_cons_of_mem _ List.mem_cons_self)
        simp at this
      · exact hrest.1 x hmem
  · have hbracket' : '[' ≠ c := by
      rintro rfl
      simp at hc
    rw [hcontent]
    simp [hhead.2, hbracket, hbracket', hrest.2]

variable (htitle : Titled title) (hstem : IsStem stem)
include htitle hstem

/-- What names a module is a word. -/
theorem isWord_moduleName : IsWord (title.toList ++ ' ' :: (stem.toList ++ " module.".toList)) := by
  refine ⟨by simp [htitle.nonempty], fun c hc => ?_⟩
  rcases List.mem_append.1 hc with hc | hc
  · exact isQuiet_of_isTitled (htitle.chars c hc)
  · rcases List.mem_cons.1 hc with rfl | hc
    · rfl
    · rcases List.mem_append.1 hc with hc | hc
      · exact (hstem c hc).1
      · exact List.all_eq_true.1 (by decide : " module.".toList.all isQuiet = true) c hc

theorem complete_pythonModule (hext : IsSource .python (extension (lowercase path))) :
    checkComplete path (pythonModule stem title) = .ok () := by
  generalize hcontent : pythonModule stem title = content
  let start : List Char := "\"\"\"".toList
  let body : List Char := "\"\"\"\n\n\ndef main():\n    print(\"".toList
  let last : List Char := "\")\n\n\nif __name__ == \"__main__\":\n    main()\n".toList
  have htext : content.toList =
      start ++ ((title.toList ++ ' ' :: (stem.toList ++ " module.".toList)) ++ (body ++ (title.toList ++ last))) := by
    have hsplit : " module.\"\"\"\n\n\ndef main():\n    print(\"".toList = " module.".toList ++ body := rfl
    rw [← hcontent, pythonModule]
    simp only [String.toList_append, hsplit, List.append_assoc]
    simp [start, last]
  have hx : IsWord ['x'] := ⟨by decide, List.all_iff_forall_prop.1 (by decide)⟩
  have halike : Alike false _ (start ++ (['x'] ++ (body ++ (['x'] ++ last)))) :=
    .append_left start (.words (isWord_moduleName htitle hstem) hx
      (.append_left body (.words htitle.isWord hx (.refl last))))
  have hfree : ∀ {u v : List Char} {c : Char}, c ∉ u → c ∉ v → isTitled c = false → c ∉ u ++ (title.toList ++ v) := by
    intro u v c hu hv hc
    rw [List.mem_append, List.mem_append, not_or, not_or]
    exact ⟨hu, htitle.notMem hc, hv⟩
  have hsplit : content.toList = (start ++ (title.toList ++ [' '])) ++ (stem.toList ++ ' ' ::
      (['m', 'o', 'd', 'u', 'l', 'e', '.'] ++ '"' :: (body.tail ++ (title.toList ++ last)))) := by
    rw [htext]
    simp
    rfl
  have hmarker := unmarked_module hsplit ⟨hfree (by decide) (by decide) rfl, hfree (by decide) (by decide) rfl⟩ hstem
    (by decide) ⟨fun x => not_infix_of_mem List.mem_cons_self (hfree (by decide) (by decide) rfl),
      hfree (by decide) (by decide) rfl⟩
  refine complete_source hext hmarker ?_
  rw [checkBrackets, htext, checkFrom_alike halike]
  exact eq_ok_of_isOk (by decide +kernel)

theorem complete_nodeModule (hext : IsSource .script (extension (lowercase path))) :
    checkComplete path ("'use strict';\n\n// " ++ title ++ " " ++ stem ++
      " module.\n\nmodule.exports = \x7b\x7d;\n") = .ok () := by
  generalize hcontent : "'use strict';\n\n// " ++ title ++ " " ++ stem ++
    " module.\n\nmodule.exports = \x7b\x7d;\n" = content
  let start : List Char := "'use strict';\n\n// ".toList
  let last : List Char := "\n\nmodule.exports = \x7b\x7d;\n".toList
  have htext : content.toList = start ++ ((title.toList ++ ' ' :: (stem.toList ++ " module.".toList)) ++ last) := by
    have hsplit : " module.\n\nmodule.exports = \x7b\x7d;\n".toList = " module.".toList ++ last := rfl
    rw [← hcontent]
    simp only [String.toList_append, hsplit, List.append_assoc]
    simp [start]
  have hx : IsWord ['x'] := ⟨by decide, List.all_iff_forall_prop.1 (by decide)⟩
  have halike : Alike false _ (start ++ (['x'] ++ last)) :=
    .append_left start (.words (isWord_moduleName htitle hstem) hx (.refl last))
  have hfree : ∀ {c : Char}, c ∉ start → isTitled c = false → c ∉ [' '] → c ∉ start ++ (title.toList ++ [' ']) := by
    intro c hstart hc hblank
    rw [List.mem_append, List.mem_append, not_or, not_or]
    exact ⟨hstart, htitle.notMem hc, hblank⟩
  have hsplit : content.toList = (start ++ (title.toList ++ [' '])) ++ (stem.toList ++ ' ' ::
      (['m', 'o', 'd', 'u', 'l', 'e', '.'] ++ '\n' :: last.tail)) := by
    rw [htext]
    simp
    rfl
  have hmarker := unmarked_module hsplit ⟨hfree (by decide) rfl (by decide), hfree (by decide) rfl (by decide)⟩ hstem
    (by decide) ⟨fun x hmem => absurd (List.IsInfix.trans ⟨[], [x], rfl⟩ hmem : ['.', ' '] <:+: last.tail) (by decide),
      by decide⟩
  refine complete_source hext hmarker ?_
  rw [checkBrackets, htext, checkFrom_alike halike]
  exact eq_ok_of_isOk (by decide +kernel)

end

/-! ## Files of the backend -/

/-- The databases that no template is for. -/
def foreignDatabases : List String := ["PostgreSQL", "MongoDB", "MySQL"]

/-- Whether what a template gives for a file is complete, if it is not refused for its database. -/
def Answers (c : Context) (answer : Except String String) : Prop :=
  (∃ db ∈ foreignDatabases, c.mentions db = true ∧ answer = .error (noStorage c db)) ∨
    ∃ body, answer = .ok body ∧ checkComplete c.path body = .ok ()

theorem Answers.ok {c : Context} {body : String} (h : checkComplete c.path body = .ok ()) : Answers c (.ok body) :=
  .inr ⟨body, rfl, h⟩

theorem Answers.refused {c : Context} {db : String} (h : c.foreignDatabase? = some db) :
    Answers c (.error (noStorage c db)) :=
  .inl ⟨db, List.mem_of_find?_eq_some h, List.find?_some h, rfl⟩

section
variable {c : Context} {stem title : String} (htitle : Titled title) (hstem : IsStem stem)

include htitle hstem

theorem answers_python (hext : extension (lowercase c.path) = "py") : Answers c (python c stem title) := by
  have hsource : IsSource .python (extension (lowercase c.path)) := hext ▸ isSource_python
  have hpart : ∀ t ∈ pythonParts, checkComplete c.path (replaced t "__TITLE__" title) = .ok () := fun t ht =>
    complete_titled (part_python t ht).block htitle hsource
  unfold python
  split
  · split
    · next hdb => exact .refused hdb
    · exact .ok (hpart _ (by simp [pythonParts]))
  split
  · split
    · exact .ok (hpart _ (by simp [pythonParts]))
    · exact .ok (hpart _ (by simp [pythonParts]))
  split
  · exact .ok (complete_pythonServer htitle hsource)
  · exact .ok (complete_pythonModule htitle hstem hsource)

theorem answers_node (hext : extension (lowercase c.path) = "js") : Answers c (node c stem title) := by
  have hsource : IsSource .script (extension (lowercase c.path)) := hext ▸ isSource_script
  have hpart : ∀ t ∈ nodeParts, checkComplete c.path (replaced t "__TITLE__" title) = .ok () := fun t ht =>
    complete_titled (part_node t ht).block htitle hsource
  unfold node
  split
  · split
    · next hdb => exact .refused hdb
    · exact .ok (hpart _ (by simp [nodeParts]))
  split
  · exact .ok (hpart _ (by simp [nodeParts]))
  split
  · exact .ok (complete_nodeServer htitle hsource)
  · exact .ok (complete_nodeModule htitle hstem hsource)

end

end BuildLoop.Scaffold
