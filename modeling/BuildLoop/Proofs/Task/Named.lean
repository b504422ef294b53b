import BuildLoop.Proofs.Task.Mentions
import BuildLoop.Proofs.Text.LetterCase
import BuildLoop.Proofs.Text.Occurs

/-!
# Names of files

A path that a text can name has directories of name characters and then the name of an environment file,
or characters of a name, a full stop and a known extension. Wherever such a path stands between a blank
and the end of a sentence or a word, it is found again, as a whole: a directory is passed wherever one can
be, and of the places where the name could end, the last one is tried first.

    f ∈ mentioned text   →   f is a path that a text can name                  (namedPath_of_mentioned)
    f is such a path, words name no file, f ends where t comes
      →   f is the first file of words ++ " " ++ f ++ t                              (mentionedIn_path)

A bare name is such a path without a directory that is no environment file.
-/

namespace BuildLoop

open Text Pattern

/-! ## Bare names -/

/-- The extensions that a text can name, but those with a letter that may be left out. -/
def fixedExtensions : List String :=
  ["py", "js", "jsx", "ts", "tsx", "html", "htm", "css", "scss", "json", "md", "txt", "vue",
    "svelte", "toml", "cfg", "ini"]

/-- The extensions that a text can name. -/
def extensionTexts : List String := fixedExtensions ++ ["yml", "yaml"]

/-- A character of a name without directories. -/
def isBareChar (c : Char) : Bool := isNameChar c || c == '.'

theorem ascii_of_isBareChar {c : Char} (h : isBareChar c = true) : c.toNat < 128 := by
  simp only [isBareChar, isNameChar, Bool.or_eq_true, beq_iff_eq] at h
  rcases h with ((h | rfl) | rfl) | rfl
  · exact toNat_lt_of_isAlphanum h
  all_goals decide

theorem isBareChar_of_isNameChar {c : Char} (h : isNameChar c = true) : isBareChar c = true := by
  rw [isBareChar, h, Bool.true_or]

theorem isBlank_of_isBareChar {c : Char} (h : isBareChar c = true) : isBlank c = false :=
  of_codes (P := fun c => isBareChar c = true → isBlank c = false) (by decide) (ascii_of_isBareChar h) h

/-- The name of an environment file. -/
def IsEnvironmentName (f : List Char) : Prop :=
  ∃ x, f = ".env".toList ++ x ∧ (x = [] ∨ ∃ y, x = '.' :: y ∧ y ≠ [] ∧ y.all Char.isAlpha = true)

/-- The name of any other file. -/
def IsPlainName (f : List Char) : Prop :=
  ∃ c mid ext, f = c :: (mid ++ '.' :: ext) ∧ isNameChar c = true ∧ mid.all isBareChar = true ∧
    String.ofList ext ∈ extensionTexts

/-- The directories that a path begins with. -/
inductive Directories : List Char → Prop
  | nil : Directories []
  | cons {d s : List Char} : d ≠ [] → d.all isNameChar = true → Directories s → Directories (d ++ '/' :: s)

/-- The path of a file as a text can name it. -/
structure NamedPath (f : List Char) : Prop where
  shape : ∃ ds n, f = ds ++ n ∧ Directories ds ∧ (IsEnvironmentName n ∨ IsPlainName n)
  /-- It is not the name of a library. -/
  foreign : String.ofList (lower f) ∉ libraryNames

/-- The name of a file as a text can name it, without a directory. -/
structure BareName (f : List Char) : Prop where
  shape : IsPlainName f
  /-- It is not the name of a library. -/
  foreign : String.ofList (lower f) ∉ libraryNames

theorem of_extension {ext : List Char} (h : String.ofList ext ∈ extensionTexts) :
    ext ≠ [] ∧ ∀ c ∈ ext, isNameChar c = true ∧ c ≠ '.' := by
  have hall : extensionTexts.all (fun e => !e.toList.isEmpty && e.toList.all fun c => isNameChar c && c != '.') =
      true := by decide
  simpa using List.all_eq_true.1 hall _ h

theorem IsPlainName.chars {f : List Char} (h : IsPlainName f) : ∀ c ∈ f, isBareChar c = true := by
  obtain ⟨c, mid, ext, rfl, hc, hmid, hext⟩ := h
  intro d hd
  simp only [List.mem_cons, List.mem_append] at hd
  rcases hd with rfl | hd | rfl | hd
  · simp [isBareChar, hc]
  · exact List.all_eq_true.1 hmid d hd
  · rfl
  · simp [isBareChar, ((of_extension hext).2 d hd).1]

theorem IsEnvironmentName.chars {f : List Char} (h : IsEnvironmentName f) : ∀ c ∈ f, isBareChar c = true := by
  obtain ⟨x, rfl, hx⟩ := h
  intro c hc
  rcases List.mem_append.1 hc with hc | hc
  · exact List.all_eq_true.1 (by decide : ".env".toList.all isBareChar = true) c hc
  · obtain rfl | ⟨y, rfl, -, hy⟩ := hx
    · cases hc
    · rcases List.mem_cons.1 hc with rfl | hc
      · rfl
      · simp [isBareChar, isNameChar, Char.isAlphanum, List.all_eq_true.1 hy c hc]

/-- The last component of a path has a full stop and no slash. -/
theorem chars_of_name {f : List Char} (h : IsEnvironmentName f ∨ IsPlainName f) : '/' ∉ f ∧ '.' ∈ f := by
  have hchars := h.elim IsEnvironmentName.chars IsPlainName.chars
  constructor
  · intro hmem
    cases hchars '/' hmem
  · obtain ⟨x, rfl, -⟩ | ⟨c, mid, ext, rfl, -⟩ := h
    · simp
    · simp

theorem isWordChar_of_extension {ext : List Char} (h : String.ofList ext ∈ extensionTexts) :
    ∀ c ∈ ext, isWordChar c = true := by
  have hall : extensionTexts.all (fun e => e.toList.all isWordChar) = true := by decide
  simpa using List.all_eq_true.1 hall _ h

theorem takes_extension {prev : Option Char} {s t : List Char} :
    (any fileExtensions).Takes prev s t ↔ String.ofList s ∈ extensionTexts := by
  have hlit : ∀ {w : String} {s : List Char} {prev t}, (lit w).Takes prev s t ↔ String.ofList s = w := by
    intro w s prev t
    rw [takes_lit]
    exact ⟨fun h => by rw [h, String.ofList_toList], fun h => by rw [← h, String.toList_ofList]⟩
  have hyaml : (all [lit "y", optional (lit "a"), lit "ml"]).Takes prev s t ↔
      String.ofList s = "yml" ∨ String.ofList s = "yaml" := by
    constructor
    · rintro ⟨u, v, rfl, hu, x, y, rfl, hx | rfl, hy⟩
      · obtain rfl := takes_lit.1 hu
        obtain rfl := takes_lit.1 hx
        obtain rfl := takes_lit.1 hy
        exact .inr rfl
      · obtain rfl := takes_lit.1 hu
        obtain rfl := takes_lit.1 hy
        exact .inl rfl
    · rintro (h | h)
      · obtain rfl : s = ['y', 'm', 'l'] := by rw [← String.toList_ofList (l := s), h]; rfl
        exact ⟨['y'], _, rfl, takes_lit.2 rfl, [], _, rfl, .inr rfl, takes_lit.2 rfl⟩
      · obtain rfl : s = ['y', 'a', 'm', 'l'] := by rw [← String.toList_ofList (l := s), h]; rfl
        exact ⟨['y'], _, rfl, takes_lit.2 rfl, ['a'], _, rfl, .inl (takes_lit.2 rfl), takes_lit.2 rfl⟩
  have hsplit : fileExtensions = fixedExtensions.map lit ++ [all [lit "y", optional (lit "a"), lit "ml"]] := rfl
  rw [takes_any, hsplit, extensionTexts, List.mem_append]
  constructor
  · rintro ⟨p, hp, htakes⟩
    rcases List.mem_append.1 hp with hp | hp
    · obtain ⟨w, hw, rfl⟩ := List.mem_map.1 hp
      exact .inl (hlit.1 htakes ▸ hw)
    · obtain rfl := List.mem_singleton.1 hp
      exact .inr (by simpa using hyaml.1 htakes)
  · rintro (h | h)
    · exact ⟨lit (String.ofList s), List.mem_append_left _ (List.mem_map_of_mem h), hlit.2 rfl⟩
    · exact ⟨_, List.mem_append_right _ List.mem_cons_self, hyaml.2 (by simpa using h)⟩

/-- The directories of a path. -/
def directories : Pattern := again (seq (atLeastOne isNameChar) (lit "/"))

theorem directories_of_turned {n : Nat} {prev : Option Char} {s t : List Char}
    (h : Turned (seq (atLeastOne isNameChar) (lit "/")).Takes n prev s t) : Directories s := by
  induction n generalizing prev s with
  | zero =>
    obtain rfl : s = [] := h
    exact .nil
  | succ n ih =>
    rcases h with rfl | ⟨u, v, rfl, ⟨x, y, rfl, hx, hy⟩, hv⟩
    · exact .nil
    · obtain rfl := takes_lit.1 hy
      obtain ⟨hne, hall⟩ := takes_atLeastOne.1 hx
      rw [List.append_assoc]
      exact .cons hne hall (ih hv)

/-- An environment file, without a directory. -/
def environmentFile : Pattern :=
  seq (lit ".env") (optional (seq (lit ".") (atLeastOne Char.isAlpha)))

/-- The last component of a path that is no environment file. -/
def plainFile : Pattern :=
  all [one isNameChar, many (fun c => isNameChar c || c == '.'), lit ".", any fileExtensions]

theorem filePattern_eq : filePattern = seq directories (seq (alt environmentFile plainFile) wordEdge) := rfl

theorem takes_environmentFile {prev : Option Char} {s t : List Char} :
    environmentFile.Takes prev s t ↔ IsEnvironmentName s := by
  constructor
  · rintro ⟨x, y, rfl, hx, hy⟩
    obtain rfl := takes_lit.1 hx
    refine ⟨y, rfl, ?_⟩
    rcases hy with ⟨z, y, rfl, hz, hy⟩ | rfl
    · obtain rfl := takes_lit.1 hz
      exact .inr ⟨y, rfl, takes_atLeastOne.1 hy⟩
    · exact .inl rfl
  · rintro ⟨x, rfl, hx⟩
    refine ⟨_, x, rfl, takes_lit.2 rfl, ?_⟩
    rcases hx with rfl | ⟨y, rfl, hy⟩
    · exact .inr rfl
    · exact .inl ⟨['.'], y, rfl, takes_lit.2 rfl, takes_atLeastOne.2 hy⟩

theorem takes_plainFile {prev : Option Char} {s t : List Char} : plainFile.Takes prev s t ↔ IsPlainName s := by
  constructor
  · rintro ⟨u, v, rfl, ⟨c, rfl, hc⟩, mid, w, rfl, hmid, x, ext, rfl, hx, hext⟩
    obtain rfl := takes_lit.1 hx
    exact ⟨c, mid, ext, rfl, hc, hmid, takes_extension.1 hext⟩
  · rintro ⟨c, mid, ext, rfl, hc, hmid, hext⟩
    exact ⟨[c], _, rfl, ⟨c, rfl, hc⟩, mid, _, rfl, hmid, ['.'], ext, rfl, takes_lit.2 rfl, takes_extension.2 hext⟩

/-- The files of a text stand in it one after another. -/
theorem strewn_mentioned (text : String) : Strewn ((mentioned text).map String.toList) text.toList := by
  have hsublist : (mentioned text).Sublist (candidates text) := by
    rw [mentioned_eq_foldl]
    exact sublist_foldl_addPath [] _
  have hcandidates : (candidates text).map String.toList =
      ((findAll filePattern text.toList).filter fun m => namesFile m.prev m.text).map (·.text) := by
    rw [candidates, List.map_map]
    exact List.map_congr_left fun m _ => String.toList_ofList
  refine (strewn_findAll filePattern text.toList).sublist ((hsublist.map _).trans ?_)
  rw [hcandidates]
  exact List.filter_sublist.map _

theorem infix_of_mentioned {text f : String} (h : f ∈ mentioned text) : f.toList <:+: text.toList :=
  (strewn_mentioned text).infix_of_mem (List.mem_map_of_mem h)

/-- A name has a full stop before a character of a name. -/
theorem exists_stop_of_matchAt {prev : Option Char} {s : List Char} {m : Match}
    (h : matchAt filePattern ⟨prev, s⟩ = some m) : ∃ a c b, s = a ++ '.' :: c :: b ∧ isNameChar c = true := by
  obtain ⟨t, hs, htakes, -⟩ := takes_of_matchAt h
  rw [filePattern_eq] at htakes
  obtain ⟨u, v, htext, -, name, w, rfl, hname, rfl, -⟩ := htakes
  have hs : s = m.text ++ t := hs
  rw [hs, htext]
  rcases hname with ⟨x, y, rfl, hx, -⟩ | hplain
  · obtain rfl := takes_lit.1 hx
    exact ⟨u, 'e', "nv".toList ++ y ++ t, by simp, by decide⟩
  · obtain ⟨c, mid, ext, rfl, -, -, hext⟩ := takes_plainFile.1 hplain
    obtain ⟨hne, hall⟩ := of_extension hext
    obtain ⟨d, e, rfl⟩ := List.exists_cons_of_ne_nil hne
    exact ⟨u ++ c :: mid, d, e ++ t, by simp, (hall d List.mem_cons_self).1⟩

/-- Where no full stop comes before a character of a name, no file is named. -/
theorem findAllFrom_eq_nil {prev : Option Char} {s : List Char}
    (h : ∀ a c b, s = a ++ '.' :: c :: b → isNameChar c = false) : findAllFrom filePattern [] prev 0 s = [] := by
  rw [List.eq_nil_iff_forall_not_mem]
  intro m hm
  obtain ⟨a, b, prev, rfl, hmatch⟩ := (exists_of_mem_findAllFrom hm).resolve_left List.not_mem_nil
  obtain ⟨x, c, y, rfl, hc⟩ := exists_stop_of_matchAt hmatch
  rw [h (a ++ x) c y (by simp)] at hc
  cases hc

theorem Directories.slash_mem {s : List Char} (h : Directories s) : s = [] ∨ '/' ∈ s := by
  cases h with
  | nil => exact .inl rfl
  | cons => exact .inr (by simp)

theorem Directories.chars {s : List Char} (h : Directories s) : ∀ c ∈ s, isNameChar c = true ∨ c = '/' := by
  induction h with
  | nil => simp
  | cons _ hall _ ih =>
    rw [List.forall_mem_append, List.forall_mem_cons]
    exact ⟨fun c hc => .inl (List.all_eq_true.1 hall c hc), .inr rfl, ih⟩

/-- Before its last slash a path of directories has a character of a name. -/
theorem Directories.exists_last {s : List Char} (h : Directories s) :
    s = [] ∨ ∃ d c, s = (d ++ [c]) ++ ['/'] ∧ isNameChar c = true := by
  induction h with
  | nil => exact .inl rfl
  | @cons d s hne hall _ ih =>
    refine .inr ?_
    rcases ih with rfl | ⟨d', c, rfl, hc⟩
    · obtain ⟨d, c, rfl⟩ := (List.eq_nil_or_concat' d).resolve_left hne
      exact ⟨d, c, rfl, List.all_eq_true.1 hall c (by simp)⟩
    · exact ⟨d ++ '/' :: d', c, by simp, hc⟩

theorem NamedPath.chars {f : List Char} (h : NamedPath f) : ∀ c ∈ f, isBareChar c = true ∨ c = '/' := by
  obtain ⟨⟨ds, n, rfl, hds, hname⟩, -⟩ := h
  rw [List.forall_mem_append]
  exact ⟨fun c hc => (hds.chars c hc).imp_left isBareChar_of_isNameChar,
    fun c hc => .inl (hname.elim IsEnvironmentName.chars IsPlainName.chars c hc)⟩

theorem NamedPath.ne_nil {f : List Char} (h : NamedPath f) : f ≠ [] := by
  obtain ⟨⟨ds, n, rfl, -, hname⟩, -⟩ := h
  exact List.append_ne_nil_of_right_ne_nil ds (List.ne_nil_of_mem (chars_of_name hname).2)

/-- What a text names is a path that it can name. -/
theorem namedPath_of_mentioned {text f : String} (h : f ∈ mentioned text) : NamedPath f.toList := by
  obtain ⟨m, hfound, rfl⟩ := List.mem_map.1 (mem_mentioned.1 h)
  obtain ⟨hm, hnames⟩ := List.mem_filter.1 hfound
  obtain ⟨-, b, prev, -, hmatch⟩ := exists_of_mem_findAll hm
  obtain ⟨t, -, htakes, -⟩ := takes_of_matchAt hmatch
  rw [filePattern_eq] at htakes
  rw [String.toList_ofList]
  constructor
  case shape =>
    obtain ⟨ds, v, htext, hds, n, w, rfl, hname, rfl, -⟩ := htakes
    rw [List.append_nil] at htext
    exact ⟨ds, n, htext, directories_of_turned hds, hname.imp takes_environmentFile.1 takes_plainFile.1⟩
  case foreign =>
    simp only [namesFile, Bool.and_eq_true, Bool.not_eq_true'] at hnames
    simpa using hnames.2

/-- What a text names without a directory. -/
theorem bare_of_mentioned {text f : String} (h : f ∈ mentioned text) (hslash : '/' ∉ f.toList) :
    IsEnvironmentName f.toList ∨ BareName f.toList := by
  obtain ⟨⟨ds, n, hf, hds, hname⟩, hforeign⟩ := namedPath_of_mentioned h
  obtain rfl : ds = [] := hds.slash_mem.resolve_right fun hmem => hslash (by simp [hf, hmem])
  rw [List.nil_append] at hf
  rw [hf] at hforeign ⊢
  exact hname.imp id fun hplain => ⟨hplain, hforeign⟩

namespace BareName

variable {f : List Char} (h : BareName f)
include h

theorem chars : ∀ c ∈ f, isBareChar c = true := h.shape.chars

theorem exists_cons : ∃ c r, f = c :: r ∧ isNameChar c = true := by
  obtain ⟨⟨c, mid, ext, rfl, hc, -⟩, -⟩ := h
  exact ⟨c, _, rfl, hc⟩

theorem notMem {c : Char} (hc : isBareChar c = false) : c ∉ f := fun hmem => by
  rw [h.chars c hmem] at hc
  cases hc

theorem ascii : ∀ c ∈ f, c.toNat < 128 := fun c hc => ascii_of_isBareChar (h.chars c hc)

theorem named : NamedPath f := ⟨⟨[], f, rfl, .nil, .inr h.shape⟩, h.foreign⟩

end BareName

/-! ## Finding names again -/

namespace Text.Pattern

theorem places_acc (holds : Char → Bool) (acc : List Cursor) (prev : Option Char) (s : List Char) :
    places holds acc prev s = places holds [] prev s ++ acc := by
  induction s generalizing acc prev with
  | nil => rfl
  | cons c s ih =>
    rw [places, places]
    split
    · rw [ih, ih [_]]
      simp
    · rfl

/-- The places behind a text that can be taken come before those within it. -/
theorem places_append {holds : Char → Bool} {s : List Char} (hs : s.all holds = true) (prev : Option Char)
    (t : List Char) : ∃ l, places holds [] prev (s ++ t) = places holds [] (lastOf prev s) t ++ l ∧
      ∀ next ∈ l, ∃ c r, next.rest = c :: r ∧ holds c = true := by
  induction s generalizing prev with
  | nil => exact ⟨[], by simp, by simp⟩
  | cons c s ih =>
    obtain ⟨hc, hs⟩ := Bool.and_eq_true_iff.1 hs
    obtain ⟨l, hl, hwithin⟩ := ih hs (some c)
    refine ⟨l ++ [⟨prev, c :: (s ++ t)⟩], ?_, ?_⟩
    · rw [List.cons_append, places, if_pos hc, places_acc, hl, lastOf_cons, List.append_assoc]
    · intro next hnext
      rcases List.mem_append.1 hnext with hnext | hnext
      · exact hwithin next hnext
      · obtain rfl := List.mem_singleton.1 hnext
        exact ⟨c, s ++ t, rfl, hc⟩

variable {α : Type} {p q : Pattern} {here : Cursor} {gs : Groups} {k : Cursor → Groups → Option α}

theorem run_alt_of_none (h : run p here gs k = none) : run (alt p q) here gs k = run q here gs k := by
  rw [run]
  simp only [h]

end Text.Pattern

section
variable {c : Char} {n mid ext t : List Char} {prev : Option Char} {α : Type} {gs : Groups}

/-- Where a directory stands, it is taken as a whole. -/
theorem run_directory {d : List Char} (hd : d ≠ []) (hall : d.all isNameChar = true) (r : List Char)
    (k : Cursor → Groups → Option α) :
    run (seq (atLeastOne isNameChar) (lit "/")) ⟨prev, d ++ '/' :: r⟩ gs k = k ⟨some '/', r⟩ gs := by
  obtain ⟨c, d, rfl⟩ := List.exists_cons_of_ne_nil hd
  obtain ⟨hc, hd⟩ := Bool.and_eq_true_iff.1 hall
  obtain ⟨l, hl, hwithin⟩ := places_append hd (some c) ('/' :: r)
  have hstop : places isNameChar [] (lastOf (some c) d) ('/' :: r) = [⟨lastOf (some c) d, '/' :: r⟩] := by
    rw [places, if_neg (by decide)]
  have hslash : ∀ next : Cursor, (∃ c r, next.rest = c :: r ∧ isNameChar c = true) →
      run (lit "/") next gs k = none := by
    rintro ⟨prev, rest⟩ ⟨c, r, rfl, hc⟩
    refine if_neg ?_
    rw [beq_iff_eq]
    rintro rfl
    cases hc
  have hlater : l.findSome? (fun next => run (lit "/") next gs k) = none :=
    List.findSome?_eq_none_iff.2 fun next hnext => hslash next (hwithin next hnext)
  have hone : run (seq (atLeastOne isNameChar) (lit "/")) ⟨prev, c :: d ++ '/' :: r⟩ gs k =
      (places isNameChar [] (some c) (d ++ '/' :: r)).findSome? fun next => run (lit "/") next gs k := if_pos hc
  rw [hone, hl, hstop, List.findSome?_append, hlater, Option.or_none, List.findSome?_singleton]
  rfl

/-- Whether a path ends where a text comes after it: at a character that stands in no name and ends every
word, or at a full stop after which no name goes on. -/
def IsClosing (t : List Char) : Prop :=
  (∀ c ∈ t.head?, isBareChar c = false ∧ isWordChar c = false) ∨
    ∃ r, t = '.' :: r ∧ ∀ c ∈ r.head?, isBareChar c = false

theorem isClosing_blank (t : List Char) : IsClosing (' ' :: t) := by
  refine .inl fun c hc => ?_
  obtain rfl := Option.some.inj hc
  decide

theorem IsClosing.isWordChar_eq_false {t : List Char} (ht : IsClosing t) : ∀ c ∈ t.head?, isWordChar c = false := by
  rcases ht with ht | ⟨r, rfl, -⟩
  · exact fun c hc => (ht c hc).2
  · intro c hc
    obtain rfl := Option.some.inj hc
    decide

/-- Behind a path, no full stop that the name in it could reach is followed by a name. -/
theorem IsClosing.isBareChar_eq_false {t x y : List Char} {c : Char} (ht : IsClosing t)
    (h : t = x ++ '.' :: c :: y) (hx : x.all isBareChar = true) : isBareChar c = false := by
  have hhead : ∀ z : List Char, z.all isBareChar = true → ¬ ∀ d ∈ (z ++ '.' :: c :: y).head?, isBareChar d = false := by
    intro z hz hnot
    cases z with
    | nil => exact absurd (hnot '.' rfl) (by decide)
    | cons d z => exact absurd (hnot d rfl) (by simp [(Bool.and_eq_true_iff.1 hz).1])
  rcases ht with ht | ⟨r, hr, hnot⟩
  · exact absurd (fun d hd => (ht d (h ▸ hd)).1) (hhead x hx)
  · rw [h] at hr
    cases x with
    | nil =>
      obtain ⟨-, rfl⟩ := List.cons.inj hr
      exact hnot c rfl
    | cons d x =>
      obtain ⟨-, rfl⟩ := List.cons.inj hr
      exact absurd hnot (hhead x (Bool.and_eq_true_iff.1 hx).2)

/-- At a name without a directory there is none. -/
theorem run_directory_eq_none (hslash : '/' ∉ n) (hdot : '.' ∈ n) (k : Cursor → Groups → Option α) :
    run (seq (atLeastOne isNameChar) (lit "/")) ⟨prev, n ++ t⟩ gs k = none := by
  by_contra hsome
  obtain ⟨r, hr⟩ := Option.ne_none_iff_exists'.1 hsome
  obtain ⟨s, t', new, hrest, ⟨u, v, rfl, hu, hv⟩, -⟩ := exists_of_run hr
  obtain rfl := takes_lit.1 hv
  have hsplit : n ++ t = u ++ '/' :: t' := hrest.trans (by simp)
  obtain ⟨a, rfl, -⟩ := exists_of_notMem_left hsplit hslash
  have hname := List.all_eq_true.1 (takes_atLeastOne.1 hu).2 '.' (List.mem_append_left _ hdot)
  cases hname

/-- The directories of a path are passed, if what follows them is accepted. -/
theorem turns_directories {ds : List Char} (hds : Directories ds) (hslash : '/' ∉ n) (hdot : '.' ∈ n)
    {k : Cursor → Groups → Option α} (ahead : List Char) (hahead : ds.length ≤ ahead.length)
    (hk : (k ⟨lastOf prev ds, n ++ t⟩ gs).isSome = true) :
    turns (run (seq (atLeastOne isNameChar) (lit "/"))) ahead ⟨prev, ds ++ (n ++ t)⟩ gs k =
      k ⟨lastOf prev ds, n ++ t⟩ gs := by
  induction hds generalizing prev ahead with
  | nil =>
    rw [List.nil_append]
    cases ahead with
    | nil => rfl
    | cons a ahead =>
      rw [turns, run_directory_eq_none hslash hdot]
      rfl
  | @cons d ds hd hall _ ih =>
    have hlast : lastOf prev (d ++ '/' :: ds) = lastOf (some '/') ds := by
      rw [lastOf_append, lastOf_cons]
    rw [hlast] at hk ⊢
    obtain ⟨r, hr⟩ := Option.isSome_iff_exists.1 hk
    cases ahead with
    | nil =>
      rw [List.length_append, List.length_cons] at hahead
      cases hahead
    | cons a ahead =>
      have hlength : ds.length ≤ ahead.length := by
        rw [List.length_append, List.length_cons, List.length_cons] at hahead
        omega
      rw [List.append_assoc, List.cons_append, turns, run_directory hd hall, ih ahead hlength hk, hr]

/-- A word ends where no character of a word comes. -/
theorem atWordEdge_of_word {w : List Char} (hw : w ≠ []) (hall : ∀ c ∈ w, isWordChar c = true)
    (ht : ∀ c ∈ t.head?, isWordChar c = false) : atWordEdge ⟨lastOf prev w, t⟩ = true := by
  obtain ⟨w, c, rfl⟩ := (List.eq_nil_or_concat' w).resolve_left hw
  have hlast : lastOf prev (w ++ [c]) = some c := lastOf_append _ w [c]
  have hnext : t.head?.any isWordChar = false := by
    cases t with
    | nil => rfl
    | cons d t => exact ht d rfl
  rw [atWordEdge, hlast, Option.any_some, hall c (by simp), hnext]
  rfl

theorem isWordChar_of_isAlpha {c : Char} (h : c.isAlpha = true) : isWordChar c = true := by
  have hascii : c.toNat < 128 := toNat_lt_of_isAlphanum (by rw [Char.isAlphanum, h, Bool.true_or])
  exact of_codes (P := fun c => c.isAlpha = true → isWordChar c = true) (by decide) hascii h

variable (ht : IsClosing t)
include ht

/-- The name of an environment file is taken as a whole. -/
theorem run_environmentFile (hn : IsEnvironmentName n) {k : Cursor → Groups → Option α}
    (hk : (k ⟨lastOf prev n, t⟩ gs).isSome = true) :
    run environmentFile ⟨prev, n ++ t⟩ gs (fun next gs => run wordEdge next gs k) =
      k ⟨lastOf prev n, t⟩ gs := by
  obtain ⟨x, rfl, hx⟩ := hn
  let ending (next : Cursor) (gs : Groups) : Option α := run wordEdge next gs k
  have hstart : run environmentFile ⟨prev, ".env".toList ++ x ++ t⟩ gs ending =
      run (optional (seq (lit ".") (atLeastOne Char.isAlpha))) ⟨some 'v', x ++ t⟩ gs ending := by
    rw [environmentFile, run, run_lit, List.append_assoc, after?_append]
    rfl
  have hlast : lastOf prev (".env".toList ++ x) = lastOf (some 'v') x := lastOf_append _ _ _
  rw [hstart]
  rw [hlast] at hk ⊢
  rcases hx with rfl | ⟨y, rfl, hne, hy⟩
  · have hnone : run (seq (lit ".") (atLeastOne Char.isAlpha)) ⟨some 'v', t⟩ gs ending = none := by
      by_contra hsome
      obtain ⟨r, hr⟩ := Option.ne_none_iff_exists'.1 hsome
      obtain ⟨s, t', hrest, ⟨u, v, rfl, hu, hv⟩, -⟩ := exists_of_run_plain (by rfl) hr
      obtain rfl := takes_lit.1 hu
      obtain ⟨hne, hall⟩ := takes_atLeastOne.1 hv
      obtain ⟨d, v, rfl⟩ := List.exists_cons_of_ne_nil hne
      have hd : d.isAlpha = true := (Bool.and_eq_true_iff.1 hall).1
      have hbare := ht.isBareChar_eq_false (x := []) hrest rfl
      simp [isBareChar, isNameChar, Char.isAlphanum, hd] at hbare
    have hedge : atWordEdge ⟨lastOf none ['v'], t⟩ = true :=
      atWordEdge_of_word (by decide) (List.all_eq_true.1 (by decide)) ht.isWordChar_eq_false
    exact (run_alt_of_none hnone).trans (if_pos hedge)
  · have hword : ∀ c ∈ y, isWordChar c = true := fun c hc => isWordChar_of_isAlpha (List.all_eq_true.1 hy c hc)
    have hending : ending ⟨lastOf (some '.') y, t⟩ gs = k ⟨lastOf (some '.') y, t⟩ gs :=
      if_pos (atWordEdge_of_word hne hword ht.isWordChar_eq_false)
    have hnext : ∀ c ∈ t.head?, c.isAlpha = false := fun c hc => Bool.eq_false_iff.2 fun halpha =>
      Bool.eq_false_iff.1 (ht.isWordChar_eq_false c hc) (isWordChar_of_isAlpha halpha)
    rw [lastOf_cons] at hk ⊢
    have htaken : run (seq (lit ".") (atLeastOne Char.isAlpha)) ⟨some 'v', '.' :: y ++ t⟩ gs ending =
        k ⟨lastOf (some '.') y, t⟩ gs := by
      rw [← hending] at hk ⊢
      exact run_atLeastOne hne hy hnext hk
    obtain ⟨r, hr⟩ := Option.isSome_iff_exists.1 hk
    rw [hr] at htaken ⊢
    change run (alt _ Pattern.empty) _ _ _ = _
    rw [run, htaken]

/-- Behind the full stop of the extension none follows that the name could reach. -/
theorem run_later_eq_none (hext : String.ofList ext ∈ extensionTexts) {next : Cursor}
    (hnext : next ∈ places isBareChar [] (some '.') (ext ++ t)) {gs : Groups}
    (k : Cursor → Groups → Option α) : run (seq (lit ".") (any fileExtensions)) next gs k = none := by
  by_contra hsome
  obtain ⟨r, hr⟩ := Option.ne_none_iff_exists'.1 hsome
  obtain ⟨s, t', new, hrest, ⟨u, v, rfl, hu, hv⟩, -⟩ := exists_of_run hr
  obtain rfl := takes_lit.1 hu
  obtain ⟨hne, hname⟩ := of_extension (takes_extension.1 hv)
  obtain ⟨c, v, rfl⟩ := List.exists_cons_of_ne_nil hne
  obtain ⟨x, y, hxy, hx, rfl⟩ := (mem_places.1 hnext).resolve_left List.not_mem_nil
  have hdot : '.' ∉ ext := fun hmem => ((of_extension hext).2 _ hmem).2 rfl
  have hy : y = ".".toList ++ (c :: v) ++ t' := hrest
  have hsplit : ext ++ t = x ++ '.' :: (c :: (v ++ t')) := by
    rw [hxy, hy]
    rfl
  obtain ⟨a, rfl, ha⟩ := exists_of_notMem_left hsplit hdot
  rw [List.all_append, Bool.and_eq_true] at hx
  have hbare := ht.isBareChar_eq_false ha hx.2
  rw [isBareChar, (hname c List.mem_cons_self).1] at hbare
  cases hbare

/-- An extension ends where a word does, so only one does at a place. -/
theorem extension_unique (hext : String.ofList ext ∈ extensionTexts) {e t' : List Char}
    (he : String.ofList e ∈ extensionTexts) (hrest : ext ++ t = e ++ t')
    (hedge : atWordEdge ⟨lastOf prev e, t'⟩ = true) : e = ext ∧ t' = t := by
  rcases List.append_eq_append_iff.1 hrest with ⟨a, rfl, ha⟩ | ⟨a, rfl, rfl⟩
  · cases a with
    | nil => exact ⟨by simp, ha.symm⟩
    | cons d a =>
      have hd := isWordChar_of_extension he d (by simp)
      rw [ht.isWordChar_eq_false d (by simp [ha])] at hd
      cases hd
  · cases a with
    | nil => exact ⟨by simp, rfl⟩
    | cons d a =>
      have hd := isWordChar_of_extension hext d (by simp)
      obtain ⟨e, c, rfl⟩ := (List.eq_nil_or_concat' e).resolve_left (of_extension he).1
      have hc := isWordChar_of_extension he c (by simp)
      rw [atWordEdge, lastOf_append] at hedge
      simp [lastOf, hc, hd] at hedge

/-- What stands behind the full stop is taken as the extension. -/
theorem run_extension (hext : String.ofList ext ∈ extensionTexts) {k : Cursor → Groups → Option α}
    (hk : ∀ next gs, (k next gs).isSome = true) :
    run (seq (lit ".") (any fileExtensions)) ⟨prev, '.' :: (ext ++ t)⟩ gs
      (fun next gs => run wordEdge next gs k) = k ⟨lastOf prev ('.' :: ext), t⟩ gs := by
  have haccepts : Accepts (fun next gs => run wordEdge next gs k) fun next => atWordEdge next = true := by
    intro next gs
    simp only [run]
    split
    · next hedge => simp [hk, hedge]
    · next hedge => simp [hedge]
  have hedge : atWordEdge ⟨lastOf (some '.') ext, t⟩ = true :=
    atWordEdge_of_word (of_extension hext).1 (isWordChar_of_extension hext) ht.isWordChar_eq_false
  have hsome := (isSome_run (seq (lit ".") (any fileExtensions)) ⟨prev, '.' :: (ext ++ t)⟩ gs _ _
    haccepts).2 ⟨'.' :: ext, t, rfl,
      ⟨['.'], ext, rfl, takes_lit.2 rfl, takes_extension.2 hext⟩, by
        rwa [lastOf_cons]⟩
  obtain ⟨r, hr⟩ := Option.isSome_iff_exists.1 hsome
  obtain ⟨s, t', hrest, ⟨u, e, rfl, hu, he⟩, hnext⟩ := exists_of_run_plain (by rfl) hr
  obtain rfl := takes_lit.1 hu
  have hprev : lastOf prev (".".toList ++ e) = lastOf (some '.') e := lastOf_cons _ _ _
  simp only [run, hprev] at hnext
  split at hnext
  · next hedge' =>
    obtain ⟨rfl, rfl⟩ := extension_unique ht hext (takes_extension.1 he) (List.cons.inj hrest).2 hedge'
    rw [lastOf_cons, hnext]
    exact hr
  · cases hnext

/-- A name is taken as a whole: of the full stops after which an extension may stand, the last is tried
first. -/
theorem run_plainFile (hc : isNameChar c = true) (hmid : mid.all isBareChar = true)
    (hext : String.ofList ext ∈ extensionTexts) {k : Cursor → Groups → Option α}
    (hk : ∀ next gs, (k next gs).isSome = true) {gs : Groups} :
    run plainFile ⟨prev, c :: (mid ++ '.' :: ext) ++ t⟩ gs (fun next gs => run wordEdge next gs k) =
      k ⟨lastOf (some '.') ext, t⟩ gs := by
  have hrest : mid ++ '.' :: ext ++ t = mid ++ '.' :: (ext ++ t) := by simp
  obtain ⟨l, hl, -⟩ := places_append hmid (some c) ('.' :: (ext ++ t))
  have hstop : places isBareChar [] (lastOf (some c) mid) ('.' :: (ext ++ t)) =
      places isBareChar [] (some '.') (ext ++ t) ++
        [⟨lastOf (some c) mid, '.' :: (ext ++ t)⟩] := by
    rw [places, if_pos (by rfl), places_acc]
  have hlater : (places isBareChar [] (some '.') (ext ++ t)).findSome? (fun next =>
      run (seq (lit ".") (any fileExtensions)) next gs fun next gs => run wordEdge next gs k) = none :=
    List.findSome?_eq_none_iff.2 fun next hnext => run_later_eq_none ht hext hnext _
  have hhere : run (seq (lit ".") (any fileExtensions)) ⟨lastOf (some c) mid, '.' :: (ext ++ t)⟩ gs
      (fun next gs => run wordEdge next gs k) = k ⟨lastOf (lastOf (some c) mid) ('.' :: ext), t⟩ gs :=
    run_extension ht hext hk
  rw [lastOf_cons] at hhere
  obtain ⟨r, hr⟩ := Option.isSome_iff_exists.1 (hk ⟨lastOf (some '.') ext, t⟩ gs)
  have hone : run plainFile ⟨prev, c :: (mid ++ '.' :: ext) ++ t⟩ gs (fun next gs => run wordEdge next gs k) =
      (places isBareChar [] (some c) (mid ++ '.' :: ext ++ t)).findSome? fun next =>
        run (seq (lit ".") (any fileExtensions)) next gs fun next gs => run wordEdge next gs k := by
    exact if_pos hc
  rw [hone, hrest, hl, hstop, List.findSome?_append, List.findSome?_append, hlater, Option.none_or,
    List.findSome?_cons, hhere, hr]
  rfl

/-- The last component of a path is taken as a whole. -/
theorem run_name (hn : IsEnvironmentName n ∨ IsPlainName n) {k : Cursor → Groups → Option α}
    (hk : ∀ next gs, (k next gs).isSome = true) :
    run (seq (alt environmentFile plainFile) wordEdge) ⟨prev, n ++ t⟩ gs k =
      k ⟨lastOf prev n, t⟩ gs := by
  let ending (next : Cursor) (gs : Groups) : Option α := run wordEdge next gs k
  have hseq : run (seq (alt environmentFile plainFile) wordEdge) ⟨prev, n ++ t⟩ gs k =
      run (alt environmentFile plainFile) ⟨prev, n ++ t⟩ gs ending := rfl
  rw [hseq]
  rcases hn with henv | ⟨c, mid, ext, rfl, hc, hmid, hext⟩
  · obtain ⟨r, hr⟩ := Option.isSome_iff_exists.1 (hk ⟨lastOf prev n, t⟩ gs)
    rw [run, run_environmentFile ht henv (hk _ gs), hr]
  · have hnone : run environmentFile ⟨prev, c :: (mid ++ '.' :: ext) ++ t⟩ gs ending = none := by
      by_contra hsome
      obtain ⟨r, hr⟩ := Option.ne_none_iff_exists'.1 hsome
      obtain ⟨s, t', new, hrest, ⟨u, v, rfl, hu, -⟩, -⟩ := exists_of_run hr
      obtain rfl := takes_lit.1 hu
      obtain ⟨rfl, -⟩ := List.cons.inj hrest
      cases hc
    have hlast : lastOf prev (c :: (mid ++ '.' :: ext)) = lastOf (some '.') ext := by
      rw [lastOf_cons, lastOf_append, lastOf_cons]
    rw [run_alt_of_none hnone, run_plainFile ht hc hmid hext hk, hlast]

end

/-- Where a path stands, it is found, as a whole. -/
theorem matchAt_path {f t : List Char} (h : NamedPath f) (ht : IsClosing t) (prev : Option Char) :
    ∃ m, matchAt filePattern ⟨prev, f ++ t⟩ = some m ∧ m.found = (prev, f) := by
  obtain ⟨⟨ds, n, rfl, hds, hname⟩, -⟩ := h
  obtain ⟨hslash, hdot⟩ := chars_of_name hname
  let here : Cursor := ⟨prev, ds ++ n ++ t⟩
  let found (next : Cursor) (gs : Groups) : Option Match := some {
    prev := here.prev
    text := upTo here.rest next.rest
    groups := gs.map fun g => (g.1, upTo g.2.1 g.2.2)
    next := next }
  let naming (next : Cursor) (gs : Groups) : Option Match :=
    run (seq (alt environmentFile plainFile) wordEdge) next gs found
  have hnamed : naming ⟨lastOf prev ds, n ++ t⟩ [] = found ⟨lastOf (lastOf prev ds) n, t⟩ [] :=
    run_name ht hname fun _ _ => rfl
  have hlength : ds.length ≤ here.rest.length := by
    simp only [here, List.length_append]
    omega
  have hhere : here = ⟨prev, ds ++ (n ++ t)⟩ := congrArg (Cursor.mk prev) (List.append_assoc _ _ _)
  have hrun : matchAt filePattern here = found ⟨lastOf (lastOf prev ds) n, t⟩ [] :=
    calc matchAt filePattern here
        = turns (run (seq (atLeastOne isNameChar) (lit "/"))) here.rest here [] naming := rfl
      _ = naming ⟨lastOf prev ds, n ++ t⟩ [] := by
            rw [hhere] at hlength ⊢
            exact turns_directories hds hslash hdot _ hlength (by rw [hnamed]; rfl)
      _ = found ⟨lastOf (lastOf prev ds) n, t⟩ [] := hnamed
  have htext : upTo (ds ++ n ++ t) t = ds ++ n := by
    rw [upTo, List.length_append, Nat.add_sub_cancel, List.take_left]
  exact ⟨_, hrun, congrArg (Prod.mk prev) htext⟩

/-- The path that follows a blank is what is found next. -/
theorem mentionedIn_path {f t : List Char} (h : NamedPath f) (ht : IsClosing t) {words : List Char}
    (hwords : (findAll filePattern (words ++ [' '])).map Match.found = []) :
    (mentionedIn (words ++ ' ' :: (f ++ t))).head? = some (String.ofList f) := by
  obtain ⟨m, hm, hfound⟩ := matchAt_path h ht (some ' ')
  have hnext : ∃ l, (findAllFrom filePattern [] (some ' ') 0 (f ++ t)).map Match.found = (some ' ', f) :: l := by
    cases hf : f ++ t with
    | nil => exact absurd (List.append_eq_nil_iff.1 hf).1 h.ne_nil
    | cons c r =>
      rw [hf] at hm
      rw [findAllFrom, hm]
      simp only []
      rw [findAllFrom_eq, List.map_append, List.reverse_singleton, List.map_singleton, hfound]
      exact ⟨_, rfl⟩
  obtain ⟨l, hl⟩ := hnext
  have hnames : namesFile (some ' ') f = true := by
    simp [namesFile, h.foreign]
  unfold mentionedIn
  rw [found_append rfl (Bool.and_eq_true_iff.1 isPathStop_blank).1 (Bool.and_eq_true_iff.1 isPathStop_blank).1
    (by decide), hwords, hl, List.nil_append, List.filter_cons_of_pos (by exact hnames), List.map_cons, List.foldl_cons]
  obtain ⟨rest, hrest⟩ := prefix_foldl_addPath (addPath [] (String.ofList f)) _
  rw [← hrest]
  rfl

end BuildLoop
