import Mathlib.Data.Bool.AllAny
import BuildLoop.Proofs.Json.Reread
import BuildLoop.Proofs.Text.Occurs
import BuildLoop.Scaffold.Render

/-!
# Lists in sentences

A description tells a list behind a marker, with commas between the items and a full stop behind them. The
template reads the items back, whatever precedes the marker and whatever follows the sentence:

    marker not in x, every d ∈ ds a listed item
      →   listedAfter (x ++ marker ++ " " ++ ", ".intercalate ds ++ ". " ++ y) marker = ds    (listedAfter_eq)
    the packages of the manifest for Node   =   listedAfter … as keys of JSON         (parse_packageManifest)

A full stop within an item ends no sentence, since no blank follows it there.
-/

namespace BuildLoop.Scaffold

open Text

/-- An item that a sentence can list. -/
structure IsListed (d : String) : Prop where
  nonempty : d ≠ ""
  chars : ∀ c ∈ d.toList, isBlank c = false ∧ c ≠ ','
  /-- It does not end like the sentence. -/
  unended : d.toList.getLast? ≠ some '.'

instance (d : String) : Decidable (IsListed d) :=
  decidable_of_iff (d ≠ "" ∧ (d.toList.all fun c => decide (isBlank c = false ∧ c ≠ ',')) = true ∧
      d.toList.getLast? ≠ some '.')
    ⟨fun h => ⟨h.1, List.all_iff_forall_prop.1 h.2.1, h.2.2⟩,
      fun h => ⟨h.nonempty, List.all_iff_forall_prop.2 h.chars, h.unended⟩⟩

/-- The items behind the first one as a sentence lists them. -/
def further (ds : List String) : List Char := ds.flatMap fun d => ',' :: ' ' :: d.toList

theorem toList_intercalate_cons (d : String) (ds : List String) :
    (", ".intercalate (d :: ds)).toList = d.toList ++ further ds := by
  rw [String.toList_intercalate]
  induction ds generalizing d with
  | nil => simp [further]
  | cons e ds ih =>
    rw [List.map_cons, List.map_cons, List.intercalate_cons_cons, ← List.map_cons, ih]
    simp [further]

section
variable {d : String} {ds : List String}

theorem IsListed.trim_blank (h : IsListed d) : trim (' ' :: d.toList) = d.toList ∧ trim d.toList = d.toList := by
  have htrim : trim d.toList = d.toList :=
    trim_eq_self (fun c hc => (h.chars c (List.mem_of_mem_head? hc)).1)
      fun c hc => (h.chars c (List.mem_of_mem_getLast? hc)).1
  exact ⟨htrim, htrim⟩

theorem IsListed.notMem (h : IsListed d) : ' ' ∉ d.toList := fun hmem => by cases (h.chars ' ' hmem).1

theorem splitAtEach_further {s : List Char} (hs : ',' ∉ s) (hds : ∀ d ∈ ds, IsListed d) :
    splitAtEach (· == ',') (s ++ further ds) = s :: ds.map fun d => ' ' :: d.toList := by
  have hfree : ∀ {s : List Char}, ',' ∉ s → ∀ c ∈ s, (c == ',') = false := fun hs c hc =>
    beq_eq_false_iff_ne.2 fun heq => hs (heq ▸ hc)
  induction ds generalizing s with
  | nil => simp [further, splitAtEach_of_free (hfree hs)]
  | cons d ds ih =>
    obtain ⟨hd, hds⟩ := List.forall_mem_cons.1 hds
    have hcomma : ',' ∉ ' ' :: d.toList := by simpa using fun hmem => (hd.chars ',' hmem).2 rfl
    have hnext : s ++ further (d :: ds) = s ++ ',' :: ((' ' :: d.toList) ++ further ds) := by simp [further]
    rw [hnext, splitAtEach_append (hfree hs) (beq_self_eq_true _), ih hcomma hds, List.map_cons]

/-- No sentence ends within the items. -/
theorem unended_further {s : List Char} (hs : ' ' ∉ s) (hds : ∀ d ∈ ds, IsListed d) :
    ¬ ['.', ' '] <:+: s ++ further ds := by
  induction ds generalizing s with
  | nil =>
    rw [further, List.flatMap_nil, List.append_nil]
    exact not_infix_of_mem (c := ' ') (by simp) hs
  | cons d ds ih =>
    obtain ⟨hd, hds⟩ := List.forall_mem_cons.1 hds
    have hnext : s ++ further (d :: ds) = s ++ ',' :: ([' '] ++ (d.toList ++ further ds)) := by simp [further]
    rw [hnext, infix_append_cons (by decide)]
    rintro (h | h)
    · exact not_infix_of_mem (c := ' ') (by simp) hs h
    · exact ih hd.notMem hds (infix_of_append_left (by decide) h)

theorem exists_last_item (d : String) (ds : List String) :
    ∃ s, ∃ e ∈ d :: ds, d.toList ++ further ds = s ++ e.toList := by
  rcases List.eq_nil_or_concat' ds with rfl | ⟨ds, e, rfl⟩
  · exact ⟨[], d, List.mem_cons_self, by simp [further]⟩
  · exact ⟨d.toList ++ further ds ++ [',', ' '], e, by simp, by simp [further]⟩

/-- The sentence ends with the last item. -/
theorem exists_last_char (hds : ∀ e ∈ d :: ds, IsListed e) :
    ∃ s c, d.toList ++ further ds = s ++ [c] ∧ isBlank c = false ∧ c ≠ '.' := by
  obtain ⟨s, e, he, hs⟩ := exists_last_item d ds
  have hlisted := hds e he
  obtain ⟨r, c, hc⟩ := (List.eq_nil_or_concat' e.toList).resolve_left fun h =>
    hlisted.nonempty (String.toList_eq_nil_iff.1 h)
  have hlast := hlisted.unended
  rw [hc, List.getLast?_concat] at hlast
  exact ⟨s ++ r, c, by rw [hs, hc, List.append_assoc], (hlisted.chars c (by simp [hc])).1, fun h => hlast (h ▸ rfl)⟩

theorem trim_listing (hds : ∀ d ∈ ds, IsListed d) :
    dropEndWhile (· == '.') (trim (' ' :: (", ".intercalate ds).toList)) = (", ".intercalate ds).toList := by
  cases ds with
  | nil => decide
  | cons d ds =>
    obtain ⟨s, c, hlast, hblank, hstop⟩ := exists_last_char hds
    have htrim : trim (' ' :: (d.toList ++ further ds)) = d.toList ++ further ds := by
      have hd := hds d List.mem_cons_self
      refine trim_eq_self (s := d.toList ++ further ds) (fun e he => ?_) fun e he => ?_
      · obtain ⟨f, r, hf⟩ := List.exists_cons_of_ne_nil fun h => hd.nonempty (String.toList_eq_nil_iff.1 h)
        rw [hf] at he
        obtain rfl := Option.some.inj he
        exact (hd.chars f (by simp [hf])).1
      · rw [hlast, List.getLast?_concat] at he
        exact Option.some.inj he ▸ hblank
    rw [toList_intercalate_cons, htrim, hlast, dropEndWhile_concat, if_neg (by simpa using hstop)]

theorem items_listing (hds : ∀ d ∈ ds, IsListed d) :
    ((splitAtEach (· == ',') (", ".intercalate ds).toList).map trim).filterMap (fun s =>
      if s.isEmpty || s.contains ' ' then none else some (String.ofList s)) = ds := by
  have hitem : ∀ {d : String}, IsListed d → (if d.toList.isEmpty || d.toList.contains ' ' then none
      else some (String.ofList d.toList)) = some d := by
    intro d hd
    have hempty : d.toList.isEmpty = false := by simpa using hd.nonempty
    have hblank : d.toList.contains ' ' = false := by simpa using hd.notMem
    rw [hempty, hblank, String.ofList_toList]
    rfl
  cases ds with
  | nil => decide
  | cons d ds =>
    obtain ⟨hd, hrest⟩ := List.forall_mem_cons.1 hds
    have hcomma : ',' ∉ d.toList := fun hmem => (hd.chars ',' hmem).2 rfl
    have hpieces : (ds.map fun d => ' ' :: d.toList).map trim = ds.map String.toList := by
      rw [List.map_map]
      exact List.map_congr_left fun d hd => (hrest d hd).trim_blank.1
    rw [toList_intercalate_cons, splitAtEach_further hcomma hrest, List.map_cons, hpieces, hd.trim_blank.2,
      ← List.map_cons, List.filterMap_map]
    exact (List.filterMap_congr fun d hd => hitem (hds d hd)).trans List.filterMap_some

variable {marker description : String} {c : Char} {w x y : List Char}

/-- The items that a sentence lists behind a marker are read back. -/
theorem listedAfter_eq (hmarker : marker.toList = w ++ [c]) (hc : c ∉ w) (hx : ¬ marker.toList <:+: x)
    (hds : ∀ d ∈ ds, IsListed d)
    (h : description.toList = x ++ (marker.toList ++ ((' ' :: (", ".intercalate ds).toList) ++ (". ".toList ++ y)))) :
    listedAfter description marker = ds := by
  rw [hmarker] at h hx
  have hfound := cutAt_concat hc hx ((' ' :: (", ".intercalate ds).toList) ++ (". ".toList ++ y))
  have hsentence : cutAt ". ".toList ((' ' :: (", ".intercalate ds).toList) ++ (". ".toList ++ y)) =
      some (' ' :: (", ".intercalate ds).toList, y) := by
    refine cutAt_concat (w := ['.']) (c := ' ') (by decide) (fun hend => ?_) y
    have hend : ['.', ' '] <:+: (", ".intercalate ds).toList := infix_of_append_left (x := [' ']) (by decide) hend
    cases ds with
    | nil => simp at hend
    | cons d ds =>
      obtain ⟨hd, hds⟩ := List.forall_mem_cons.1 hds
      rw [toList_intercalate_cons] at hend
      exact unended_further hd.notMem hds hend
  unfold listedAfter
  rw [h, hmarker, hfound]
  simp only [hsentence, trim_listing hds]
  exact items_listing hds

end

/-! ## Manifests -/

/-- Members with names as their keys are put to others. -/
def starred (names : List String) (ms : List (String × Json)) : List (String × Json) :=
  names.foldl (fun ms name => Json.insert name (.text "*") ms) ms

theorem sorted_starred (names : List String) {ms : List (String × Json)} (hms : Json.Sorted ms)
    (hstar : ∀ p ∈ ms, p.2 = .text "*") : Json.Sorted (starred names ms) ∧
      (∀ p ∈ starred names ms, p.2 = .text "*") ∧
      ∀ k, k ∈ (starred names ms).map Prod.fst ↔ k ∈ names ∨ k ∈ ms.map Prod.fst := by
  induction names generalizing ms with
  | nil => exact ⟨hms, hstar, fun k => by simp [starred]⟩
  | cons name names ih =>
    have hstar' : ∀ p ∈ Json.insert name (.text "*") ms, p.2 = .text "*" := by
      intro p hp
      rcases Json.mem_insert hp with rfl | hp
      · rfl
      · exact hstar p hp
    obtain ⟨hsorted, hall, hkeys⟩ := ih (Json.sorted_insert hms) hstar'
    refine ⟨hsorted, hall, fun k => ?_⟩
    refine (hkeys k).trans ?_
    rw [Json.mem_keys_insert, List.mem_cons]
    exact or_left_comm.trans or_assoc.symm

/-- The manifest of Node packages is JSON whose packages are those that the description lists. -/
theorem parse_packageManifest (c : Context) (title : String) : ∃ ms ds,
    Json.parse (packageManifest c title) = .ok (.object ms) ∧ Json.lookup "dependencies" ms = some (.object ds) ∧
      (ds.map Prod.fst).Nodup ∧ ∀ k, k ∈ ds.map Prod.fst ↔ k ∈ listedAfter c.description "dependencies:" := by
  obtain ⟨hsorted, hstar, hkeys⟩ := sorted_starred (listedAfter c.description "dependencies:")
    List.Pairwise.nil (by simp)
  have hpackages : Json.Rereads 126 (.object (starred (listedAfter c.description "dependencies:") [])) :=
    Json.rereads_object hsorted fun p hp => hstar p hp ▸ Json.rereads_text 125 "*"
  have hscripts : Json.Rereads 126 (.object [("start", .text "node server.js")]) := by
    refine Json.rereads_object (List.pairwise_singleton _ _) fun p hp => ?_
    obtain rfl := List.mem_singleton.1 hp
    exact Json.rereads_text 125 _
  refine ⟨_, _, Json.parse_indented (Json.rereads_object (d := 126) ?_ ?_), rfl, hsorted.nodup_keys, fun k => ?_⟩
  · have hkeys : ["dependencies", "main", "name", "private", "scripts", "version"].Pairwise (· < ·) := by decide
    exact List.pairwise_map.1 hkeys
  · simp only [List.forall_mem_cons, List.not_mem_nil, false_imp_iff, implies_true, and_true]
    exact ⟨hpackages, Json.rereads_text 126 _, Json.rereads_text 126 _, Json.rereads_bool 126 true, hscripts,
      Json.rereads_text 126 _⟩
  · refine (hkeys k).trans ?_
    simp

end BuildLoop.Scaffold
