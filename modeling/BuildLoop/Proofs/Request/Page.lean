import BuildLoop.Plan.Description
import BuildLoop.Proofs.Diagnosis.Site
import BuildLoop.Proofs.Scaffold.Asset
import BuildLoop.Request.Design

/-!
# The page of a request without a server

The task for the page repeats the first sentence of the overview, and with it names that the request
holds. The page links the stylesheets and scripts among them. Beside those that every page has, these are
the further assets of the request; that they can be made up for is a condition on the request alone.

    f stands in the page's task, no blank in f   →   f is short                      (length_of_oneWord)
    Mendable request   →   the page is linkable                                         (Mendable.linkable)
    no full stop in the summary   →   Mendable request                               (mendable_of_summary)
-/

namespace BuildLoop.Design

open Text Scaffold

variable {request : String}

/-- What the task for the page says. -/
def pageTask (request : String) : String :=
  Plan.pageText (clientOnly request) ⟨"index.html", "Complete HTML structure and UI elements"⟩

/-- What the template of the page has to know. -/
def pageContext (request : String) : Context := ⟨"index.html", pageTask request, [], [], ""⟩

/-- The page that is written. -/
def page (request : String) : String := html (pageContext request) (appTitle (pageTask request))

/-- The files that the page links. -/
def linked (request : String) : List String :=
  linkedStyles (pageContext request) ++ linkedScripts (pageContext request)

/-- Whether no task of the plan writes an asset. -/
def isFurther (f : String) : Bool := !(["style.css", "script.js"].contains f)

/-- The files that the page links and that no task of the plan writes. -/
def furtherAssets (request : String) : List String :=
  (linked request).filter isFurther

/-- Whether corrections can make up for the further assets: there are no more of them than corrections,
and no name of one is taken for something else. -/
structure Mendable (request : String) : Prop where
  few : (furtherAssets request).length ≤ 5
  /-- It lies in the root, -/
  flat : ∀ f ∈ furtherAssets request, '/' ∉ f.toList
  /-- does not read like an error -/
  wordless : ∀ f ∈ furtherAssets request, ∀ w ∈ Diagnosis.syntaxWords ++ Diagnosis.referenceWords,
    ¬ w.toList <:+: f.toList
  /-- nor, in a link, like the place of the scripts. -/
  placeless : ∀ f ∈ furtherAssets request, endsWith (lowercase f) ".css" = true →
    ¬ "__SCRIPTS__".toList <:+: f.toList

/-! ## What the task says -/

theorem length_summary (request : String) : (summary request).toList.length ≤ 120 := by
  unfold summary
  rw [String.toList_ofList, dropEndWhile, List.length_reverse]
  refine (List.dropWhile_suffix _).length_le.trans ?_
  rw [List.length_reverse]
  exact List.length_take_le _ _

theorem toList_overview (request : String) : (clientOnly request).overview.toList =
    ("A pure client-side application (".toList ++ (summary request).toList ++ [')']) ++ '.' :: ' ' ::
      "All logic runs in the browser; there is no server, no API and no database.".toList := by
  have hclose : "). All logic runs in the browser; there is no server, no API and no database.".toList =
      ')' :: '.' :: ' ' :: "All logic runs in the browser; there is no server, no API and no database.".toList := by
    rw [String.toList_ofList, String.toList_ofList]
  unfold clientOnly
  simp only [String.toList_append, List.append_assoc, hclose]
  rfl

theorem trim_overview (request : String) :
    trim (clientOnly request).overview.toList = (clientOnly request).overview.toList := by
  refine trim_eq_self (fun c hc => ?_) fun c hc => ?_
  · rw [toList_overview] at hc
    obtain rfl : 'A' = c := by simpa using hc
    decide
  · rw [toList_overview, List.getLast?_append] at hc
    obtain rfl : '.' = c := by simpa using hc
    decide

theorem length_overviewSentence (request : String) :
    (firstSentence (clientOnly request).overview).toList.length ≤ 155 := by
  have hlength := length_firstSentence (trim_overview request) (toList_overview request)
  have hsummary := length_summary request
  have hwords : "A pure client-side application (".toList.length = 32 := rfl
  rw [List.length_append, List.length_append, hwords, List.length_singleton] at hlength
  omega

/-- The task up to the overview, -/
def pageLead : List Char :=
  ("Create index.html as a complete HTML5 document (doctype, head with meta viewport and title, body) " ++
    "using HTML/CSS/JavaScript (Vanilla).").toList

/-- and after it. -/
def pageRest : List Char :=
  ("Build every UI element the app needs with unique ids for scripting and link style.css and script.js. " ++
    "Complete HTML structure and UI elements").toList

theorem toList_pageTask (request : String) : (pageTask request).toList =
    pageLead ++ ' ' :: ((firstSentence (clientOnly request).overview).toList ++ ' ' :: pageRest) := by
  have hlinks : Plan.linkedFiles (clientOnly request) "index.html" = ["style.css", "script.js"] := by
    have hpaths : (clientOnly request).files.frontend.map (·.path) = ["index.html", "style.css", "script.js"] := rfl
    unfold Plan.linkedFiles
    rw [hpaths]
    decide
  have hstack : (clientOnly request).stack.frontend = "HTML/CSS/JavaScript (Vanilla)" := rfl
  have hlead : ("Create " ++ "index.html" ++ " as a complete HTML5 document (doctype, head with meta viewport and " ++
      "title, body) using " ++ "HTML/CSS/JavaScript (Vanilla)" ++ ". ").toList = pageLead ++ [' '] := by
    unfold pageLead
    simp only [String.toList_append]
    repeat rw [String.toList_ofList]
    rfl
  have hrest : " Build every UI element the app needs with unique ids for scripting".toList ++
      (" and link " ++ " and ".intercalate ["style.css", "script.js"]).toList ++ ". ".toList ++
      "Complete HTML structure and UI elements".toList = ' ' :: pageRest := by
    unfold pageRest
    simp only [String.toList_append, String.intercalate_cons_cons, String.intercalate_singleton]
    repeat rw [String.toList_ofList]
    rfl
  unfold pageTask Plan.pageText
  simp only [hlinks, hstack]
  generalize firstSentence (clientOnly request).overview = sentence
  have happend : ∀ a b c d e f : String, (a ++ b ++ c ++ d ++ e ++ f).toList =
      a.toList ++ (b.toList ++ (c.toList ++ d.toList ++ e.toList ++ f.toList)) := by
    intros
    simp
  rw [if_neg (by decide), happend, hlead, hrest, List.append_assoc]
  rfl

/-- What stands in the task as one word is short. -/
theorem length_of_oneWord {f : List Char} (hblank : ' ' ∉ f) (h : f <:+: (pageTask request).toList) :
    f.length ≤ 217 := by
  rw [toList_pageTask] at h
  have hlead : pageLead.length ≤ 217 := by
    unfold pageLead
    rw [String.toList_append, String.toList_ofList, String.toList_ofList]
    decide +kernel
  have hrest : pageRest.length ≤ 217 := by
    unfold pageRest
    rw [String.toList_append, String.toList_ofList, String.toList_ofList]
    decide +kernel
  have hsentence := length_overviewSentence request
  rcases (infix_append_cons hblank).1 h with h | h
  · exact h.length_le.trans hlead
  · rcases (infix_append_cons hblank).1 h with h | h
    · have hle := h.length_le
      omega
    · exact h.length_le.trans hrest

/-! ## What the page links -/

theorem isRootPage_pageContext (request : String) : IsRootPage (pageContext request) := ⟨rfl, rfl⟩

theorem not_isFurther {f : String} : isFurther f = false ↔ f ∈ ["style.css", "script.js"] := by
  unfold isFurther
  rw [Bool.not_eq_false', List.contains_iff_mem]

theorem mem_furtherAssets {f : String} : f ∈ furtherAssets request ↔ f ∈ linked request ∧ isFurther f = true :=
  List.mem_filter

theorem nodup_eraseDups (names : List String) : names.eraseDups.Nodup := by
  induction hn : names.length using Nat.strong_induction_on generalizing names with
  | _ n ih =>
    subst hn
    cases names with
    | nil => exact List.nodup_nil
    | cons a names =>
      have hrest := List.length_filter_le (fun b => !b == a) names
      rw [List.eraseDups_cons, List.nodup_cons, List.mem_eraseDups]
      exact ⟨by simp, ih _ (by rw [List.length_cons]; omega) _ rfl⟩

/-- The files with an extension are at most one more than the further ones. -/
theorem length_withExtension (ext kept : String) (names : List String)
    (hkept : ∀ f ∈ ["style.css", "script.js"], endsWith (lowercase f) ext = true → f = kept) :
    (withExtension ext names).length ≤ ((withExtension ext names).filter isFurther).length + 1 := by
  have hn : (withExtension ext names).Nodup := nodup_eraseDups _
  have hrest : ((withExtension ext names).filter fun f => !isFurther f).length ≤ [kept].length := by
    refine ((hn.filter _).subperm fun f hf => ?_).length_le
    obtain ⟨hmem, hnot⟩ := List.mem_filter.1 hf
    exact List.mem_singleton.2
      (hkept f (not_isFurther.1 (by simpa using hnot)) (mem_withExtension.1 hmem).2)
  have hsplit := List.length_eq_length_filter_add (l := withExtension ext names) isFurther
  rw [List.length_singleton] at hrest
  omega

namespace Mendable

variable (h : Mendable request) {f : String}
include h

section
variable (hf : f ∈ linked request)
include hf

theorem isAsset : IsAsset f := by
  apply isAsset_of_linked (isRootPage_pageContext request) hf
  cases hnamed : isFurther f with
  | false =>
    have hboth : ∀ f ∈ ["style.css", "script.js"], '/' ∉ f.toList := by decide
    exact hboth f (not_isFurther.1 hnamed)
  | true => exact h.flat f (mem_furtherAssets.2 ⟨hf, hnamed⟩)

theorem isFileName : Workspace.IsFileName f := by
  have hasset := h.isAsset hf
  have hmem : f ∈ assets (pageContext request) := by
    rcases List.mem_append.1 hf with hf | hf <;> exact (mem_withExtension.1 hf).1
  have hwithin := infix_of_mentioned ((mem_assets (isRootPage_pageContext request)).1 hmem).1
  exact hasset.isFileName (length_of_oneWord (hasset.bare.notMem (by decide)) hwithin)

theorem legible : Diagnosis.Legible f where
  nonempty := (h.isFileName hf).nonempty
  oneWord := fun c hc => of_codes (P := fun c => isBareChar c = true → isBlank c = false ∧ c ≠ ':') (by decide)
    ((h.isAsset hf).bare.ascii c hc) ((h.isAsset hf).bare.chars c hc)
  wordless := by
    cases hnamed : isFurther f with
    | false =>
      have hboth : ∀ f ∈ ["style.css", "script.js"], ∀ w ∈ Diagnosis.syntaxWords ++ Diagnosis.referenceWords,
          ¬ w.toList <:+: f.toList := by decide
      exact hboth f (not_isFurther.1 hnamed)
    | true => exact h.wordless f (mem_furtherAssets.2 ⟨hf, hnamed⟩)
  noJson := by
    rcases (h.isAsset hf).ext with hext | ⟨hext, -⟩ <;> rw [hext] <;> decide

end

theorem linkable : Linkable (pageContext request) where
  targets := fun f hf => (h.isAsset hf).isTarget
  short := fun f hf => (h.isFileName hf).short.trans (by decide)
  styles := by
    have hlength := length_withExtension ".css" "style.css" (assets (pageContext request))
      (by decide)
    have hfew := h.few
    unfold furtherAssets linked at hfew
    rw [List.filter_append, List.length_append] at hfew
    unfold linkedStyles at hfew ⊢
    omega
  scripts := by
    have hlength := length_withExtension ".js" "script.js" (assets (pageContext request))
      (by decide)
    have hfew := h.few
    unfold furtherAssets linked at hfew
    rw [List.filter_append, List.length_append] at hfew
    unfold linkedScripts at hfew ⊢
    omega
  placeless := by
    intro f hf
    cases hnamed : isFurther f with
    | false =>
      have hboth : ∀ f ∈ ["style.css", "script.js"], ¬ "__SCRIPTS__".toList <:+: f.toList := by decide
      exact hboth f (not_isFurther.1 hnamed)
    | true =>
      exact h.placeless f (mem_furtherAssets.2 ⟨List.mem_append_left _ hf, hnamed⟩) (mem_withExtension.1 hf).2

end Mendable

/-! ## Requests without a full stop -/

/-- A request whose summary has no full stop adds no name to those of the plan. -/
theorem found_pageTask (hstop : '.' ∉ (summary request).toList) :
    (Pattern.findAll filePattern (pageTask request).toList).map Pattern.Match.found =
      [(some ' ', "index.html".toList), (some ' ', "style.css".toList), (some ' ', "script.js".toList)] := by
  have hsentence : (firstSentence (clientOnly request).overview).toList =
      "A pure client-side application (".toList ++ (summary request).toList ++ [')'] ++ ['.'] := by
    refine toList_firstSentence (trim_overview request) (toList_overview request) ?_
    simpa using hstop
  have hnone : Pattern.findAllFrom filePattern [] (some ' ') 0
      ("A pure client-side application (".toList ++ (summary request).toList ++ [')'] ++ ['.'] ++ [' ']) = [] := by
    refine findAllFrom_eq_nil fun a c b heq => ?_
    have hfree : '.' ∉ "A pure client-side application (".toList ++ (summary request).toList ++ [')'] := by
      simpa using hstop
    rw [List.append_assoc] at heq
    obtain ⟨a', rfl, hrest⟩ := exists_of_notMem_left heq hfree
    cases a' with
    | nil =>
      obtain ⟨rfl, -⟩ := List.cons.inj (List.cons.inj hrest).2
      rfl
    | cons d a' =>
      obtain ⟨-, hrest⟩ := List.cons.inj hrest
      cases a' with
      | nil => cases hrest
      | cons d a' =>
        have hlength := congrArg List.length hrest
        simp at hlength
  have hlead : (Pattern.findAll filePattern (pageLead ++ [' '])).map Pattern.Match.found =
      [(some ' ', "index.html".toList)] := by
    unfold pageLead
    rw [String.toList_append, String.toList_ofList, String.toList_ofList]
    decide +kernel
  have hrest : (Pattern.findAllFrom filePattern [] (some ' ') 0 pageRest).map Pattern.Match.found =
      [(some ' ', "style.css".toList), (some ' ', "script.js".toList)] := by
    unfold pageRest
    rw [String.toList_append, String.toList_ofList, String.toList_ofList]
    decide
  have hblank : filePattern.avoids ' ' = true := by decide
  have hleast : 0 < filePattern.least := by decide
  rw [toList_pageTask, Pattern.found_append rfl hblank hblank hleast, hlead,
    Pattern.foundFrom_append rfl hblank hblank hleast, hsentence, hnone, hrest]
  rfl

theorem furtherAssets_eq_nil (hstop : '.' ∉ (summary request).toList) : furtherAssets request = [] := by
  rw [List.eq_nil_iff_forall_not_mem]
  intro f hf
  obtain ⟨hlinked, hfurther⟩ := mem_furtherAssets.1 hf
  have hmem : f ∈ assets (pageContext request) := by
    rcases List.mem_append.1 hlinked with hf | hf <;> exact (mem_withExtension.1 hf).1
  obtain ⟨hmentioned, hpage, -⟩ := (mem_assets (isRootPage_pageContext request)).1 hmem
  have hmentioned : f ∈ mentioned (pageTask request) := hmentioned
  rw [mentioned_eq, mentionedIn, found_pageTask hstop] at hmentioned
  have hnames := (mem_foldl_addPath.1 hmentioned).resolve_left List.not_mem_nil
  obtain ⟨x, hx, rfl⟩ := List.mem_map.1 hnames
  have hfixed : ∀ x ∈ [(some ' ', "index.html".toList), (some ' ', "style.css".toList),
      (some ' ', "script.js".toList)], String.ofList x.2 = "index.html" ∨ isFurther (String.ofList x.2) = false := by
    decide
  rcases hfixed x (List.mem_filter.1 hx).1 with hindex | hkept
  · exact hpage hindex
  · rw [hkept] at hfurther
    cases hfurther

/-- What corrections make up for is nothing then. -/
theorem mendable_of_summary (hstop : '.' ∉ (summary request).toList) : Mendable request := by
  have hnil := furtherAssets_eq_nil hstop
  constructor <;> simp [hnil]

end BuildLoop.Design
