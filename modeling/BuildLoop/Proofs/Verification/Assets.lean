import BuildLoop.Proofs.Scaffold.Markup
import BuildLoop.Proofs.Task.Mentions
import BuildLoop.Verification.Assets

/-!
# What markup links

In markup the only stylesheets and scripts that a check takes from the document are the targets of its
links, and it takes each that is a file of the site:

    Markup P n html, a ∈ referencedAssets html   →   P a                          (linked_of_mem_assets)
    a linked in html, a of the site   →   a ∈ referencedAssets html                  (mem_assets_of_tag)

An asset is found by a pattern whose gap before `href` or `src` may take whatever holds no `>`. In a link
only the blank before the right name fits. A match ends with its target's quote, so that it covers no other
link.
-/

namespace BuildLoop.Verification

open Text Pattern Scaffold

/-! ## Matches -/

/-- Whether a text is the start of a tag up to the name of its target, with any attributes between. -/
def Names (tag name w : List Char) : Prop :=
  ∃ x gap b y, w = x ++ (gap ++ b :: y) ∧ List.Forall₂ (fun a c => sameFolded a c = true) tag x ∧
    '>' ∉ gap ∧ isBlank b = true ∧ List.Forall₂ (fun a c => sameFolded a c = true) name y

theorem names_of_takes {tag name : String} {prev : Option Char} {w t : List Char}
    (h : (all [word tag, few (· != '>'), one isBlank, word name]).Takes prev w t) : Names tag.toList name.toList w := by
  obtain ⟨x, v, rfl, hx, gap, v, rfl, hgap, s, y, rfl, ⟨b, rfl, hb⟩, hy⟩ := h
  refine ⟨x, gap, b, y, rfl, takes_charsFolded.1 hx, fun hmem => ?_, hb, takes_charsFolded.1 hy⟩
  have := List.all_eq_true.1 hgap _ hmem
  simp at this

theorem exists_of_matchAt {here : Cursor} {m : Match} (h : matchAt assetPattern here = some m) :
    ∃ w b₁ b₂ q g q' t, here.rest = '<' :: (w ++ (b₁ ++ '=' :: (b₂ ++ q :: (g ++ q' :: t)))) ∧
      (Names "link".toList "href".toList w ∨ Names "script".toList "src".toList w) ∧
      b₁.all isBlank = true ∧ b₂.all isBlank = true ∧
      isQuote q = true ∧ isQuote q' = true ∧ (∀ c ∈ g, isQuote c = false) ∧ m.group? 1 = some g ∧
      here.rest = m.text ++ t := by
  rw [matchAt] at h
  obtain ⟨s₁, t₁, hrest, h₁, h⟩ := exists_of_run_seq (by decide) h
  obtain ⟨w, t₂, ht₁, hw, h⟩ := exists_of_run_seq (by decide) h
  obtain ⟨b₁, t₃, ht₂, hb₁, h⟩ := exists_of_run_seq (by decide) h
  obtain ⟨s₂, t₄, ht₃, h₂, h⟩ := exists_of_run_seq (by decide) h
  obtain ⟨b₂, t₅, ht₄, hb₂, h⟩ := exists_of_run_seq (by decide) h
  obtain ⟨s₃, t₆, ht₅, ⟨q, rfl, hq⟩, h⟩ := exists_of_run_seq (by decide) h
  obtain ⟨g, t₇, ht₆, hg, h⟩ := exists_of_run_plain (p := atLeastOne (!isQuote ·)) (by decide) h
  obtain ⟨s₄, t, ht₇, ⟨q', rfl, hq'⟩, h⟩ := exists_of_run_plain (p := one isQuote) (by decide) h
  obtain rfl := takes_lit.1 h₁
  obtain rfl := takes_lit.1 h₂
  simp only at ht₁ ht₂ ht₃ ht₄ ht₅ ht₆ ht₇
  refine ⟨w, b₁, b₂, q, g, q', t, ?_, hw.imp names_of_takes names_of_takes, hb₁, hb₂, hq, hq', ?_, ?_, ?_⟩
  · rw [hrest, ht₁, ht₂, ht₃, ht₄, ht₅, ht₆, ht₇]
    rfl
  · have hall := (takes_atLeastOne.1 hg).2
    simpa using hall
  · obtain rfl := Option.some.inj h
    simp [Match.group?, upTo, ht₆]
  · obtain rfl := Option.some.inj h
    have hsuffix : here.rest = ('<' :: (w ++ (b₁ ++ '=' :: (b₂ ++ q :: (g ++ [q']))))) ++ t := by
      rw [hrest, ht₁, ht₂, ht₃, ht₄, ht₅, ht₆, ht₇]
      simp
    rw [hsuffix]
    exact congrArg (· ++ t) (upTo_append_self _ t).symm

/-! ## Matches in markup -/

section
variable {P : List Char → Prop} {f g b₁ b₂ rest t : List Char} {q q' : Char}

/-- The name of an attribute with its value. -/
def assigned (name f : List Char) : List Char := name ++ '=' :: '"' :: (f ++ ['"'])

theorem eq_of_assigned {name y s : List Char} (hlength : name.length = y.length)
    (hb₁ : b₁.all isBlank = true) (hb₂ : b₂.all isBlank = true) (hq' : isQuote q' = true)
    (hg : ∀ c ∈ g, isQuote c = false) (hf : ∀ c ∈ f, isQuote c = false)
    (h : assigned name f ++ s = y ++ (b₁ ++ '=' :: (b₂ ++ q :: (g ++ q' :: t)))) : f = g ∧ t = s := by
  rw [assigned, List.append_assoc] at h
  obtain ⟨-, h⟩ := List.append_inj h hlength
  obtain rfl : b₁ = [] := by
    cases b₁ with
    | nil => rfl
    | cons c b₁ =>
      obtain ⟨rfl, -⟩ := List.cons.inj h
      cases hb₁
  obtain ⟨-, h⟩ := List.cons.inj h
  obtain rfl : b₂ = [] := by
    cases b₂ with
    | nil => rfl
    | cons c b₂ =>
      obtain ⟨rfl, -⟩ := List.cons.inj h
      cases hb₂
  have htail : f ++ '"' :: s = g ++ q' :: t := by
    have := (List.cons.inj h).2
    simpa using this
  rcases split_at hf hq' htail with ⟨rfl, -, rfl⟩ | ⟨w', rfl, -⟩
  · exact ⟨rfl, rfl⟩
  · have := hg '"' (by simp)
    cases this

/-- An attribute holds no blank, so that none precedes a name within it. -/
theorem no_name_within {r s gap z : List Char} {b : Char} (hr : ∀ d ∈ r, isBlank d = false)
    (hgap : '>' ∉ gap) (hb : isBlank b = true) : r ++ '>' :: s ≠ gap ++ b :: z := by
  intro h
  rcases split_at hr hb h with ⟨-, rfl, -⟩ | ⟨w', rfl, -⟩
  · cases hb
  · exact hgap (by simp)

variable {x y gap : List Char} {b : Char} {prev : Option Char} {m : Match}

/-- What follows a tag's word. -/
theorem names_append {tag name w s : List Char} (hw : Names tag name w) (h : tag ++ s = w ++ t) :
    ∃ gap b y, s = gap ++ b :: (y ++ t) ∧ '>' ∉ gap ∧ isBlank b = true ∧
      List.Forall₂ (fun a c => sameFolded a c = true) name y := by
  obtain ⟨x, gap, b, y, rfl, hx, hgap, hb, hy⟩ := hw
  rw [List.append_assoc] at h
  obtain ⟨-, h⟩ := List.append_inj h hx.length_eq
  exact ⟨gap, b, y, by simpa using h, hgap, hb, hy⟩

theorem not_names {a c : Char} {tag name w s : List Char} (hac : sameFolded a c = false)
    (h : c :: s = w ++ t) : ¬ Names (a :: tag) name w := by
  rintro ⟨x, gap, b, y, rfl, hx, -⟩
  cases hx with
  | cons ha _ =>
    obtain ⟨rfl, -⟩ := List.cons.inj h
    rw [hac] at ha
    cases ha

section
variable (hf : IsTarget f)
include hf

theorem isBlank_of_target : ∀ d ∈ f, isBlank d = false := fun d hd =>
  of_codes (P := fun d => isTargetChar d = true → isBlank d = false) (by decide) (hf.ascii d hd) (hf.chars d hd)

theorem isQuote_of_target : ∀ d ∈ f, isQuote d = false := fun d hd =>
  of_codes (P := fun d => isTargetChar d = true → isQuote d = false) (by decide) (hf.ascii d hd) (hf.chars d hd)

theorem isBlank_of_assigned {name : List Char} (hname : ∀ d ∈ name, isBlank d = false) :
    ∀ d ∈ assigned name f, isBlank d = false := by
  intro d hd
  simp only [assigned, List.mem_append, List.mem_cons, List.not_mem_nil, or_false] at hd
  rcases hd with hd | rfl | rfl | hd | rfl
  · exact hname d hd
  · decide
  · decide
  · exact isBlank_of_target hf d hd
  · decide

/-- In the link of a script the target is found. -/
theorem matched_script (h : matchAt assetPattern ⟨prev, scriptStart ++ (f ++ '"' :: scriptEnd) ++ t⟩ = some m) :
    m.group? 1 = some f ∧ m.text = scriptStart ++ (f ++ ['"']) := by
  obtain ⟨w, b₁, b₂, q, g, q', z, hrest, hnames, hb₁, hb₂, -, hq', hg, hgroup, htext⟩ := exists_of_matchAt h
  have hend : scriptEnd = '>' :: scriptEnd.tail := by decide
  have hsplit : scriptStart ++ (f ++ '"' :: scriptEnd) ++ t = '<' :: ("script".toList ++ ' ' ::
      (assigned "src".toList f ++ '>' :: (scriptEnd.tail ++ t))) := by
    have hstart : scriptStart = '<' :: ("script".toList ++ ' ' :: ("src".toList ++ ['=', '"'])) := by decide
    rw [hstart, hend, assigned]
    simp
  have hw := (List.cons.inj (hsplit.symm.trans hrest)).2
  have hscript := hnames.resolve_left (not_names (a := 'l') (c := 's') (by decide) hw)
  obtain ⟨gap, b, y, hgap, hfree, hb, hy⟩ := names_append hscript hw
  rcases split_at (r := []) (by simp) hb hgap with ⟨-, -, htarget⟩ | ⟨gap', rfl, hlate⟩
  · obtain ⟨rfl, rfl⟩ := eq_of_assigned hy.length_eq hb₁ hb₂ hq' hg (isQuote_of_target hf) htarget.symm
    have hall : m.text ++ '>' :: (scriptEnd.tail ++ t) =
        (scriptStart ++ (f ++ ['"'])) ++ '>' :: (scriptEnd.tail ++ t) := by
      rw [← htext, ← List.cons_append, ← hend]
      simp
    exact ⟨hgroup, List.append_cancel_right hall⟩
  · exact absurd hlate (no_name_within (isBlank_of_assigned hf (List.all_iff_forall_prop.1 (by decide)))
      (fun hmem => hfree (List.mem_cons_of_mem _ hmem)) hb)

/-- In the link of a stylesheet the target is found. -/
theorem matched_link (h : matchAt assetPattern ⟨prev, linkStart ++ (f ++ '"' :: linkEnd) ++ t⟩ = some m) :
    m.group? 1 = some f ∧ m.text = linkStart ++ (f ++ ['"']) := by
  obtain ⟨w, b₁, b₂, q, g, q', z, hrest, hnames, hb₁, hb₂, -, hq', hg, hgroup, htext⟩ := exists_of_matchAt h
  have hsplit : linkStart ++ (f ++ '"' :: linkEnd) ++ t = '<' :: ("link".toList ++ ' ' ::
      ("rel=\"stylesheet\"".toList ++ ' ' :: (assigned "href".toList f ++ '>' :: t))) := by
    have hstart : linkStart = '<' :: ("link".toList ++ ' ' ::
        ("rel=\"stylesheet\"".toList ++ ' ' :: ("href".toList ++ ['=', '"']))) := by decide
    rw [hstart, linkEnd, assigned]
    simp
  have hw := (List.cons.inj (hsplit.symm.trans hrest)).2
  have hlink := hnames.resolve_right (not_names (a := 's') (c := 'l') (by decide) hw)
  obtain ⟨gap, b, y, hgap, hfree, hb, hy⟩ := names_append hlink hw
  rcases split_at (r := []) (by simp) hb hgap with ⟨-, -, hrel⟩ | ⟨gap', rfl, hlate⟩
  · -- the first blank precedes another attribute
    cases hy with
    | cons hc _ =>
      obtain ⟨rfl, -⟩ := List.cons.inj hrel
      cases hc
  rcases split_at (List.all_iff_forall_prop.1 (by decide)) hb hlate with ⟨-, -, htarget⟩ | ⟨gap'', rfl, hlater⟩
  · obtain ⟨rfl, rfl⟩ := eq_of_assigned hy.length_eq hb₁ hb₂ hq' hg (isQuote_of_target hf) htarget.symm
    have hall : m.text ++ '>' :: t = (linkStart ++ (f ++ ['"'])) ++ '>' :: t := by
      simpa [linkEnd] using htext.symm
    exact ⟨hgroup, List.append_cancel_right hall⟩
  · exact absurd hlater (no_name_within (isBlank_of_assigned hf (List.all_iff_forall_prop.1 (by decide)))
      (fun hmem => hfree (by simp [hmem])) hb)

end

variable (hP : ∀ f, P f → IsTarget f)
include hP

/-- A match at the start of a tag finds the target of a link, and reaches to no other tag. -/
theorem group_of_tagged {b : List Char} (hb : Tagged P b) (h : matchAt assetPattern ⟨prev, '<' :: b⟩ = some m) :
    ∃ f, P f ∧ m.group? 1 = some f ∧ '<' ∉ m.text.tail := by
  have hfree : ∀ {w f : List Char}, w ≠ [] → '<' ∉ w.tail → P f → '<' ∉ (w ++ (f ++ ['"'])).tail := by
    intro w f hne hw hf
    have htag := (hP f hf).notMem (c := '<') rfl
    simp [List.tail_append_of_ne_nil hne, hw, htag]
  cases hb with
  | @inert c s hc =>
    obtain ⟨w, b₁, b₂, q, g, q', z, hrest, hnames, -⟩ := exists_of_matchAt h
    have hw := (List.cons.inj hrest).2
    have hfolded : sameFolded 'l' c = false ∧ sameFolded 's' c = false := by
      rcases hc with hc | rfl
      · exact of_codes (P := fun c => isInert c = true → sameFolded 'l' c = false ∧ sameFolded 's' c = false)
          (by decide) (of_isInert hc).2.2.1 hc
      · decide
    rcases hnames with hlink | hscript
    · exact absurd hlink (not_names hfolded.1 hw)
    · exact absurd hscript (not_names hfolded.2 hw)
  | @link f s hf =>
    obtain ⟨hgroup, htext⟩ := matched_link (hP f hf) h
    exact ⟨f, hf, hgroup, htext ▸ hfree (by decide) (by decide) hf⟩
  | @script f s hf =>
    obtain ⟨hgroup, htext⟩ := matched_script (hP f hf) h
    exact ⟨f, hf, hgroup, htext ▸ hfree (by decide) (by decide) hf⟩

end

/-! ## Targets as assets -/

section
variable {f : List Char} (hf : IsTarget f)
include hf

theorem trim_target : trim f = f :=
  trim_eq_self (fun c hc => isBlank_of_target hf c (List.mem_of_mem_head? hc))
    fun c hc => isBlank_of_target hf c (List.mem_of_mem_getLast? hc)

theorem withoutQuery_target : withoutQuery f = f := by
  have hall : ∀ c ∈ f, (c != '?' && c != '#') = true := by
    intro c hc
    have hmark := hf.notMem (c := '?') rfl
    have hhash := hf.notMem (c := '#') rfl
    rw [Bool.and_eq_true, bne_iff_ne, bne_iff_ne]
    exact ⟨fun h => hmark (h ▸ hc), fun h => hhash (h ▸ hc)⟩
  rw [withoutQuery, ← List.append_nil f, List.takeWhile_append_of_pos hall]
  rfl

theorem dropHere_target : dropHere f = f := by
  unfold dropHere
  split
  · exact absurd ⟨_, rfl⟩ hf.here
  · rfl

theorem lower_target : lower f = f.map Char.toLower := lower_of_ascii hf.ascii

theorem eq_of_localAsset? {asset : String} (h : localAsset? (trim f) = some asset) : asset.toList = f := by
  rw [localAsset?, trim_target hf, withoutQuery_target hf, dropHere_target hf] at h
  simp only [Option.ite_none_left_eq_some, Option.some.injEq] at h
  rw [← h.2, String.toList_ofList]

/-- In lower case a target is a target. -/
theorem isTarget_lower : IsTarget (lower f) where
  nonempty := by
    rw [lower_target hf]
    simpa using hf.nonempty
  chars := by
    rw [lower_target hf, List.forall_mem_map]
    exact fun c hc => of_codes (P := fun c => isTargetChar c = true → isTargetChar c.toLower = true)
      (by decide) (hf.ascii c hc) (hf.chars c hc)
  here := fun h => hf.here (prefix_of_lower hf.ascii (by decide) h)

theorem isRemote_target (hsite : ¬ "//".toList <+: f) : isRemote (String.ofList (lower f)) = false := by
  have hforeign : ∀ {w : List Char} {c : Char}, c ∈ w → isTargetChar c = false → ¬ w <+: lower f :=
    fun hmem hc hw => (isTarget_lower hf).notMem hc (hw.subset hmem)
  rw [isRemote, List.any_eq_false]
  intro w hw
  rw [startsWith, String.toList_ofList, List.isPrefixOf_iff_prefix]
  simp only [List.mem_cons, List.not_mem_nil, or_false] at hw
  rcases hw with rfl | rfl | rfl | rfl | rfl | rfl
  · exact hforeign (c := ':') (by decide) rfl
  · exact hforeign (c := ':') (by decide) rfl
  · exact fun h => hsite (prefix_of_lower hf.ascii (by decide) h)
  · exact hforeign (c := ':') (by decide) rfl
  · exact hforeign (c := '#') (by decide) rfl
  · exact hforeign (c := ':') (by decide) rfl

/-- A stylesheet or a script is taken as it is linked. -/
theorem localAsset?_target (hsite : ¬ "//".toList <+: f)
    (hext : endsWith (String.ofList (lower f)) ".css" = true ∨ endsWith (String.ofList (lower f)) ".js" = true) :
    localAsset? (trim f) = some (String.ofList f) := by
  rw [localAsset?, trim_target hf, withoutQuery_target (isTarget_lower hf), isRemote_target hf hsite,
    withoutQuery_target hf, dropHere_target hf]
  simp only [Bool.or_eq_true_iff.2 hext, Bool.not_true, Bool.or_self, Bool.false_eq_true, if_false]

end

/-! ## The assets of markup -/

/-- Whether a text is the link of a stylesheet or of a script. -/
def IsTag (f w : List Char) : Prop :=
  w = linkStart ++ (f ++ '"' :: linkEnd) ∨ w = scriptStart ++ (f ++ '"' :: scriptEnd)

section
variable {P : List Char → Prop} {prev : Option Char} {f w t : List Char}

theorem IsTag.exists_cons (h : IsTag f w) : ∃ r, w = '<' :: r := by
  rcases h with rfl | rfl
  · exact ⟨_, rfl⟩
  · exact ⟨_, rfl⟩

theorem IsTag.matched {m : Match} (hf : IsTarget f) (hw : IsTag f w)
    (h : matchAt assetPattern ⟨prev, w ++ t⟩ = some m) : m.group? 1 = some f := by
  rcases hw with rfl | rfl
  · exact (matched_link hf h).1
  · exact (matched_script hf h).1

theorem takes_opening (tag name : String) {gap : List Char} (hgap : '>' ∉ gap) :
    (all [word tag, few (· != '>'), one isBlank, word name]).Takes prev
      (tag.toList ++ (gap ++ ' ' :: name.toList)) t := by
  have hword : ∀ {w : String} {prev t}, (word w).Takes prev w.toList t := fun {w prev t} =>
    takes_charsFolded.2 (sameFolded_self _)
  refine ⟨_, _, rfl, hword, gap, _, rfl, ?_, [' '], _, rfl, ⟨' ', rfl, by decide⟩, hword⟩
  exact List.all_eq_true.2 fun c hc => bne_iff_ne.2 fun h => hgap (h ▸ hc)

/-- An opening of a tag is taken with the quoted target behind it. -/
theorem takes_assetPattern (hf : IsTarget f) {opening : List Char}
    (hopens : ∀ t, (any [all [word "link", few (· != '>'), one isBlank, word "href"],
      all [word "script", few (· != '>'), one isBlank, word "src"]]).Takes (some '<') opening t) :
    assetPattern.Takes prev ('<' :: (opening ++ '=' :: '"' :: (f ++ ['"']))) t := by
  have hquoted : ∀ {prev t}, (atLeastOne (!isQuote ·)).Takes prev f t := by
    intro prev t
    refine takes_atLeastOne.2 ⟨hf.nonempty, List.all_eq_true.2 fun c hc => ?_⟩
    rw [isQuote_of_target hf c hc]
    rfl
  exact ⟨['<'], _, rfl, takes_lit.2 rfl, opening, _, rfl, hopens _, [], _, rfl, rfl, ['='], _, rfl, takes_lit.2 rfl,
    [], _, rfl, rfl, ['"'], _, rfl, ⟨'"', rfl, rfl⟩, f, ['"'], rfl, hquoted, ⟨'"', rfl, rfl⟩⟩

/-- A link is matched. -/
theorem IsTag.isSome_matchAt (hf : IsTarget f) (hw : IsTag f w) (prev : Option Char) :
    (matchAt assetPattern ⟨prev, w ++ t⟩).isSome = true := by
  rw [Text.Pattern.isSome_matchAt]
  rcases hw with rfl | rfl
  · have hstart : linkStart = '<' :: "link rel=\"stylesheet\" href".toList ++ ['=', '"'] := rfl
    refine ⟨_, linkEnd ++ t, ?_, takes_assetPattern hf fun _ => .inl
      (takes_opening "link" "href" (by decide : '>' ∉ " rel=\"stylesheet\"".toList))⟩
    simp [hstart]
  · have hstart : scriptStart = '<' :: "script src".toList ++ ['=', '"'] := rfl
    refine ⟨_, scriptEnd ++ t, ?_, takes_assetPattern hf fun _ => .inr
      (takes_opening "script" "src" List.not_mem_nil)⟩
    simp [hstart]

end

/-- The assets of markup are targets of its links. -/
theorem linked_of_mem_assets {P : List Char → Prop} (hP : ∀ f, P f → IsTarget f) {html asset : String} {n : Nat}
    (h : Markup P n html.toList) (hasset : asset ∈ referencedAssets html) : P asset.toList := by
  obtain ⟨m, hm, hlocal⟩ := List.mem_filterMap.1 ((mem_foldl_addPath.1 hasset).resolve_left List.not_mem_nil)
  obtain ⟨a, b, prev, hsplit, hmatch⟩ := exists_of_mem_findAll hm
  obtain ⟨w, b₁, b₂, q, g, q', z, hrest, -⟩ := exists_of_matchAt hmatch
  simp only at hrest
  have htagged := h.tagged (fun f hf => (hP f hf).notMem rfl) (hrest ▸ hsplit)
  obtain ⟨f, hf, hgroup, -⟩ := group_of_tagged hP htagged (hrest ▸ hmatch)
  rw [hgroup, Option.getD_some] at hlocal
  rwa [eq_of_localAsset? (hP f hf) hlocal]

/-- What a link of markup names is one of its assets. -/
theorem mem_assets_of_tag {P : List Char → Prop} (hP : ∀ f, P f → IsTarget f) {html asset : String} {n : Nat}
    (h : Markup P n html.toList) (hasset : IsTarget asset.toList) {w : List Char} (hw : IsTag asset.toList w)
    (hmem : w <:+: html.toList) (hlocal : localAsset? (trim asset.toList) = some asset) :
    asset ∈ referencedAssets html := by
  obtain ⟨a, t, hsplit⟩ := hmem
  obtain ⟨r, hr⟩ := hw.exists_cons
  have hplace : html.toList = a ++ '<' :: (r ++ t) := by
    rw [← hsplit, hr]
    simp
  have hrest : ∀ prev, (⟨prev, '<' :: (r ++ t)⟩ : Cursor) = ⟨prev, w ++ t⟩ := fun prev => by rw [hr]; rfl
  have hfree : ∀ x y prev m, html.toList = x ++ y → matchAt assetPattern ⟨prev, y⟩ = some m → '<' ∉ m.text.tail := by
    intro x y prev m hxy hm
    obtain ⟨w, b₁, b₂, q, g, q', z, hrest, -⟩ := exists_of_matchAt hm
    simp only at hrest
    have htagged := h.tagged (fun f hf => (hP f hf).notMem rfl) (hrest ▸ hxy)
    obtain ⟨f, hf, -, hfree⟩ := group_of_tagged hP htagged (hrest ▸ hm)
    exact hfree
  have hmatched : ∀ prev, (matchAt assetPattern ⟨prev, '<' :: (r ++ t)⟩).isSome = true := fun prev =>
    hrest prev ▸ hw.isSome_matchAt hasset prev
  obtain ⟨m, hm, prev, hmatch⟩ : ∃ m ∈ findAll assetPattern html.toList, ∃ prev,
      matchAt assetPattern ⟨prev, '<' :: (r ++ t)⟩ = some m :=
    exists_mem_findAllFrom hplace hfree hmatched (by simp) none
  have hgroup := hw.matched hasset (hrest prev ▸ hmatch)
  refine mem_foldl_addPath.2 (.inr (List.mem_filterMap.2 ⟨m, hm, ?_⟩))
  rw [hgroup]
  exact hlocal

end BuildLoop.Verification
