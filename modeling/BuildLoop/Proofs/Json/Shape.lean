import Mathlib.Data.List.Forall2
import BuildLoop.Json.Form
import BuildLoop.Proofs.Json.Written

/-!
# Reading by a shape

Each text of a value is read by a shape as the value that stands for it there. Simple values, lists and cases
are read as they are; in a record, fields that are left out are filled in:

    a text, a name, a natural number below 2 ^ 64        →   read as it is  (reads_text, reads_choice, reads_natural)
    each item is read for a value                        →   the list is read for those values         (reads_list)
    Fills d fields ms vs                                 →   the record of ms is read for vs         (reads_record)
    the members of a case are taken by it                →   they are read behind their tag          (reads_tagged)

What is read has its shape: a record holds its fields and nothing else, in whatever text it was, and a table is
sorted by key                                                          (exists_of_readRecord, exists_of_readTable).
-/

namespace BuildLoop.Json

/-! ## Simple values -/

section
variable {w t : List Char} (hw : Blanks w) (m : Mark)
include hw

theorem readString_textString (expected : String) (k : String) (x : List Char) :
    ∃ m', readString expected ⟨w ++ ((textString k).toList ++ x), m⟩ = .ok (k, ⟨x, m'⟩) := by
  obtain ⟨m₁, hskip⟩ := skip_textString hw k x m
  obtain ⟨m₂, htext⟩ := readText_textString k x (m₁.past '"')
  refine ⟨m₂, ?_⟩
  rw [readString, hskip]
  exact htext

theorem readVariant_textString {variants : List String} {k : String} (hk : k ∈ variants) (x : List Char) :
    ∃ m', readVariant variants ⟨w ++ ((textString k).toList ++ x), m⟩ = .ok (k, ⟨x, m'⟩) := by
  obtain ⟨m', hstring⟩ := readString_textString hw m "variant identifier" k x
  refine ⟨m', ?_⟩
  rw [readVariant, hstring]
  exact if_pos (List.contains_iff_mem.2 hk)

theorem readColon_blanks (x : List Char) : ∃ m', readColon ⟨w ++ ':' :: x, m⟩ = .ok ⟨x, m'⟩ := by
  obtain ⟨m', hskip⟩ := skip_blanks hw (c := ':') (by decide) x m
  refine ⟨m'.past ':', ?_⟩
  rw [readColon, hskip]
  rfl

end

theorem reads_text (d : Nat) (s : String) : Reads (Shape.text.read d) (.text s) (.text s) := by
  intro w x t m hw hs _
  cases hs with
  | text =>
    obtain ⟨m', hstring⟩ := readString_textString hw m "a string" s t
    exact ⟨m', by rw [Shape.read, hstring]; rfl⟩

theorem reads_choice {variants : List String} {v : String} (hv : v ∈ variants) (d : Nat) :
    Reads ((Shape.choice variants).read d) (.text v) (.text v) := by
  intro w x t m hw hs _
  cases hs with
  | text =>
    obtain ⟨m₁, hskip⟩ := skip_textString hw v t m
    obtain ⟨m₂, hvariant⟩ := readVariant_textString blanks_nil m₁ hv t
    rw [toList_textString] at hvariant
    refine ⟨m₂, ?_⟩
    rw [Shape.read, readChoice, hskip]
    exact congrArg (Except.map _) (by simpa using hvariant)

/-! ## Natural numbers -/

theorem isDigit_of_ends {c : Char} {t : List Char} (h : Ends (c :: t)) : c.isDigit = false := by
  have hc := h c rfl
  simp only [isNumberChar, Bool.or_eq_false_iff] at hc
  simp [hc]

theorem le_ofDigitChars (ds : List Char) (n : Nat) : n ≤ Nat.ofDigitChars 10 ds n := by
  rw [Nat.ofDigitChars_eq_ofDigitChars_zero]
  have hpow : 0 < 10 ^ ds.length := Nat.pow_pos (by decide)
  exact le_trans (Nat.le_mul_of_pos_left n hpow) (Nat.le_add_right _ _)

theorem readDigits_of_digits {ds t : List Char} (hds : ∀ c ∈ ds, c.isDigit = true) (ht : Ends t) {n : Nat}
    (hn : Nat.ofDigitChars 10 ds n < Nat.pow 2 64) (count : Nat) (m : Mark) : ∃ m',
      readDigits n count m (ds ++ t) = ((Nat.ofDigitChars 10 ds n, count + ds.length, false), ⟨t, m'⟩) := by
  induction ds generalizing n count m with
  | nil =>
    cases t with
    | nil => exact ⟨m, rfl⟩
    | cons c t =>
      refine ⟨m, ?_⟩
      rw [List.nil_append, readDigits, isDigit_of_ends ht]
      rfl
  | cons c ds ih =>
    obtain ⟨hc, hds⟩ := List.forall_mem_cons.1 hds
    rw [Nat.ofDigitChars_cons, mul_comm 10 n] at hn ⊢
    obtain ⟨m', h⟩ := ih hds hn (count + 1) (m.right 1)
    refine ⟨m', ?_⟩
    rw [List.cons_append, readDigits, if_pos hc]
    simp only [if_pos (lt_of_le_of_lt (le_ofDigitChars ds _) hn), h, List.length_cons]
    rw [Nat.add_assoc, Nat.add_comm 1]

theorem head?_toDigits {n : Nat} (hn : 0 < n) : (Nat.toDigits 10 n).head? ≠ some '0' := by
  induction n using Nat.strongRecOn with
  | _ n ih =>
    rcases Nat.lt_or_ge n 10 with hsmall | hlarge
    · rw [Nat.toDigits_of_lt_base hsmall]
      have hdigit : ∀ n < 10, 0 < n → Nat.digitChar n ≠ '0' := by decide
      exact fun h => hdigit n hsmall hn (Option.some.inj h)
    · rw [Nat.toDigits_of_base_le (by decide) hlarge, List.head?_append_of_ne_nil _ Nat.toDigits_ne_nil]
      exact ih (n / 10) (by omega) (by omega)

theorem readFraction_of_ends {t : List Char} (ht : Ends t) (n : Nat) (m : Mark) :
    readFraction false n ⟨t, m⟩ = .ok (.whole n, ⟨t, m⟩) := by
  unfold readFraction
  split
  · next h => exact absurd (ht '.' (by rw [show t = _ from h]; rfl)) (by decide)
  · next h => exact absurd (ht 'e' (by rw [show t = _ from h]; rfl)) (by decide)
  · next h => exact absurd (ht 'E' (by rw [show t = _ from h]; rfl)) (by decide)
  · rfl

theorem readNumber_natural {n : Nat} (hn : n < Nat.pow 2 64) {t : List Char} (ht : Ends t) (m : Mark) :
    ∃ m', readNumber false ⟨Nat.toDigits 10 n ++ t, m⟩ = .ok (.whole n, ⟨t, m'⟩) := by
  rcases Nat.eq_zero_or_pos n with rfl | hpos
  · cases t with
    | nil => exact ⟨_, rfl⟩
    | cons c t =>
      refine ⟨m.past '0', ?_⟩
      have hdigits : Nat.toDigits 10 0 ++ c :: t = '0' :: c :: t := rfl
      rw [hdigits, readNumber]
      simp only [isDigit_of_ends ht, Bool.false_eq_true, if_false]
      exact readFraction_of_ends ht 0 _
  · obtain ⟨c, r, hr⟩ := List.exists_cons_of_ne_nil (Nat.toDigits_ne_nil (b := 10) (n := n))
    have hzero : c ≠ '0' := fun h => head?_toDigits hpos (by rw [hr, h]; rfl)
    have hdigits : ∀ d ∈ c :: r, d.isDigit = true := fun d hd =>
      Nat.isDigit_of_mem_toDigits (by decide) (by decide) (hr ▸ hd)
    have hvalue : Nat.ofDigitChars 10 (c :: r) 0 = n := by
      rw [← hr, Nat.ofDigitChars_toDigits (by decide) (by decide)]
    obtain ⟨m', hread⟩ := readDigits_of_digits hdigits ht (by rwa [hvalue]) 0 m
    refine ⟨m', ?_⟩
    rw [hvalue, List.cons_append] at hread
    rw [hr, List.cons_append, readNumber]
    simp only [hdigits c List.mem_cons_self, if_true, hread]
    exact readFraction_of_ends ht n m'

theorem written_ofNat {n : Nat} {s : List Char} (h : Written (ofNat n) s) : s = Nat.toDigits 10 n := by
  cases h with
  | number =>
    have htext : Number.text (.whole n) = String.ofList (Nat.toDigits 10 n) := Nat.toString_eq_ofList_toDigits
    rw [htext, String.toList_ofList]

theorem reads_natural {n bound : Nat} (hbound : n < bound) (hn : n < Nat.pow 2 64) (typeName : String) (d : Nat) :
    Reads ((Shape.natural typeName bound).read d) (ofNat n) (ofNat n) := by
  intro w s t m hw hs ht
  obtain ⟨c, r, hr⟩ := List.exists_cons_of_ne_nil (Nat.toDigits_ne_nil (b := 10) (n := n))
  have hdigit : c.isDigit = true := Nat.isDigit_of_mem_toDigits (by decide) (by decide) (hr ▸ List.mem_cons_self)
  have hnumber : isNumberChar c = true := isNumberChar_of_digits (s := [c]) (by simpa using hdigit) c List.mem_cons_self
  obtain ⟨m₁, hskip⟩ := skip_blanks hw (not_blank_of_number hnumber) (r ++ t) m
  obtain ⟨m₂, hread⟩ := readNumber_natural hn ht m₁
  have hcheck : checkNatural typeName bound (.number (.whole n)) = .ok (.number (.whole n)) := by
    rw [checkNatural, if_pos ⟨Int.natCast_nonneg n, Int.ofNat_lt.2 hbound⟩]
  rw [hr, List.cons_append] at hread
  refine ⟨m₂, ?_⟩
  rw [Shape.read, readChecked, written_ofNat hs, hr, List.cons_append, hskip]
  simp only
  split
  · next h =>
    rw [(List.cons.inj h).1] at hdigit
    cases hdigit
  · next h => cases h
  · next h =>
    cases h
    simp only [hdigit, if_true, hread, hcheck]
    rfl

/-! ## Values that may be null -/

theorem reads_null (sh : Shape) (d : Nat) : Reads ((Shape.optional sh).read d) .null .null := by
  intro w s t m hw hs _
  cases hs with
  | null =>
    obtain ⟨m', hskip⟩ := skip_blanks hw (c := 'n') (by decide) ("ull".toList ++ t) m
    have htext : w ++ ("null".toList ++ t) = w ++ 'n' :: ("ull".toList ++ t) := rfl
    rw [htext, Shape.read, hskip]
    exact ⟨_, rfl⟩

theorem Reads.optional {sh : Shape} {d : Nat} {j v : Json} (h : Reads (sh.read d) j v) (hj : j ≠ .null) :
    Reads ((Shape.optional sh).read d) j v := by
  intro w s t m hw hs ht
  obtain ⟨m', hread⟩ := h m hw hs ht
  obtain ⟨c, r, rfl, hblank, -, hn⟩ := hs.exists_cons
  obtain ⟨m₁, hskip⟩ := skip_blanks hw hblank (r ++ t) m
  refine ⟨m', ?_⟩
  rw [Shape.read]
  split
  · next h =>
    rw [List.cons_append, hskip] at h
    exact absurd (List.cons.inj h).1 (hn hj)
  · exact hread

/-! ## Lists -/

theorem Reads.under {read : Source → Read Json} {j v : Json} (h : Reads read j v) (step : Step) :
    Reads (fun s => Json.under step (read s)) j v := by
  intro w s t m hw hs ht
  obtain ⟨m', hread⟩ := h m hw hs ht
  exact ⟨m', by simp only [hread]; rfl⟩

theorem reads_list {sh : Shape} {d : Nat} {js vs : List Json} (h : List.Forall₂ (Reads (sh.read d)) js vs) :
    Reads ((Shape.list sh).read (d + 1)) (.list js) (.list vs) := by
  intro w s t m hw hs _
  cases hs with
  | @list _ r hr =>
    obtain ⟨m₁, hskip⟩ := skip_blanks hw (c := '[') (by decide) (r ++ ']' :: t) m
    have hitem : List.Forall₂ (fun j v => ∀ i, Reads (fun s => Json.under (.index i) (sh.read d s)) j v) js vs :=
      h.imp fun _ _ hj i => hj.under (.index i)
    obtain ⟨m₂, hitems⟩ := readItems_series hitem hr (i := 0) rfl (hr.turns_le ']' t) [] t (m₁.past '[')
    have hend : endList ⟨']' :: t, m₂⟩ = .ok ⟨t, m₂.past ']'⟩ := by
      rw [endList, skip_cons (by decide)]
      rfl
    refine ⟨m₂.past ']', ?_⟩
    simp only [List.cons_append, List.append_assoc, List.nil_append]
    rw [Shape.read, readList, hskip]
    simp only [Source.drop, Nat.succ_ne_zero, if_false, Nat.add_sub_cancel, hitems, settle, bind, Except.bind, hend]
    rfl

/-! ## Records -/

section
variable {k l : String} {v : Json} {ms : List (String × Json)}

theorem field?_self : field? (.object ((k, v) :: ms)) k = some v := if_pos rfl

theorem field?_of_ne (h : k ≠ l) : field? (.object ((k, v) :: ms)) l = field? (.object ms) l := if_neg h

end

/-- What stands for a field that is left out. -/
def Absent.value? : Absent → Option Json
  | .required => none
  | .default j => some j
  | .null => some .null

/-- Whether members, in the order of the fields, give some fields of a record and let the others be filled in;
the values are those that are read. -/
inductive Fills (d : Nat) : Fields → List (String × Json) → List (String × Json) → Prop where
  | nil : Fills d .nil [] []
  | given {k : String} {sh : Shape} {a : Absent} {rest : Fields} {j v : Json} {ms vs : List (String × Json)}
      (h : Reads (sh.read d) j v) (hrest : Fills d rest ms vs) :
      Fills d (.cons k sh a rest) ((k, j) :: ms) ((k, v) :: vs)
  | left {k : String} {sh : Shape} {a : Absent} {rest : Fields} {v : Json} {ms vs : List (String × Json)}
      (h : a.value? = some v) (hrest : Fills d rest ms vs) : Fills d (.cons k sh a rest) ms ((k, v) :: vs)

section
variable {d : Nat} {fields : Fields} {all : List FieldReader} {ms vs found : List (String × Json)}

theorem enters_readMember {f : FieldReader} {k : String} {j v : Json} (hfind : all.find? (·.name == k) = some f)
    (hnew : lookup k found = none) (h : Reads (f.read d) j v) :
    Enters (readMember all d) k j found ((k, v) :: found) := by
  intro w w' s t m hw hw' hs ht
  obtain ⟨m₁, hcolon⟩ := readColon_blanks hw m (w' ++ (s ++ t))
  obtain ⟨m₂, hvalue⟩ := h m₁ hw' hs ht
  refine ⟨m₂, ?_⟩
  simp only [readMember, hfind, hnew, Option.isSome_none, Bool.false_eq_true, if_false, hcolon, bind, Except.bind,
    under, hvalue]

theorem fill_cons_of_left {f : FieldReader} {rest : List FieldReader} {v : Json} (hlookup : lookup f.name found = none)
    (h : f.absent.value? = some v) : fill found (f :: rest) = (fill found rest).map ((f.name, v) :: ·) := by
  rw [fill, hlookup]
  cases ha : f.absent with
  | required => rw [ha] at h; cases h
  | default j => rw [ha] at h; cases h; rfl
  | null => rw [ha] at h; cases h; rfl

/-- The members are read one after the other, and what was found then fills the record. What was found before
has none of the keys to come, and keeps all others. -/
theorem folds_of_fills (h : Fills d fields ms vs) (hnames : fields.readers.Pairwise (·.name ≠ ·.name))
    (hall : ∀ f ∈ fields.readers, all.find? (·.name == f.name) = some f)
    (hfound : ∀ f ∈ fields.readers, lookup f.name found = none) :
    ∃ found', Folds (readMember all d) ms found found' ∧ fill found' fields.readers = .ok vs ∧
      ∀ k, (∀ f ∈ fields.readers, k ≠ f.name) → lookup k found' = lookup k found := by
  induction h generalizing found with
  | nil => exact ⟨found, .nil found, rfl, fun _ _ => rfl⟩
  | @given k sh a rest j v ms vs h _ ih =>
    obtain ⟨hk, hnames⟩ := List.pairwise_cons.1 hnames
    obtain ⟨hfind, hall⟩ := List.forall_mem_cons.1 hall
    obtain ⟨hnew, hfound⟩ := List.forall_mem_cons.1 hfound
    have hother : ∀ l, l ≠ k → lookup l ((k, v) :: found) = lookup l found := fun l hl => if_neg (Ne.symm hl)
    have hnext : ∀ f ∈ rest.readers, lookup f.name ((k, v) :: found) = none := fun f hf => by
      rw [hother f.name (Ne.symm (hk f hf)), hfound f hf]
    obtain ⟨found', hfolds, hfill, hkeep⟩ := ih hnames hall hnext
    have hlookup : lookup k found' = some v := (hkeep k hk).trans (if_pos rfl)
    refine ⟨found', .cons (enters_readMember hfind hnew h) hfolds, ?_, fun l hl => ?_⟩
    · rw [Fields.readers, fill]
      simp only [hlookup, hfill]
      rfl
    · obtain ⟨hl, hrest⟩ := List.forall_mem_cons.1 hl
      rw [hkeep l hrest, hother l hl]
  | @left k sh a rest v ms vs h _ ih =>
    obtain ⟨hk, hnames⟩ := List.pairwise_cons.1 hnames
    obtain ⟨-, hall⟩ := List.forall_mem_cons.1 hall
    obtain ⟨hnew, hfound⟩ := List.forall_mem_cons.1 hfound
    obtain ⟨found', hfolds, hfill, hkeep⟩ := ih hnames hall hfound
    refine ⟨found', hfolds, ?_, fun l hl => hkeep l (List.forall_mem_cons.1 hl).2⟩
    rw [Fields.readers, fill_cons_of_left ((hkeep k hk).trans hnew) h, hfill]
    rfl

theorem find?_name (hnames : all.Pairwise (·.name ≠ ·.name)) : ∀ f ∈ all, all.find? (·.name == f.name) = some f := by
  induction all with
  | nil => simp
  | cons g all ih =>
    obtain ⟨hg, hnames⟩ := List.pairwise_cons.1 hnames
    refine List.forall_mem_cons.2 ⟨by simp, fun f hf => ?_⟩
    rw [List.find?_cons_of_neg (by simpa using hg f hf)]
    exact ih hnames f hf

/-- A record is read from its members. -/
theorem reads_record (h : Fills d fields ms vs) (hnames : fields.readers.Pairwise (·.name ≠ ·.name)) (name : String) :
    Reads ((Shape.record name fields).read (d + 1)) (.object ms) (.object vs) := by
  intro w s t m hw hs _
  cases hs with
  | @object _ r hr =>
    obtain ⟨m₁, hskip⟩ := skip_blanks hw (c := '\x7b') (by decide) (r ++ '\x7d' :: t) m
    have hnone : ∀ f ∈ fields.readers, lookup f.name ([] : List (String × Json)) = none := fun _ _ => rfl
    obtain ⟨found, hfolds, hfill, -⟩ := folds_of_fills h hnames (find?_name hnames) hnone
    obtain ⟨m₂, hmembers⟩ := readMembers_series hfolds hr (hr.turns_le '\x7d' t) t (m₁.past '\x7b')
    refine ⟨m₂.past '\x7d', ?_⟩
    simp only [List.cons_append, List.append_assoc, List.nil_append]
    rw [Shape.read, readRecord, hskip]
    simp only [Nat.succ_ne_zero, if_false, Nat.add_sub_cancel, readRecordObject, Source.drop, hmembers, settle, bind,
      Except.bind, hfill]

end

/-! ## Cases -/

section
variable {d : Nat}

/-- A value that is no list and no object is read whatever its shape. -/
theorem reads_any (keep : Keep) (d : Nat) {j : Json} (hj : j = .null ∨ ∃ s, j = .text s) :
    Reads (readAny keep d) j j := by
  intro w s t m hw hs _
  rcases hj with rfl | ⟨k, rfl⟩
  · cases hs with
    | null =>
      obtain ⟨m₁, hskip⟩ := skip_blanks hw (c := 'n') (by decide) ("ull".toList ++ t) m
      have htext : w ++ ("null".toList ++ t) = w ++ 'n' :: ("ull".toList ++ t) := rfl
      rw [htext, readAny_skip (hskip.trans (skip_cons (by decide) _ m₁).symm),
        readAny_scalar (by decide) (by decide) (by decide)]
      exact ⟨_, rfl⟩
  · cases hs with
    | text =>
      obtain ⟨m₁, hskip⟩ := skip_textString hw k t m
      obtain ⟨m₂, htext⟩ := readText_textString k t (m₁.past '"')
      refine ⟨m₂, ?_⟩
      rw [readAny_skip (hskip.trans (skip_cons (by decide) _ m₁).symm),
        readAny_scalar (by decide) (by decide) (by decide)]
      exact congrArg (Except.map _) htext

variable {tag v : String} {variants : List String}

theorem enters_tag (hv : v ∈ variants) :
    Enters (readTaggedMember tag variants d) tag (.text v) (none, []) (some v, []) := by
  intro w w' s t m hw hw' hs _
  cases hs with
  | text =>
    obtain ⟨m₁, hcolon⟩ := readColon_blanks hw m (w' ++ ((textString v).toList ++ t))
    obtain ⟨m₂, hvariant⟩ := readVariant_textString hw' m₁ hv t
    refine ⟨m₂, ?_⟩
    simp only [readTaggedMember, if_true, Option.isSome_none, Bool.false_eq_true, if_false, hcolon, bind, Except.bind,
      under, hvariant]

/-- The members beside the tag are kept as they are. -/
theorem folds_tagged {ms : List (String × Json)} (hms : ∀ p ∈ ms, p.1 ≠ tag ∧ Reads (readAny .all d) p.2 p.2)
    (acc : List (String × Json)) :
    Folds (readTaggedMember tag variants d) ms (some v, acc) (some v, ms.reverse ++ acc) := by
  induction ms generalizing acc with
  | nil => exact .nil _
  | cons p ms ih =>
    obtain ⟨⟨hkey, hvalue⟩, hms⟩ := List.forall_mem_cons.1 hms
    have henters : Enters (readTaggedMember tag variants d) p.1 p.2 (some v, acc) (some v, p :: acc) := by
      intro w w' s t m hw hw' hs ht
      obtain ⟨m₁, hcolon⟩ := readColon_blanks hw m (w' ++ (s ++ t))
      obtain ⟨m₂, hread⟩ := hvalue m₁ hw' hs ht
      refine ⟨m₂, ?_⟩
      simp only [readTaggedMember, if_neg hkey, hcolon, bind, Except.bind, under, hread]
    simpa using Folds.cons henters (ih hms (p :: acc))

/-- A case is read from its tag, which comes first, and its members. -/
theorem reads_tagged {cases : Cases} {c : CaseReader} {ms vs : List (String × Json)}
    (hfind : cases.readers.find? (·.name == v) = some c) (hms : ∀ p ∈ ms, p.1 ≠ tag ∧ Reads (readAny .all d) p.2 p.2)
    (haccept : acceptMembers c.fields [] ms = .ok vs) (name : String) :
    Reads ((Shape.tagged name tag cases).read (d + 1)) (.object ((tag, .text v) :: ms))
      (.object ((tag, .text v) :: vs)) := by
  intro w s t m hw hs _
  have hname : c.name = v := by simpa using List.find?_some hfind
  have hv : v ∈ cases.readers.map (·.name) := hname ▸ List.mem_map_of_mem (List.mem_of_find?_eq_some hfind)
  cases hs with
  | @object _ r hr =>
    obtain ⟨m₁, hskip⟩ := skip_blanks hw (c := '\x7b') (by decide) (r ++ '\x7d' :: t) m
    obtain ⟨m₂, hmembers⟩ := readMembers_series (.cons (enters_tag hv) (folds_tagged hms [])) hr
      (hr.turns_le '\x7d' t) t (m₁.past '\x7b')
    refine ⟨m₂.past '\x7d', ?_⟩
    simp only [List.cons_append, List.append_assoc, List.nil_append]
    rw [Shape.read, readTagged, hskip]
    simp only [Nat.succ_ne_zero, if_false, Nat.add_sub_cancel, Source.drop, hmembers, settle, bind, Except.bind, pure,
      Except.pure, acceptCase, hfind, acceptRecord, List.append_nil, List.reverse_reverse, haccept, Except.map]

end

/-! ## What a record and a table hold -/

section
variable {α : Type} {x : Except Stop α} {a : α}

theorem ok_of_settle {place : Source → Mark} (h : settle place x = .ok a) : x = .ok a := by
  cases x with
  | error e => cases h
  | ok b => exact h

theorem ok_of_under {step : Step} (h : under step x = .ok a) : x = .ok a := by
  cases x with
  | error e => cases h
  | ok b => exact h

end

/-- Whether a member is a field of a record: its value is read, or stands for one that is left out. -/
def FieldOf (fields : List FieldReader) (p : String × Json) : Prop :=
  ∃ f ∈ fields, f.name = p.1 ∧ (f.absent.value? = some p.2 ∨ ∃ d s s', f.read d s = .ok (p.2, s'))

section
variable {fields rest : List FieldReader} {found ms : List (String × Json)} {v : Json} {d i : Nat} {s s' : Source}

theorem wrongTypeAhead_ne_ok {expected : String} {r : Json × Source} : wrongTypeAhead expected s ≠ .ok r := by
  intro h
  unfold wrongTypeAhead at h
  split at h
  · cases h
  · cases h
  · split at h <;> cases h

theorem exists_of_fill {f : FieldReader} (h : fill found (f :: rest) = .ok ms) :
    ∃ v ms', ms = (f.name, v) :: ms' ∧ fill found rest = .ok ms' ∧
      (lookup f.name found = some v ∨ f.absent.value? = some v) := by
  rw [fill] at h
  cases hlookup : lookup f.name found with
  | some v =>
    simp only [hlookup] at h
    obtain ⟨ms', hrest, hms⟩ := exists_of_map h
    exact ⟨v, ms', hms.symm, hrest, .inl rfl⟩
  | none =>
    cases habsent : f.absent with
    | required =>
      simp only [hlookup, habsent] at h
      cases h
    | default v =>
      simp only [hlookup, habsent] at h
      obtain ⟨ms', hrest, hms⟩ := exists_of_map h
      exact ⟨v, ms', hms.symm, hrest, .inr rfl⟩
    | null =>
      simp only [hlookup, habsent] at h
      obtain ⟨ms', hrest, hms⟩ := exists_of_map h
      exact ⟨.null, ms', hms.symm, hrest, .inr rfl⟩

theorem fieldOf_of_fill (hfound : ∀ p ∈ found, FieldOf fields p) (hrest : ∀ f ∈ rest, f ∈ fields)
    (h : fill found rest = .ok ms) : ∀ p ∈ ms, FieldOf fields p := by
  induction rest generalizing ms with
  | nil =>
    cases h
    simp
  | cons f rest ih =>
    obtain ⟨hf, hrest⟩ := List.forall_mem_cons.1 hrest
    obtain ⟨v, ms, rfl, hms, hv⟩ := exists_of_fill h
    refine List.forall_mem_cons.2 ⟨?_, ih hrest hms⟩
    rcases hv with hlookup | habsent
    · exact hfound _ (mem_of_lookup hlookup)
    · exact ⟨f, hf, rfl, .inl habsent⟩

theorem fieldOf_of_readMember {found' : List (String × Json)} {k : String} (hfound : ∀ p ∈ found, FieldOf fields p)
    (h : readMember fields d found k s = .ok (found', s')) : ∀ p ∈ found', FieldOf fields p := by
  unfold readMember at h
  split at h
  · obtain ⟨_, -, h⟩ := exists_of_bind h
    obtain ⟨_, -, h⟩ := exists_of_bind h
    cases h
    exact hfound
  · next f hfind =>
    split at h
    · cases h
    · obtain ⟨_, -, h⟩ := exists_of_bind h
      obtain ⟨q, hread, h⟩ := exists_of_bind h
      cases h
      have hname : f.name = k := by simpa using List.find?_some hfind
      exact List.forall_mem_cons.2
        ⟨⟨f, List.mem_of_find?_eq_some hfind, hname, .inr ⟨_, _, _, ok_of_under hread⟩⟩, hfound⟩

theorem fieldOf_of_readFieldItems {expected : String} (hrest : ∀ f ∈ rest, f ∈ fields)
    (h : readFieldItems expected d rest i s = .ok (ms, s')) : ∀ p ∈ ms, FieldOf fields p := by
  induction rest generalizing i s ms with
  | nil =>
    cases h
    simp
  | cons f rest ih =>
    obtain ⟨hf, hrest⟩ := List.forall_mem_cons.1 hrest
    rw [readFieldItems] at h
    obtain ⟨o, -, h⟩ := exists_of_bind h
    cases o with
    | some s₁ =>
      obtain ⟨q, hread, h⟩ := exists_of_bind h
      obtain ⟨r, hitems, h⟩ := exists_of_bind h
      cases h
      exact List.forall_mem_cons.2 ⟨⟨f, hf, rfl, .inr ⟨_, _, _, ok_of_under hread⟩⟩, ih hrest hitems⟩
    | none =>
      cases habsent : f.absent with
      | default j =>
        simp only [habsent] at h
        obtain ⟨r, hitems, h⟩ := exists_of_bind h
        cases h
        exact List.forall_mem_cons.2 ⟨⟨f, hf, rfl, .inl (by rw [habsent]; rfl)⟩, ih hrest hitems⟩
      | required | null =>
        simp only [habsent] at h
        cases h

/-- A record is read from an object or from a list, and holds its fields only. -/
theorem exists_of_readRecord {name : String} (h : readRecord name fields d s = .ok (v, s')) :
    ∃ ms, v = .object ms ∧ ∀ p ∈ ms, FieldOf fields p := by
  unfold readRecord at h
  simp only at h
  split at h
  · split at h
    · cases h
    · obtain ⟨q, hitems, h⟩ := exists_of_bind h
      obtain ⟨_, -, h⟩ := exists_of_bind h
      cases h
      exact ⟨_, rfl, fieldOf_of_readFieldItems (fun _ hf => hf) (ok_of_settle hitems)⟩
  · split at h
    · cases h
    · obtain ⟨⟨found, s₁⟩, hmembers, h⟩ := exists_of_bind (ok_of_settle h)
      have hfound : ∀ p ∈ found, FieldOf fields p :=
        of_readMembers_of_step (P := fun found => ∀ p ∈ found, FieldOf fields p) fieldOf_of_readMember (by simp) hmembers
      simp only at h
      split at h
      · next ms hfill =>
        cases h
        exact ⟨ms, rfl, fieldOf_of_fill hfound (fun _ hf => hf) hfill⟩
      · cases h
  · cases h
  · exact absurd h wrongTypeAhead_ne_ok

/-- A table is sorted by key. -/
theorem exists_of_readTable {item : Nat → Source → Except Stop (Json × Source)} (h : readTable item d s = .ok (v, s')) :
    ∃ ms, v = .object ms ∧ Sorted ms := by
  unfold readTable at h
  simp only at h
  split at h
  · split at h
    · cases h
    · obtain ⟨q, hobject, h⟩ := exists_of_bind (ok_of_settle h)
      cases h
      refine ⟨_, rfl, ?_⟩
      unfold readObject at hobject
      split at hobject
      · cases hobject
      · next hmembers =>
        cases hobject
        refine of_readMembers_of_step (P := Sorted) ?_ .nil hmembers
        intro st k s st' s' hst hmember
        obtain ⟨_, -, hmember⟩ := exists_of_bind hmember
        obtain ⟨_, -, hmember⟩ := exists_of_bind hmember
        cases hmember
        exact sorted_insert hst
  · cases h
  · exact absurd h wrongTypeAhead_ne_ok

end

theorem exists_of_parse {α : Type} [Form α] {text : String} {a : α} (h : Form.parse α text = .ok a) :
    ∃ v s s', (Form.shape α).read depthLimit s = .ok (v, s') ∧ ofJson? v = some a := by
  obtain ⟨v, hshape, htake⟩ := exists_of_bind h
  obtain ⟨s', hread⟩ := ok_of_readEnd hshape
  refine ⟨v, _, s', hread, ?_⟩
  unfold Form.take at htake
  split at htake
  · next hback =>
    cases htake
    exact hback
  · cases htake

end BuildLoop.Json
