import BuildLoop.Text.Mark

/-!
# Composition

A character may be composed of another and a mark, and a syllable of Hangul of two or three letters.
The composed form of a text takes every character apart, puts its marks in the order of their
classes and composes what can be composed, so that texts which differ in that alone become one.

    (ordered cs).Perm cs                                                       (ordered_perm)

A character that never comes about by composition is left as it is.
-/

namespace BuildLoop.Text

/-! ## Table -/

/-- Marks, and for each the characters that it composes with, followed by what they compose. -/
def compositionRows : List (Nat × String) := [
  (0x300, "AÀ EÈ IÌ NǸ OÒ UÙ WẀ YỲ aà eè iì nǹ oò uù wẁ yỳ ¨῭ ÂẦ ÊỀ ÔỒ ÜǛ âầ êề ôồ üǜ"),
  (0x300, "ĂẰ ăằ ĒḔ ēḕ ŌṐ ōṑ ƠỜ ơờ ƯỪ ưừ ΑᾺ ΕῈ ΗῊ ΙῚ ΟῸ ΥῪ ΩῺ αὰ εὲ ηὴ ιὶ οὸ υὺ ωὼ ϊῒ"),
  (0x300, "ϋῢ ЕЀ ИЍ еѐ иѝ ἀἂ ἁἃ ἈἊ ἉἋ ἐἒ ἑἓ ἘἚ ἙἛ ἠἢ ἡἣ ἨἪ ἩἫ ἰἲ ἱἳ ἸἺ ἹἻ ὀὂ ὁὃ ὈὊ ὉὋ"),
  (0x300, "ὐὒ ὑὓ ὙὛ ὠὢ ὡὣ ὨὪ ὩὫ ᾿῍ ῾῝"),
  (0x301, "AÁ CĆ EÉ GǴ IÍ KḰ LĹ MḾ NŃ OÓ PṔ RŔ SŚ UÚ WẂ YÝ ZŹ aá cć eé gǵ ií kḱ lĺ mḿ"),
  (0x301, "nń oó pṕ rŕ sś uú wẃ yý zź ¨΅ ÂẤ ÅǺ ÆǼ ÇḈ ÊẾ ÏḮ ÔỐ ÕṌ ØǾ ÜǗ âấ åǻ æǽ çḉ êế"),
  (0x301, "ïḯ ôố õṍ øǿ üǘ ĂẮ ăắ ĒḖ ēḗ ŌṒ ōṓ ŨṸ ũṹ ƠỚ ơớ ƯỨ ưứ ΑΆ ΕΈ ΗΉ ΙΊ ΟΌ ΥΎ ΩΏ αά"),
  (0x301, "εέ ηή ιί οό υύ ωώ ϊΐ ϋΰ ϒϓ ГЃ КЌ гѓ кќ ἀἄ ἁἅ ἈἌ ἉἍ ἐἔ ἑἕ ἘἜ ἙἝ ἠἤ ἡἥ ἨἬ ἩἭ"),
  (0x301, "ἰἴ ἱἵ ἸἼ ἹἽ ὀὄ ὁὅ ὈὌ ὉὍ ὐὔ ὑὕ ὙὝ ὠὤ ὡὥ ὨὬ ὩὭ ᾿῎ ῾῞"),
  (0x302, "AÂ CĈ EÊ GĜ HĤ IÎ JĴ OÔ SŜ UÛ WŴ YŶ ZẐ aâ cĉ eê gĝ hĥ iî jĵ oô sŝ uû wŵ yŷ"),
  (0x302, "zẑ ẠẬ ạậ ẸỆ ẹệ ỌỘ ọộ"),
  (0x303, "AÃ EẼ IĨ NÑ OÕ UŨ VṼ YỸ aã eẽ iĩ nñ oõ uũ vṽ yỹ ÂẪ ÊỄ ÔỖ âẫ êễ ôỗ ĂẴ ăẵ ƠỠ"),
  (0x303, "ơỡ ƯỮ ưữ"),
  (0x304, "AĀ EĒ GḠ IĪ OŌ UŪ YȲ aā eē gḡ iī oō uū yȳ ÄǞ ÆǢ ÕȬ ÖȪ ÜǕ äǟ æǣ õȭ öȫ üǖ ǪǬ"),
  (0x304, "ǫǭ ȦǠ ȧǡ ȮȰ ȯȱ ΑᾹ ΙῙ ΥῩ αᾱ ιῑ υῡ ИӢ УӮ иӣ уӯ ḶḸ ḷḹ ṚṜ ṛṝ"),
  (0x306, "AĂ EĔ GĞ IĬ OŎ UŬ aă eĕ gğ iĭ oŏ uŭ ȨḜ ȩḝ ΑᾸ ΙῘ ΥῨ αᾰ ιῐ υῠ АӐ ЕӖ ЖӁ ИЙ УЎ"),
  (0x306, "аӑ еӗ жӂ ий уў ẠẶ ạặ"),
  (0x307, "AȦ BḂ CĊ DḊ EĖ FḞ GĠ HḢ Iİ MṀ NṄ OȮ PṖ RṘ SṠ TṪ WẆ XẊ YẎ ZŻ aȧ bḃ cċ dḋ eė"),
  (0x307, "fḟ gġ hḣ mṁ nṅ oȯ pṗ rṙ sṡ tṫ wẇ xẋ yẏ zż ŚṤ śṥ ŠṦ šṧ ſẛ ṢṨ ṣṩ 𐗒𐗉 𐗚𐗤"),
  (0x308, "AÄ EË HḦ IÏ OÖ UÜ WẄ XẌ YŸ aä eë hḧ iï oö tẗ uü wẅ xẍ yÿ ÕṎ õṏ ŪṺ ūṻ ΙΪ ΥΫ"),
  (0x308, "ιϊ υϋ ϒϔ ІЇ АӒ ЕЁ ЖӜ ЗӞ ИӤ ОӦ УӰ ЧӴ ЫӸ ЭӬ аӓ её жӝ зӟ иӥ оӧ уӱ чӵ ыӹ эӭ ії"),
  (0x308, "ӘӚ әӛ ӨӪ өӫ"),
  (0x309, "AẢ EẺ IỈ OỎ UỦ YỶ aả eẻ iỉ oỏ uủ yỷ ÂẨ ÊỂ ÔỔ âẩ êể ôổ ĂẲ ăẳ ƠỞ ơở ƯỬ ưử"),
  (0x30a, "AÅ UŮ aå uů wẘ yẙ"), (0x30b, "OŐ UŰ oő uű УӲ уӳ"),
  (0x30c, "AǍ CČ DĎ EĚ GǦ HȞ IǏ KǨ LĽ NŇ OǑ RŘ SŠ TŤ UǓ ZŽ aǎ cč dď eě gǧ hȟ iǐ jǰ kǩ"),
  (0x30c, "lľ nň oǒ rř sš tť uǔ zž ÜǙ üǚ ƷǮ ʒǯ"),
  (0x30f, "AȀ EȄ IȈ OȌ RȐ UȔ aȁ eȅ iȉ oȍ rȑ uȕ ѴѶ ѵѷ"),
  (0x311, "AȂ EȆ IȊ OȎ RȒ UȖ aȃ eȇ iȋ oȏ rȓ uȗ"),
  (0x313, "ΑἈ ΕἘ ΗἨ ΙἸ ΟὈ ΩὨ αἀ εἐ ηἠ ιἰ οὀ ρῤ υὐ ωὠ"),
  (0x314, "ΑἉ ΕἙ ΗἩ ΙἹ ΟὉ ΡῬ ΥὙ ΩὩ αἁ εἑ ηἡ ιἱ οὁ ρῥ υὑ ωὡ"), (0x31b, "OƠ UƯ oơ uư"),
  (0x323, "AẠ BḄ DḌ EẸ HḤ IỊ KḲ LḶ MṂ NṆ OỌ RṚ SṢ TṬ UỤ VṾ WẈ YỴ ZẒ aạ bḅ dḍ eẹ hḥ iị"),
  (0x323, "kḳ lḷ mṃ nṇ oọ rṛ sṣ tṭ uụ vṿ wẉ yỵ zẓ ƠỢ ơợ ƯỰ ưự"), (0x324, "UṲ uṳ"),
  (0x325, "AḀ aḁ"), (0x326, "SȘ TȚ sș tț"),
  (0x327, "CÇ DḐ EȨ GĢ HḨ KĶ LĻ NŅ RŖ SŞ TŢ cç dḑ eȩ gģ hḩ kķ lļ nņ rŗ sş tţ"),
  (0x328, "AĄ EĘ IĮ OǪ UŲ aą eę iį oǫ uų"), (0x32d, "DḒ EḘ LḼ NṊ TṰ UṶ dḓ eḙ lḽ nṋ tṱ uṷ"),
  (0x32e, "HḪ hḫ"), (0x330, "EḚ IḬ UṴ eḛ iḭ uṵ"),
  (0x331, "BḆ DḎ KḴ LḺ NṈ RṞ TṮ ZẔ bḇ dḏ hẖ kḵ lḻ nṉ rṟ tṯ zẕ"),
  (0x338, "<≮ =≠ >≯ ←↚ →↛ ↔↮ ⇐⇍ ⇒⇏ ⇔⇎ ∃∄ ∈∉ ∋∌ ∣∤ ∥∦ ∼≁ ≃≄ ≅≇ ≈≉ ≍≭ ≡≢ ≤≰ ≥≱ ≲≴ ≳≵ ≶≸"),
  (0x338, "≷≹ ≺⊀ ≻⊁ ≼⋠ ≽⋡ ⊂⊄ ⊃⊅ ⊆⊈ ⊇⊉ ⊑⋢ ⊒⋣ ⊢⊬ ⊨⊭ ⊩⊮ ⊫⊯ ⊲⋪ ⊳⋫ ⊴⋬ ⊵⋭"),
  (0x342, "¨῁ αᾶ ηῆ ιῖ υῦ ωῶ ϊῗ ϋῧ ἀἆ ἁἇ ἈἎ ἉἏ ἠἦ ἡἧ ἨἮ ἩἯ ἰἶ ἱἷ ἸἾ ἹἿ ὐὖ ὑὗ ὙὟ ὠὦ ὡὧ"),
  (0x342, "ὨὮ ὩὯ ᾿῏ ῾῟"),
  (0x345, "Αᾼ Ηῌ Ωῼ άᾴ ήῄ αᾳ ηῃ ωῳ ώῴ ἀᾀ ἁᾁ ἂᾂ ἃᾃ ἄᾄ ἅᾅ ἆᾆ ἇᾇ Ἀᾈ Ἁᾉ Ἂᾊ Ἃᾋ Ἄᾌ Ἅᾍ Ἆᾎ Ἇᾏ"),
  (0x345, "ἠᾐ ἡᾑ ἢᾒ ἣᾓ ἤᾔ ἥᾕ ἦᾖ ἧᾗ Ἠᾘ Ἡᾙ Ἢᾚ Ἣᾛ Ἤᾜ Ἥᾝ Ἦᾞ Ἧᾟ ὠᾠ ὡᾡ ὢᾢ ὣᾣ ὤᾤ ὥᾥ ὦᾦ ὧᾧ Ὠᾨ"),
  (0x345, "Ὡᾩ Ὢᾪ Ὣᾫ Ὤᾬ Ὥᾭ Ὦᾮ Ὧᾯ ὰᾲ ὴῂ ὼῲ ᾶᾷ ῆῇ ῶῷ"), (0x653, "اآ"), (0x654, "اأ وؤ يئ ہۂ ےۓ ەۀ"),
  (0x655, "اإ"), (0x93c, "नऩ रऱ ळऴ"), (0x9be, "েো"), (0x9d7, "েৌ"), (0xb3e, "େୋ"), (0xb56, "େୈ"),
  (0xb57, "େୌ"), (0xbbe, "ெொ ேோ"), (0xbd7, "ஒஔ ெௌ"), (0xc56, "ెై"), (0xcc2, "ೆೊ"),
  (0xcd5, "ಿೀ ೆೇ ೊೋ"), (0xcd6, "ೆೈ"), (0xd3e, "െൊ േോ"), (0xd57, "െൌ"), (0xdca, "ෙේ ොෝ"),
  (0xdcf, "ෙො"), (0xddf, "ෙෞ"), (0x102e, "ဥဦ"), (0x1b35, "ᬅᬆ ᬇᬈ ᬉᬊ ᬋᬌ ᬍᬎ ᬑᬒ ᬺᬻ ᬼᬽ ᬾᭀ ᬿᭁ ᭂᭃ"),
  (0x3099, "うゔ かが きぎ くぐ けげ こご さざ しじ すず せぜ そぞ ただ ちぢ つづ てで とど はば ひび ふぶ へべ ほぼ ゝゞ ウヴ カガ キギ"),
  (0x3099, "クグ ケゲ コゴ サザ シジ スズ セゼ ソゾ タダ チヂ ツヅ テデ トド ハバ ヒビ フブ ヘベ ホボ ワヷ ヰヸ ヱヹ ヲヺ ヽヾ"),
  (0x309a, "はぱ ひぴ ふぷ へぺ ほぽ ハパ ヒピ フプ ヘペ ホポ"), (0x110ba, "𑂙𑂚 𑂛𑂜 𑂥𑂫"), (0x11127, "𑄱𑄮 𑄲𑄯"),
  (0x1133e, "𑍇𑍋"), (0x11357, "𑍇𑍌"), (0x113b8, "𑏅𑎸"), (0x113bb, "𑎄𑎅"), (0x113c2, "𑎋𑎎 𑏅𑏂"),
  (0x113c9, "𑎂𑎃 𑎐𑎑 𑏅𑏉"), (0x114b0, "𑒹𑒼"), (0x114ba, "𑒹𑒻"), (0x114bd, "𑒹𑒾"), (0x115af, "𑖸𑖺 𑖹𑖻"),
  (0x11930, "𑤵𑤸"), (0x1611e, "𖄡𖄞"), (0x1611f, "𖄦 𖄡𖄦 𖄢𖄧 𖄩𖄤"), (0x16120, "𖄨 𖄡𖄨"),
  (0x16129, "𖄡𖄩"), (0x16d67, "𖵣𖵩 𖵨𖵧 𖵩𖵪")]

/-- A character composed of two. -/
structure Composite where
  base : Char
  mark : Char
  whole : Char

/-- The composites of a row: a base and a whole, then a blank. -/
def compositesOf (mark : Char) : List Char → List Composite
  | base :: whole :: ' ' :: r => ⟨base, mark, whole⟩ :: compositesOf mark r
  | [base, whole] => [⟨base, mark, whole⟩]
  | _ => []

/-- All composites, the syllables of Hangul apart. -/
def composites : List Composite :=
  compositionRows.flatMap fun r => compositesOf (Char.ofNat r.1) r.2.toList

/-! ## Syllables -/

/-- The letters of a syllable: there are 19 leads, and for each lead 21 vowels, and for each vowel 27
tails or none. -/
def syllableLetters? (c : Char) : Option (List Char) :=
  let n := c.toNat - 0xac00
  if 0xac00 ≤ c.toNat && n < 11172 then
    let front := [Char.ofNat (0x1100 + n / 588), Char.ofNat (0x1161 + n % 588 / 28)]
    some (if n % 28 = 0 then front else front ++ [Char.ofNat (0x11a7 + n % 28)])
  else none

/-- The syllable of a lead and a vowel, or of a syllable without a tail and a tail. -/
def syllable? (a b : Char) : Option Char :=
  let lead := a.toNat - 0x1100
  let vowel := b.toNat - 0x1161
  let front := a.toNat - 0xac00
  let tail := b.toNat - 0x11a7
  if 0x1100 ≤ a.toNat && lead < 19 && 0x1161 ≤ b.toNat && vowel < 21 then
    some (Char.ofNat (0xac00 + 588 * lead + 28 * vowel))
  else if 0xac00 ≤ a.toNat && front < 11172 && front % 28 == 0 && 0x11a7 < b.toNat &&
      tail < 28 then
    some (Char.ofNat (a.toNat + tail))
  else none

/-! ## Taking apart -/

/-- The parts of a character, if it is taken apart at most so often. -/
def partsWithin : Nat → Char → List Char
  | 0, c => [c]
  | n + 1, c =>
    match composites.find? (·.whole == c) with
    | some p => partsWithin n p.base ++ [p.mark]
    | none => [c]

/-- The parts of a character. No character has more than four. -/
def parts (c : Char) : List Char := (syllableLetters? c).getD (partsWithin 3 c)

/-! ## Order -/

/-- Puts a character behind those before it, nearest first; a mark moves past marks of higher
classes. -/
def settle (c : Char) : List Char → List Char
  | [] => [c]
  | d :: r =>
    if combiningClass c ≠ 0 && combiningClass c < combiningClass d then d :: settle c r
    else c :: d :: r

/-- The text with its marks in the order of their classes. -/
def ordered (cs : List Char) : List Char := (cs.foldl (fun before c => settle c before) []).reverse

/-! ## Composing -/

/-- What two characters compose. -/
def compose? (a b : Char) : Option Char :=
  match syllable? a b with
  | some c => some c
  | none => (composites.find? fun p => p.base == a && p.mark == b).map (·.whole)

/-- Composes a text behind the starter `s` and the marks that it keeps; these and what is `done` are
last first. A mark goes past those that are kept if its class is higher. -/
def composeFrom (done : List Char) (s : Char) (kept : List Char) : List Char → List Char
  | [] => (kept ++ s :: done).reverse
  | c :: r =>
    let isCut := kept.head?.any fun m => combiningClass c ≤ combiningClass m
    match if isCut then none else compose? s c with
    | some t => composeFrom done t kept r
    | none =>
      if combiningClass c = 0 then composeFrom (kept ++ s :: done) c [] r
      else composeFrom done s (c :: kept) r

/-- The composed form of a text. -/
def composed (cs : List Char) : List Char :=
  let apart := ordered (cs.flatMap parts)
  let (marks, rest) := apart.span fun c => combiningClass c ≠ 0
  match rest with
  | [] => marks
  | s :: r => composeFrom marks.reverse s [] r

/-! ## Lemmas -/

theorem settle_perm (c : Char) (cs : List Char) : (settle c cs).Perm (c :: cs) := by
  induction cs with
  | nil => exact List.Perm.refl _
  | cons d r ih =>
    unfold settle
    split
    · exact (ih.cons d).trans (List.Perm.swap c d r)
    · exact List.Perm.refl _

theorem foldl_settle_perm (cs before : List Char) :
    (cs.foldl (fun before c => settle c before) before).Perm (cs.reverse ++ before) := by
  induction cs generalizing before with
  | nil => exact List.Perm.refl _
  | cons c r ih =>
    simp only [List.foldl_cons, List.reverse_cons, List.append_assoc, List.singleton_append]
    exact (ih _).trans ((settle_perm c before).append_left _)

/-- Ordering loses no character and adds none. -/
theorem ordered_perm (cs : List Char) : (ordered cs).Perm cs := by
  have h := foldl_settle_perm cs []
  rw [List.append_nil] at h
  exact ((List.reverse_perm _).trans h).trans (List.reverse_perm _)

end BuildLoop.Text
