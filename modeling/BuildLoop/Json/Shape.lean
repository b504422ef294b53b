import BuildLoop.Json.Source

/-!
# Shapes

A shape says which JSON values stand for the values of a type. Reading by a shape checks the text
as it goes and answers the value with every field of every record in its declared order, fields
that were left out filled in.

A record may be written as an object, members in any order and unknown ones ignored, or as a list of
its fields in order. Where a text breaks two rules, the one met first is reported: a field of the
wrong shape before a bracket that is missing further on.

    Shape.read (optional s) = null or Shape.read s          an absent value may be written as null
-/

namespace BuildLoop.Json

/-- What a record does about a field that is left out. -/
inductive Absent where
  /-- The field has to be there. -/
  | required
  /-- The field has this value. -/
  | default (value : Json)
  /-- The field is null; in the list form it has to be there. -/
  | null

mutual

/-- Which JSON values stand for the values of a type. -/
inductive Shape where
  | text
  /-- A natural number below a bound; the name of its type is for messages. -/
  | natural (typeName : String) (bound : Nat)
  /-- A number of 32 bits. -/
  | real
  | optional (s : Shape)
  | list (s : Shape)
  /-- An object with any keys. -/
  | table (s : Shape)
  | record (name : String) (fields : Fields)
  /-- One of several names. -/
  | choice (variants : List String)
  /-- A record that says by the member `tag` which of several it is. -/
  | tagged (name tag : String) (cases : Cases)
  /-- An object with a member that names the case and one that holds it. -/
  | adjacent (name tag content : String) (options : Options)

/-- The fields of a record. -/
inductive Fields where
  | nil
  | cons (name : String) (shape : Shape) (absent : Absent) (rest : Fields)

/-- The records of a tagged shape: the name in the text, the name in messages, the fields. -/
inductive Cases where
  | nil
  | cons (name full : String) (fields : Fields) (rest : Cases)

/-- The shapes behind the names of an adjacent shape. -/
inductive Options where
  | nil
  | cons (name : String) (shape : Shape) (rest : Options)

end

/-- The fields given in order. -/
def Fields.ofList : List (String × Shape × Absent) → Fields
  | [] => .nil
  | (n, s, a) :: r => .cons n s a (ofList r)

/-! ## Messages -/

/-- What a value is called in a message. -/
def called : Json → String
  | .null => "null"
  | .bool b => "boolean `" ++ (if b then "true" else "false") ++ "`"
  | .number (.whole n) => "integer `" ++ toString n ++ "`"
  | .number (.real b) => "floating point `" ++ b.text ++ "`"
  | .text s => "string " ++ Text.quoted s
  | .list _ => "sequence"
  | .object _ => "map"

/-- The message that a value is of the wrong type. -/
def wrongType (found expected : String) : String :=
  "invalid type: " ++ found ++ ", expected " ++ expected

/-- The message that a number is out of its type's range. -/
def wrongValue (n : Int) (expected : String) : String :=
  "invalid value: integer `" ++ toString n ++ "`, expected " ++ expected

/-- A count of elements. -/
def elements (n : Nat) : String := toString n ++ (if n = 1 then " element" else " elements")

/-- The message that a list has too few or too many items. -/
def wrongLength (n : Nat) (expected : String) : String :=
  "invalid length " ++ toString n ++ ", expected " ++ expected

/-- The message that a name is none of the variants. -/
def unknownVariant (name : String) (variants : List String) : String :=
  let quote (v : String) := "`" ++ v ++ "`"
  "unknown variant " ++ quote name ++ ", expected " ++
    match variants with
    | [a] => quote a
    | [a, b] => quote a ++ " or " ++ quote b
    | _ => "one of " ++ ", ".intercalate (variants.map quote)

/-- Stops at a value of the wrong type, which lies ahead. -/
def wrongTypeAhead {α : Type} (expected : String) (s : Source) : Except Stop α :=
  match s.rest with
  | '[' :: _ => wrongShape (wrongType "sequence" expected) s.mark
  | '\x7b' :: _ => wrongShape (wrongType "map" expected) s.mark
  | _ =>
    match readScalar s with
    | .error e => .error e
    | .ok (j, s) => wrongShape (wrongType (called j) expected) s.mark

/-! ## Simple values -/

/-- Reads a string. -/
def readString (expected : String) (s : Source) : Read String :=
  let s := s.skip
  match s.rest with
  | '"' :: _ => readText s.drop
  | [] => cutShort "EOF while parsing a value" s.mark
  | _ => wrongTypeAhead expected s

/-- A number that is natural and below the bound, or what is wrong with it. -/
def checkNatural (typeName : String) (bound : Nat) : Json → Except String Json
  | .number (.whole n) =>
    if 0 ≤ n ∧ n < bound then .ok (.number (.whole n)) else .error (wrongValue n typeName)
  | j => .error (wrongType (called j) typeName)

/-- A number of 32 bits, or what is wrong with it. What is beyond the largest one is null. -/
def checkReal : Json → Except String Json
  | .number (.whole n) =>
    let b := Number.Binary.ofNat .single (n < 0) n.natAbs
    .ok ((b.map fun b => .number (.real b)).getD .null)
  | .number (.real b) => .ok (((b.narrow .single).map fun b => .number (.real b)).getD .null)
  | j => .error (wrongType (called j) "f32")

/-- Reads a number and checks it. -/
def readChecked (expected : String) (check : Json → Except String Json) (s : Source) : Read Json :=
  let s := s.skip
  let checked (r : Read Json.Number) : Read Json :=
    match r with
    | .error e => .error e
    | .ok (n, s) =>
      match check (.number n) with
      | .ok j => .ok (j, s)
      | .error m => wrongShape m s.mark
  match s.rest with
  | '-' :: _ => checked (readNumber true s.drop)
  | [] => cutShort "EOF while parsing a value" s.mark
  | c :: _ => if c.isDigit then checked (readNumber false s) else wrongTypeAhead expected s

/-- Reads a string that is one of the variants. -/
def readVariant (variants : List String) (s : Source) : Read String :=
  match readString "variant identifier" s with
  | .error e => .error e
  | .ok (v, s) =>
    if variants.contains v then .ok (v, s) else wrongShape (unknownVariant v variants) s.mark

/-- Reads a null. -/
def readUnit (s : Source) : Except Stop Source :=
  let s := s.skip
  match s.rest with
  | 'n' :: _ => readLetters s.drop ['u', 'l', 'l']
  | [] => cutShort "EOF while parsing a value" s.mark
  | _ => wrongTypeAhead "unit" s

/-- Reads the name of a variant as the only key of an object that holds null. -/
def readKeyedChoice (variants : List String) (s : Source) : Except Stop (String × Source) := do
  let (v, s) ← readVariant variants s.drop
  let s ← readColon s
  let s ← readUnit s
  match s.skip.rest with
  | '\x7d' :: _ => .ok (v, s.skip.drop)
  | [] => cutShort "EOF while parsing an object" s.skip.mark
  | _ => malformed "expected value" s.skip.mark

/-- Reads the name of a variant, by itself or as the only key of an object that holds null. -/
def readChoice (variants : List String) (depth : Nat) (s : Source) : Read String :=
  let s := s.skip
  match s.rest with
  | '"' :: _ => readVariant variants s
  | '\x7b' :: _ =>
    if depth = 0 then malformed "recursion limit exceeded" s.ahead else readKeyedChoice variants s
  | [] => cutShort "EOF while parsing a value" s.mark
  | _ => malformed "expected value" s.ahead

/-! ## Records -/

/-- How to read a field from the text, and how to take it from a value that was read before its
shape was known. -/
structure FieldReader where
  name : String
  absent : Absent
  read : Nat → Source → Except Stop (Json × Source)
  accept : Json → Except String Json

/-- The fields in order, those left out filled in, or the first that must not be left out. -/
def fill (found : List (String × Json)) : List FieldReader → Except String (List (String × Json))
  | [] => .ok []
  | f :: r =>
    match lookup f.name found, f.absent with
    | some j, _ => (fill found r).map ((f.name, j) :: ·)
    | none, .default j => (fill found r).map ((f.name, j) :: ·)
    | none, .null => (fill found r).map ((f.name, .null) :: ·)
    | none, .required => .error ("missing field `" ++ f.name ++ "`")

/-- Reads one member of a record. -/
def readMember (fields : List FieldReader) (depth : Nat) (found : List (String × Json))
    (key : String) (s : Source) : Except Stop (List (String × Json) × Source) :=
  match fields.find? (·.name == key) with
  | none => do
    let s ← readColon s
    let s ← under (.key key) (ignoreValue s)
    .ok (found, s)
  | some f =>
    if (lookup key found).isSome then loose ("duplicate field `" ++ key ++ "`") s
    else do
      let s ← readColon s
      let (j, s) ← under (.key key) (f.read depth s)
      .ok ((key, j) :: found, s)

/-- Reads a record from an object. -/
def readRecordObject (fields : List FieldReader) (depth : Nat) (s : Source) :
    Except Stop (Json × Source) :=
  settle closeObject do
    let (found, s) ← readMembers (readMember fields depth) s.drop.rest true [] s.drop
    match fill found fields with
    | .ok ms => .ok (.object ms, s.drop)
    | .error m => loose m s

/-- Reads the fields of a record from the items of a list. -/
def readFieldItems (expected : String) (depth : Nat) :
    List FieldReader → Nat → Source → Except Stop (List (String × Json) × Source)
  | [], _, s => .ok ([], s)
  | f :: r, i, s => do
    match ← readNext (i == 0) s with
    | some s =>
      let (j, s) ← under (.index i) (f.read depth s)
      let (ms, s) ← readFieldItems expected depth r (i + 1) s
      .ok ((f.name, j) :: ms, s)
    | none =>
      match f.absent with
      | .default j =>
        let (ms, s) ← readFieldItems expected depth r (i + 1) s
        .ok ((f.name, j) :: ms, s)
      | _ => loose (wrongLength i expected) s

/-- Reads a record from a list. -/
def readRecordList (expected : String) (fields : List FieldReader) (depth : Nat) (s : Source) :
    Except Stop (Json × Source) := do
  let (ms, s) ← settle closeList (readFieldItems expected depth fields 0 s.drop)
  let s ← endList s
  .ok (.object ms, s)

/-- Reads a record. -/
def readRecord (name : String) (fields : List FieldReader) (depth : Nat) (s : Source) :
    Except Stop (Json × Source) :=
  let s := s.skip
  match s.rest with
  | '[' :: _ =>
    if depth = 0 then malformed "recursion limit exceeded" s.ahead
    else
      readRecordList ("struct " ++ name ++ " with " ++ elements fields.length) fields (depth - 1) s
  | '\x7b' :: _ =>
    if depth = 0 then malformed "recursion limit exceeded" s.ahead
    else readRecordObject fields (depth - 1) s
  | [] => cutShort "EOF while parsing a value" s.mark
  | _ => wrongTypeAhead ("struct " ++ name) s

/-- Takes the members of a record from the members of an object read before. -/
def acceptMembers (fields : List FieldReader) (found : List (String × Json)) :
    List (String × Json) → Except String (List (String × Json))
  | [] => fill found fields
  | (key, j) :: r =>
    match fields.find? (·.name == key) with
    | none => acceptMembers fields found r
    | some f =>
      if (lookup key found).isSome then .error ("duplicate field `" ++ key ++ "`")
      else do
        let j ← f.accept j
        acceptMembers fields ((key, j) :: found) r

/-- Takes the fields of a record from the items of a list read before. -/
def acceptItems (expected : String) :
    List FieldReader → Nat → List Json → Except String (List (String × Json))
  | [], i, items =>
    if items.isEmpty then .ok []
    else .error (wrongLength (i + items.length) (elements i ++ " in sequence"))
  | f :: r, i, j :: items => do
    let j ← f.accept j
    let ms ← acceptItems expected r (i + 1) items
    .ok ((f.name, j) :: ms)
  | f :: r, i, [] =>
    match f.absent with
    | .default j => do
      let ms ← acceptItems expected r (i + 1) []
      .ok ((f.name, j) :: ms)
    | _ => .error (wrongLength i expected)

/-- Takes a record from a value read before. -/
def acceptRecord (name : String) (fields : List FieldReader) : Json → Except String Json
  | .object ms => (acceptMembers fields [] ms).map .object
  | .list items =>
    (acceptItems (name ++ " with " ++ elements fields.length) fields 0 items).map .object
  | j => .error (wrongType (called j) name)

/-! ## Cases -/

/-- A case of a tagged shape. -/
structure CaseReader where
  name : String
  full : String
  fields : List FieldReader

/-- Takes a case from the value that was read beside its tag. -/
def acceptCase (tag : String) (cases : List CaseReader) (variant : String) (content : Json)
    (s : Source) : Except Stop (Json × Source) :=
  match cases.find? (·.name == variant) with
  | none => loose (unknownVariant variant (cases.map (·.name))) s
  | some c =>
    match acceptRecord ("struct variant " ++ c.full) c.fields content with
    | .ok (.object ms) => .ok (.object ((tag, .text variant) :: ms), s)
    | .ok j => .ok (j, s)
    | .error m => loose m s

/-- Reads one member of a tagged record: its tag, or a value whose shape the tag will tell. -/
def readTaggedMember (tag : String) (variants : List String) (depth : Nat)
    (st : Option String × List (String × Json)) (key : String) (s : Source) :
    Except Stop ((Option String × List (String × Json)) × Source) :=
  if key = tag then
    if st.1.isSome then loose ("duplicate field `" ++ tag ++ "`") s
    else do
      let s ← readColon s
      let (v, s) ← under (.key key) (readVariant variants s)
      .ok ((some v, st.2), s)
  else do
    let s ← readColon s
    let (j, s) ← under (.key key) (readAny .all depth s)
    .ok ((st.1, (key, j) :: st.2), s)

/-- Reads a record that is told apart by its tag. -/
def readTagged (name tag : String) (cases : List CaseReader) (depth : Nat) (s : Source) :
    Except Stop (Json × Source) :=
  let s := s.skip
  let variants := cases.map (·.name)
  match s.rest with
  | '\x7b' :: _ =>
    if depth = 0 then malformed "recursion limit exceeded" s.ahead
    else do
      let (v, ms, s) ← settle closeObject do
        let ((v, ms), s) ←
          readMembers (readTaggedMember tag variants (depth - 1)) s.drop.rest true (none, []) s.drop
        match v with
        | some v => pure (v, ms, s.drop)
        | none => loose ("missing field `" ++ tag ++ "`") s
      acceptCase tag cases v (.object ms.reverse) s
  | '[' :: _ =>
    if depth = 0 then malformed "recursion limit exceeded" s.ahead
    else do
      let (v, items, s) ← settle closeList do
        match ← readNext true s.drop with
        | none => loose ("missing field `" ++ tag ++ "`") s.drop.skip
        | some s =>
          let (v, s) ← under (.index 0) (readVariant variants s)
          let item (_ : Nat) (s : Source) : Read Json := readAny .all (depth - 1) s
          let (items, s) ← readItems item s.rest 1 [] s
          pure (v, items, s)
      let s ← endList s
      acceptCase tag cases v (.list items) s
  | [] => cutShort "EOF while parsing a value" s.mark
  | _ => wrongTypeAhead ("internally tagged enum " ++ name) s

/-- What was read of an object whose one member names the shape of another. -/
inductive Adjacent where
  | nothing
  | tag (variant : String)
  | content (value : Json)
  | both (variant : String) (value : Json)

/-- Reads one member of an adjacent shape. -/
def readAdjacentMember (tag content : String) (options : List FieldReader) (depth : Nat)
    (st : Adjacent) (key : String) (s : Source) : Except Stop (Adjacent × Source) :=
  let variants := options.map (·.name)
  let duplicate : Except Stop (Adjacent × Source) := loose ("duplicate field `" ++ key ++ "`") s
  if key = tag then
    match st with
    | .tag _ => duplicate
    | .both .. => duplicate
    | .nothing => do
      let s ← readColon s
      let (v, s) ← readChoice variants depth s
      .ok (.tag v, s)
    | .content j => do
      let s ← readColon s
      let (v, s) ← readChoice variants depth s
      match options.find? (·.name == v) with
      | none => loose (unknownVariant v variants) s
      | some f =>
        match f.accept j with
        | .ok j => .ok (.both v j, s)
        | .error m => loose m s
  else if key = content then
    match st with
    | .content _ => duplicate
    | .both .. => duplicate
    | .nothing => do
      let s ← readColon s
      let (j, s) ← readAny .all depth s
      .ok (.content j, s)
    | .tag v => do
      let s ← readColon s
      match options.find? (·.name == v) with
      | none => loose (unknownVariant v variants) s
      | some f =>
        let (j, s) ← f.read depth s
        .ok (.both v j, s)
  else do
    let s ← readColon s
    let s ← ignoreValue s
    .ok (st, s)

/-- Reads an object whose one member names the shape of another. -/
def readAdjacent (name tag content : String) (options : List FieldReader) (depth : Nat)
    (s : Source) : Except Stop (Json × Source) :=
  let s := s.skip
  let result (v : String) (j : Json) : Json := .object [(tag, .text v), (content, j)]
  match s.rest with
  | '\x7b' :: _ =>
    if depth = 0 then malformed "recursion limit exceeded" s.ahead
    else settle closeObject do
      let (st, s) ← readMembers (readAdjacentMember tag content options (depth - 1)) s.drop.rest
        true .nothing s.drop
      match st with
      | .both v j => .ok (result v j, s.drop)
      | .tag _ => loose ("missing field `" ++ content ++ "`") s
      | _ => loose ("missing field `" ++ tag ++ "`") s
  | '[' :: _ =>
    if depth = 0 then malformed "recursion limit exceeded" s.ahead
    else do
      let expected := "adjacently tagged enum " ++ name
      let (j, s) ← settle closeList do
        match ← readNext true s.drop with
        | none => loose (wrongLength 0 expected) s.drop.skip
        | some s =>
          let (v, s) ← readVariant (options.map (·.name)) s
          match ← readNext false s with
          | none => loose (wrongLength 1 expected) s.skip
          | some s =>
            match options.find? (·.name == v) with
            | none => loose (unknownVariant v (options.map (·.name))) s
            | some f =>
              let (j, s) ← f.read (depth - 1) s
              pure (result v j, s)
      let s ← endList s
      .ok (j, s)
  | [] => cutShort "EOF while parsing a value" s.mark
  | _ => wrongTypeAhead ("adjacently tagged enum " ++ name) s

/-! ## Reading by a shape -/

/-- Reads a list. -/
def readList (item : Nat → Source → Except Stop (Json × Source)) (depth : Nat) (s : Source) :
    Except Stop (Json × Source) :=
  let s := s.skip
  match s.rest with
  | '[' :: _ =>
    if depth = 0 then malformed "recursion limit exceeded" s.ahead
    else do
      let (items, s) ← settle closeList
        (readItems (fun i s => under (.index i) (item (depth - 1) s)) s.drop.rest 0 [] s.drop)
      let s ← endList s
      .ok (.list items, s)
  | [] => cutShort "EOF while parsing a value" s.mark
  | _ => wrongTypeAhead "a sequence" s

/-- Reads an object with any keys; the last member of a key wins. -/
def readTable (item : Nat → Source → Except Stop (Json × Source)) (depth : Nat) (s : Source) :
    Except Stop (Json × Source) :=
  let s := s.skip
  match s.rest with
  | '\x7b' :: _ =>
    if depth = 0 then malformed "recursion limit exceeded" s.ahead
    else settle closeObject do
      let member (ms : List (String × Json)) (key : String) (s : Source) :
          Except Stop (List (String × Json) × Source) := do
        let s ← readColon s
        let (j, s) ← under (.key key) (item (depth - 1) s)
        .ok (insert key j ms, s)
      let (ms, s) ← readObject member [] s
      .ok (.object ms, s)
  | [] => cutShort "EOF while parsing a value" s.mark
  | _ => wrongTypeAhead "a map" s

/-- Takes every item of a list read before. -/
def acceptEach (accept : Json → Except String Json) : List Json → Except String (List Json)
  | [] => .ok []
  | j :: r => do
    let j ← accept j
    let js ← acceptEach accept r
    .ok (j :: js)

/-- Takes every member of an object read before. -/
def acceptTable (accept : Json → Except String Json) (acc : List (String × Json)) :
    List (String × Json) → Except String (List (String × Json))
  | [] => .ok acc
  | (k, j) :: r => do
    let j ← accept j
    acceptTable accept (insert k j acc) r

/-- Takes one of several names from a value read before. -/
def acceptChoice (variants : List String) : Json → Except String Json
  | .text v => if variants.contains v then .ok (.text v) else .error (unknownVariant v variants)
  | j => .error (wrongType (called j) "string or map")

mutual

/-- Takes a value that was read before its shape was known. A case told apart by a member is never
read that way. -/
def Shape.accept : Shape → Json → Except String Json
  | .text, .text s => .ok (.text s)
  | .text, j => .error (wrongType (called j) "a string")
  | .natural typeName bound, j => checkNatural typeName bound j
  | .real, j => checkReal j
  | .optional _, .null => .ok .null
  | .optional s, j => s.accept j
  | .list s, .list items => (acceptEach s.accept items).map .list
  | .list _, j => .error (wrongType (called j) "a sequence")
  | .table s, .object ms => (acceptTable s.accept [] ms).map .object
  | .table _, j => .error (wrongType (called j) "a map")
  | .record name fields, j => acceptRecord ("struct " ++ name) fields.readers j
  | .choice variants, j => acceptChoice variants j
  | .tagged name .., j => .error (wrongType (called j) ("internally tagged enum " ++ name))
  | .adjacent name .., j => .error (wrongType (called j) ("adjacently tagged enum " ++ name))

/-- Reads a value of a shape, with at most `depth` brackets open around each other. -/
def Shape.read : Shape → Nat → Source → Except Stop (Json × Source)
  | .text, _, s => (readString "a string" s).map fun p => (.text p.1, p.2)
  | .natural typeName bound, _, s => readChecked typeName (checkNatural typeName bound) s
  | .real, _, s => readChecked "f32" checkReal s
  | .optional inner, depth, s =>
    match s.skip.rest with
    | 'n' :: _ => (readLetters s.skip.drop ['u', 'l', 'l']).map fun s => (.null, s)
    | _ => inner.read depth s
  | .list item, depth, s => readList item.read depth s
  | .table item, depth, s => readTable item.read depth s
  | .record name fields, depth, s => readRecord name fields.readers depth s
  | .choice variants, depth, s => (readChoice variants depth s).map fun p => (.text p.1, p.2)
  | .tagged name tag cases, depth, s => readTagged name tag cases.readers depth s
  | .adjacent name tag content options, depth, s =>
    readAdjacent name tag content options.readers depth s

/-- How each field is read. -/
def Fields.readers : Fields → List FieldReader
  | .nil => []
  | .cons name shape absent rest => ⟨name, absent, shape.read, shape.accept⟩ :: rest.readers

/-- How each case is read. -/
def Cases.readers : Cases → List CaseReader
  | .nil => []
  | .cons name full fields rest => ⟨name, full, fields.readers⟩ :: rest.readers

/-- How the shape behind each name is read. -/
def Options.readers : Options → List FieldReader
  | .nil => []
  | .cons name shape rest => ⟨name, .required, shape.read, shape.accept⟩ :: rest.readers

end

/-- Reads a value of a shape that a text starts with, and answers what follows it. -/
def Shape.parseFirst (shape : Shape) (s : String) : Except Stop (Json × Source) :=
  shape.read depthLimit (.start s.toList)

/-- Reads a text that is one value of a shape. -/
def Shape.parse (shape : Shape) (s : String) : Except Stop Json := readEnd (shape.parseFirst s)

end BuildLoop.Json
