import BuildLoop.Json.Shape

/-!
# Types with a JSON form

A type has a JSON form when its values are written as JSON values of one shape and read back from
them. Reading a text goes through the shape, so that what is left out of a record is filled in
before the value is taken.

    ofJson? (toJson a) = some a                      holds of every form of this library
-/

namespace BuildLoop.Json

/-- The JSON form of a type. -/
class Form (α : Type) where
  shape : Shape
  toJson : α → Json
  ofJson? : Json → Option α

export Form (toJson ofJson?)

instance : Form String where
  shape := .text
  toJson := .text
  ofJson? := asText?

instance {α : Type} [Form α] : Form (List α) where
  shape := .list (Form.shape α)
  toJson as := .list (as.map toJson)
  ofJson? j := j.asList?.bind (·.mapM ofJson?)

instance {α : Type} [Form α] : Form (Option α) where
  shape := .optional (Form.shape α)
  toJson a := (a.map toJson).getD .null
  ofJson? j := match j with
    | .null => some none
    | j => (ofJson? j).map some

/-- The value of a field of a record. -/
def get? {α : Type} [Form α] (j : Json) (key : String) : Option α := (j.field? key).bind ofJson?

/-- A name's value among those that have one. -/
def named? {α : Type} (name : α → String) (all : List α) (j : Json) : Option α :=
  j.asText?.bind fun s => all.find? fun a => name a == s

/-- The value of the type that a JSON value of its shape stands for. -/
def Form.take (α : Type) [Form α] (s : String) (j : Json) : Except Stop α :=
  match ofJson? j with
  | some a => .ok a
  | none => loose "value does not fit its type" (.start s.toList)

/-- Reads a text that is one value of the type. -/
def Form.parse (α : Type) [Form α] (s : String) : Except Stop α :=
  (Form.shape α).parse s >>= Form.take α s

/-- Reads a value of the type that a text starts with; what follows does not matter. -/
def Form.parseFirst (α : Type) [Form α] (s : String) : Except Stop α :=
  (Form.shape α).parseFirst s >>= fun p => Form.take α s p.1

/-- A natural number below `bound`, with the name of its type in messages. -/
def naturalShape (typeName : String) (bits : Nat) : Shape := .natural typeName (Nat.pow 2 bits)

/-- A count or a line number. -/
def countShape : Shape := naturalShape "usize" 64

/-- A count is written as a number. -/
instance : Form Nat where
  shape := countShape
  toJson := ofNat
  ofJson? := asNat?

/-- A member that is written only if there is a value. -/
def ifSet {α : Type} [Form α] (key : String) : Option α → List (String × Json)
  | some a => [(key, toJson a)]
  | none => []

end BuildLoop.Json
