import BuildLoop.Json.Shape

/-!
# Schemas

The schema of a shape says in JSON which values have the shape. It is what a model is told about the
answer that is expected of it.

    schema (list s) = {"items": schema s, "type": "array"}
-/

namespace BuildLoop.Json

/-- A schema that asks for a type. -/
def typed (name : String) (more : List (String × Json)) : Json :=
  .object (("type", .text name) :: more)

/-- A schema of one fixed text. -/
def constant (s : String) : Json := typed "string" [("const", .text s)]

/-- A schema of an object with some properties. -/
def objectSchema (properties : List (String × Json)) (required : List String) : Json :=
  typed "object" [("properties", .object properties), ("required", texts required)]

/-- The names of the fields that have to be there. -/
def Fields.requiredNames : Fields → List String
  | .nil => []
  | .cons name _ .required rest => name :: rest.requiredNames
  | .cons _ _ _ rest => rest.requiredNames

mutual

/-- The schema of a shape. -/
def Shape.schema : Shape → Json
  | .text => typed "string" []
  | .natural _ bound =>
    typed "integer" [("minimum", .ofNat 0), ("maximum", .ofNat (bound - 1))]
  | .real => typed "number" []
  | .optional s => .object [("anyOf", .list [s.schema, typed "null" []])]
  | .list s => typed "array" [("items", s.schema)]
  | .table s => typed "object" [("additionalProperties", s.schema)]
  | .record _ fields => objectSchema fields.schemas fields.requiredNames
  | .choice variants => typed "string" [("enum", texts variants)]
  | .tagged _ tag cases => .object [("oneOf", .list (cases.schemas tag))]
  | .adjacent _ tag content options => .object [("oneOf", .list (options.schemas tag content))]

/-- The schemas of fields by name. -/
def Fields.schemas : Fields → List (String × Json)
  | .nil => []
  | .cons name shape _ rest => (name, shape.schema) :: rest.schemas

/-- The schemas of cases that the member `tag` tells apart. -/
def Cases.schemas (tag : String) : Cases → List Json
  | .nil => []
  | .cons name _ fields rest =>
    objectSchema ((tag, constant name) :: fields.schemas) (tag :: fields.requiredNames) ::
      rest.schemas tag

/-- The schemas of values that a member names. -/
def Options.schemas (tag content : String) : Options → List Json
  | .nil => []
  | .cons name shape rest =>
    objectSchema [(tag, constant name), (content, shape.schema)] [tag, content] ::
      rest.schemas tag content

end

end BuildLoop.Json
