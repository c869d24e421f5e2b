import ServerOperator.Json

/-!
# Schemas

What a custom resource may look like, in the terms an API server checks it by. Members that a record
does not name are allowed.
-/

namespace ServerOperator

/-- What a schema says of a value whatever its shape. -/
structure Schema.Notes where
  title : Option String := none
  description : Option String := none
  /-- The value taken when there is none. -/
  default : Option Json := none
  nullable : Bool := false

inductive Schema where
  | text (notes : Schema.Notes)
  /-- One of some names. -/
  | choice (notes : Schema.Notes) (names : List String)
  | flag (notes : Schema.Notes)
  | int32 (notes : Schema.Notes)
  | int64 (notes : Schema.Notes)
  | list (notes : Schema.Notes) (items : Schema)
  /-- Any members, with values of one schema. -/
  | map (notes : Schema.Notes) (values : Schema)
  | record (notes : Schema.Notes) (fields : List (String × Schema)) (required : List String)
  | anyOf (notes : Schema.Notes) (alternatives : List Schema)
  /-- No value but `null`. -/
  | onlyNull (notes : Schema.Notes)

namespace Schema

def Notes.keywords (n : Notes) : Json.Fields :=
  Json.member "title" .string n.title ++ Json.member "description" .string n.description ++
  Json.member "default" id n.default ++ (if n.nullable then [("nullable", .bool true)] else [])

/-- A schema in JSON, its keywords in order. -/
def ofKeywords (n : Notes) (keywords : Json.Fields) : Json :=
  .ofMap id (.ofList (n.keywords ++ keywords))

def typed (n : Notes) (type : String) (keywords : Json.Fields) : Json :=
  ofKeywords n (("type", .string type) :: keywords)

def requiredNames : List String → Json.Fields
  | [] => []
  | names => [("required", .ofList .string names)]

mutual

def toJson : Schema → Json
  | text n => typed n "string" []
  | choice n names => typed n "string" [("enum", .ofList .string names)]
  | flag n => typed n "boolean" []
  | int32 n => typed n "integer" [("format", .string "int32")]
  | int64 n => typed n "integer" [("format", .string "int64")]
  | list n items => typed n "array" [("items", items.toJson)]
  | map n values => typed n "object" [("additionalProperties", values.toJson)]
  | record n fields required =>
    typed n "object" (("properties", .ofMap id (.ofList (fieldsToJson fields))) :: requiredNames required)
  | anyOf n alternatives => ofKeywords n [("anyOf", .array (allToJson alternatives))]
  | onlyNull n => ofKeywords n [("enum", .array [.null])]

def allToJson : List Schema → List Json
  | [] => []
  | s :: rest => s.toJson :: allToJson rest

def fieldsToJson : List (String × Schema) → Json.Fields
  | [] => []
  | (name, s) :: rest => (name, s.toJson) :: fieldsToJson rest

end

end Schema

end ServerOperator
