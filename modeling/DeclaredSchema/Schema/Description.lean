import DeclaredSchema.Schema.Attribute

/-!
# Descriptions of a schema

Declared collections as JSON, with the fields in the order in which they are declared.
-/

namespace DeclaredSchema

/-- The constraints in their own order. -/
def Constraints.toJson (s : Constraints) : Json :=
  .obj (s.toList.map fun (c, l) => (c.name, l.toJson))

def DefaultValue.toJson : DefaultValue → Json
  | .literal l => .obj [("literal", l.toJson)]
  | .now => .str "now"

def Attribute.toJson (a : Attribute) : Json :=
  .obj <| [("key", .str a.key), ("kind", .str a.kind.name), ("required", .bool a.required),
    ("optional", .bool a.optional)] ++
    (a.default.map fun d => ("default", d.toJson)).toList ++
    [("constraints", a.constraints.toJson)]

def Collection.toJson (c : Collection) : Json :=
  .obj [("name", .str c.name), ("source", .str c.source),
    ("attributes", .arr (c.attributes.map Attribute.toJson))]

def RemoteAttribute.toJson (a : RemoteAttribute) : Json :=
  .obj [("key", .str a.key), ("kind", .ofOption (a.kind.map fun k => .str k.name)),
    ("remote_type", .str a.remoteType), ("required", .bool a.required),
    ("default", .ofOption (a.default.map (·.toJson))), ("constraints", a.constraints.toJson)]

end DeclaredSchema
