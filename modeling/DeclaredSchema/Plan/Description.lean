import DeclaredSchema.Plan
import DeclaredSchema.Schema.Description

/-!
# Descriptions of a plan

A plan as JSON. Operations and collections are told apart by a tag.
-/

namespace DeclaredSchema

def CollectionRef.toJson : CollectionRef → Json
  | .existing id name =>
    .obj [("state", .str "existing"), ("id", .str id), ("name", .str name)]
  | .pending name => .obj [("state", .str "pending"), ("name", .str name)]

def Operation.toJson : Operation → Json
  | .createCollection c => .obj [("op", .str "create_collection"), ("class", c.toJson)]
  | .createAttribute ref a =>
    .obj [("op", .str "create_attribute"), ("collection", ref.toJson), ("attribute", a.toJson)]
  | .updateAttribute id name a existing =>
    .obj [("op", .str "update_attribute"), ("collection_id", .str id),
      ("collection_name", .str name), ("attribute", a.toJson), ("existing", existing.toJson)]

/-- The fields that say why a part was left out of a collection. -/
def SkipReason.fields (collection : String) : SkipReason → List (String × Json)
  | .collectionExists => [("reason", .str "collection_exists")]
  | .superseded position => [("reason", .str "superseded"), ("line_order", .ofNat position)]
  | .nameCollision first second =>
    [("reason", .str "name_collision"), ("first", .str first), ("second", .str second)]
  | .lookup fault => [("reason", .str "lookup"), ("message", .str (fault.message collection))]

def Skipped.toJson (s : Skipped) : Json :=
  .obj ([("collection", .str s.collection), ("attribute", .ofOption (s.key.map .str))] ++
    s.reason.fields s.collection)

def Plan.toJson (p : Plan) : Json :=
  .obj [("operations", .arr (p.operations.map Operation.toJson)),
    ("skipped", .arr (p.skipped.map Skipped.toJson))]

end DeclaredSchema
