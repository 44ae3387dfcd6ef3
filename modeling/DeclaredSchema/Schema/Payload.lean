import DeclaredSchema.Schema.Attribute

/-!
# Request bodies

What is sent to create or update an attribute, and where. Fields that are not set are sent with a
value that means so, except the size in an update, which is left out.
-/

namespace DeclaredSchema.ConcreteAttribute

/-- The value of a constraint, or what stands for its absence. -/
def settingOr (a : ConcreteAttribute) (c : Constraint) (absent : Json) : Json :=
  match a.constraints.get? c with
  | some l => l.toJson
  | none => absent

def requiredField (a : ConcreteAttribute) : String × Json := ("required", .bool a.required)

def defaultField (a : ConcreteAttribute) : String × Json := ("default", .ofOption a.default)

def rangeFields (a : ConcreteAttribute) : List (String × Json) :=
  [("min", a.settingOr .min .null), ("max", a.settingOr .max .null)]

def elementsField (a : ConcreteAttribute) : String × Json :=
  ("elements", a.settingOr .elements (.arr []))

/-- The fields of a request that creates any attribute but a relationship. -/
def createFields (a : ConcreteAttribute) : List (String × Json) :=
  [("key", .str a.key), a.requiredField, a.defaultField,
    ("array", a.settingOr .array (.bool false))]

def relationFields (a : ConcreteAttribute) : List (String × Json) :=
  [("relatedCollectionId", a.settingOr .relatedCollection .null),
    ("type", a.settingOr .relationKind .null),
    ("twoWay", a.settingOr .twoWay (.bool false)),
    ("key", .str a.key),
    ("twoWayKey", a.settingOr .twoWayKey .null),
    ("onDelete", a.settingOr .onDelete .null)]

/-- The body of a request that creates the attribute. -/
def createPayload (a : ConcreteAttribute) : Json :=
  .ofFields <| match a.kind with
    | .string => a.createFields ++ [("size", a.settingOr .size (.int 255))]
    | .integer | .float => a.createFields ++ a.rangeFields
    | .boolean | .datetime | .email | .ip => a.createFields
    | .enum => a.createFields ++ [a.elementsField]
    | .relationship => a.relationFields

/-- The fields of a request that updates any attribute but a relationship. -/
def updateFields (a : ConcreteAttribute) : List (String × Json) :=
  [a.requiredField, a.defaultField]

/-- The body of a request that updates the attribute. -/
def updatePayload (a : ConcreteAttribute) : Json :=
  .ofFields <| match a.kind with
    | .string => a.updateFields ++
      match a.constraints.get? .size with
      | some l => [("size", l.toJson)]
      | none => []
    | .integer | .float => a.updateFields ++ a.rangeFields
    | .boolean | .datetime | .email | .ip => a.updateFields
    | .enum => a.updateFields ++ [a.elementsField]
    | .relationship => [("onDelete", a.settingOr .onDelete .null)]

end DeclaredSchema.ConcreteAttribute

namespace DeclaredSchema.Kind

/-- The address of an attribute in update requests, below the attributes of its collection. -/
def updatePath (k : Kind) (key : String) : String :=
  match k with
  | .relationship => key ++ "/relationship"
  | _ => k.name ++ "/" ++ key

end DeclaredSchema.Kind
