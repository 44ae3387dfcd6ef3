import DeclaredSchema.Schema.Attribute

/-!
# Merging a declaration into what a store reports

A value that the declaration states wins. One that it does not state keeps the store's value, also
`required` when it was not written. Settings that the kind does not take are not carried over.
-/

namespace DeclaredSchema

/-- The store's default as a value to be sent; a null default is none. -/
def RemoteAttribute.keptDefault (e : RemoteAttribute) : Option Json :=
  (e.default.filter (!·.isNull)).map (·.toJson)

def Attribute.mergeInto (a : Attribute) (e : RemoteAttribute) (now : Instant) :
    ConcreteAttribute where
  key := a.key
  kind := a.kind
  required := if a.requiredExplicit then a.required else e.required
  default := match a.default with
    | some d => some (d.resolve now)
    | none => e.keptDefault
  constraints := a.constraints.orElse (e.constraints.filter a.kind.allows)

end DeclaredSchema
