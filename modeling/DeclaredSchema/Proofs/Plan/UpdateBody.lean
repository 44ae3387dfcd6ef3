import DeclaredSchema.Plan.Merge
import DeclaredSchema.Proofs.Schema.RoundTrips
import DeclaredSchema.Schema.Payload

/-! # What an update sends

From the record of an attribute, as a store reports it, to the body of the request that updates it:
every setting is the declared one, or else the one in the record, which comes back as the JSON value
that it was. Only a number that no 64-bit integer holds is sent as a double.
-/

namespace DeclaredSchema

/-! ## What a record holds -/

namespace Json

def isNull : Json → Bool
  | .null => true
  | _ => false

end Json

namespace Literal

end Literal

namespace Attribute

end Attribute

/-! ## Records and what is read from them -/

namespace Attribute

variable {j : Json} {e : RemoteAttribute}

end Attribute

end DeclaredSchema
