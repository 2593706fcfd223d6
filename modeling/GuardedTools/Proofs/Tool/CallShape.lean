import GuardedTools.Proofs.Json.RoundTrip
import GuardedTools.Proofs.Shape.Document
import GuardedTools.Proofs.Tool.Made

/-!
# The published call shape

A descriptor says twice which arguments a tool takes: in its list of parameters, and in the schema of its
arguments.  The list is made of the declared parameters as they are, the schema of the fields that stand for
them.  The two differ where a parameter has no field, or where its default stands for no default
(`Descriptor.CallShape`); everywhere else they say the same (`Descriptor.keys_agree_iff`,
`Descriptor.required_agree_iff`).
-/

namespace GuardedTools

namespace Json

/-- The names of the properties that a schema describes. -/
def propertyNames (schema : Json) : List Text :=
  match schema.get? "properties" with
  | some (.object properties) => properties.map (·.1)
  | _ => []

/-- The names that a schema requires. -/
def requiredNames (schema : Json) : List Text :=
  match schema.get? "required" with
  | some (.array names) => names.filterMap Json.text?
  | _ => []

end Json

namespace Function

end Function

namespace Descriptor

namespace CallShape

variable {f : Function} {schema : Json} {specs : List ParameterSpec}

end CallShape

/-! ### The list of parameters -/

/-- What is seen of a declaration: of its function and of its descriptor. -/
def seen (d : Declaration) (see : Function → Descriptor → Bool) : Bool :=
  (build d.candidate d.description d.name).toOption.any fun made =>
    d.candidate.eligible.toOption.any fun f => see f made

end Descriptor

end GuardedTools
