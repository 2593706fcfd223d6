import GuardedTools.Access.Notation
import GuardedTools.Tool.Definition.Notation
import GuardedTools.Tool.Registry

/-!
# Written tools

Descriptors, declarations and registered tools in JSON, and the mistakes that are found when they
are built.
-/

namespace GuardedTools

namespace TypeTag

def toJson (t : TypeTag) : Json := Json.record [
  ("name", .text t.name), ("schema", .text t.schema), ("text", .text t.name)]

end TypeTag

namespace BuildError

/-- The name of a kind of mistake, and what is told of it apart from where it is. -/
def kindAndDetails : BuildError → String × List (String × Json)
  | notAFreeFunction _ _ => ("NotAFreeFunction", [])
  | unsupportedKind _ k => ("UnsupportedToolKind", [("kind", .text k)])
  | missingDescription _ => ("MissingDescription", [])
  | unsupportedType _ p _ => ("UnsupportedType", [("position", .text p)])
  | invalidName _ n => ("InvalidToolName", [("name", .text n)])
  | duplicateName n => ("DuplicateToolName", [("name", .text n)])

def toJson (e : BuildError) : Json :=
  let (kind, details) := e.kindAndDetails
  Json.record ([("error", .str kind), ("message", .text e.message),
    ("declaration", .text e.declaration)] ++ details)

/-- The mistake of a kind with its parts; the last one may be left out where it is a detail. -/
def ofParts? (kind : Text) (parts : List Text) : Option BuildError :=
  match kind.toStringLossy, parts with
  | "NotAFreeFunction", [d] => some (.notAFreeFunction d Text.empty)
  | "NotAFreeFunction", [d, x] => some (.notAFreeFunction d x)
  | "UnsupportedType", [d, p] => some (.unsupportedType d p Text.empty)
  | "UnsupportedToolKind", [d, k] => some (.unsupportedKind d k)
  | "MissingDescription", [d] => some (.missingDescription d)
  | "UnsupportedType", [d, p, x] => some (.unsupportedType d p x)
  | "InvalidToolName", [d, n] => some (.invalidName d n)
  | "DuplicateToolName", [n] => some (.duplicateName n)
  | _, _ => none

end BuildError

namespace BuildFailure

/-- The word for a kind of fault of a type. -/
def typeWord : TypeFault → Text
  | .emptyLiteral => "AssertionError"
  | .misapplied _ _ => "RuntimeError"
  | _ => "SchemaError"

def toJson (f : BuildFailure) : Json :=
  let named (kind : Text) : Json :=
    Json.record [("error", .text kind), ("message", .text f.message)]
  match f with
  | .refused e => e.toJson
  | .tooDeep => Json.record [("error", .str "RecursionError")]
  | .tooManyDigits => named "ValueError"
  | .type fault => named (typeWord fault)
  | .noClass fault => named fault.kind
  | .noSignature _ => named "ValueError"
  | .dangling _ => named "KeyError"

end BuildFailure

/-- What a descriptor consists of. -/
def Descriptor.parts (d : Descriptor) : Json := Json.record [
  ("dict", d.toJson.toNotation),
  ("input_schema", .text d.inputSchema),
  ("result", d.result.toJson),
  ("error", d.error.toJson),
  ("parameters", .array (d.parameters.map fun p => Json.record [
    ("name", .text p.name), ("type", p.type.toJson), ("required", .bool p.required)]))]

/-- A declaration with the names it leads to. -/
def Declaration.toJson (d : Declaration) : Json := Json.record [
  ("func", .text d.candidate.label),
  ("entry", match d.entryPoint with
    | .ok f => .text f.label
    | .error e => e.toJson),
  ("description", d.description.toNotation),
  ("name", (d.name.map Value.toNotation).getD .null),
  ("tool", match d.descriptor with
    | .ok t => .text t.name
    | .error e => e.toJson)]

/-- A registered tool. -/
def Tool.toJson (t : Tool) : Json := Json.record [
  ("name", .text t.name),
  ("description", .text t.descriptor.description),
  ("entry", .text t.entry.label),
  ("input_model", .text t.argumentsClass),
  ("input_fields", Json.texts t.argumentNames)]

end GuardedTools
