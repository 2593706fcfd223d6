import GuardedTools.Json.Reader
import GuardedTools.Text.Blank
import GuardedTools.Text.Utf8
import GuardedTools.Tool.Signature
import GuardedTools.TypeTag

/-!
# Descriptors

A descriptor says what is published about a tool: its name, its description, the types of its
parameters and its result, and the JSON schema of its arguments.  `Descriptor.build` makes one from
a candidate, checking in order that the candidate is eligible, that it has a name and a
description, that its types can be read, and that each of them can be published.

The name of a tool (`ToolName.isValid`) is an ASCII letter or underscore, followed by at most
sixty-three ASCII letters, digits, underscores, dots and hyphens; a line break after all this is let
through.  The class that describes the arguments of a tool is named after the words of the tool's name.
-/

namespace GuardedTools.ToolName

/-- Code points that a name may start with. -/
def isStart (p : CodePoint) : Bool := p.isLetter || p.is '_'

/-- Code points that a name may go on with. -/
def isPart (p : CodePoint) : Bool := isStart p || p.isDigit || p.is '.' || p.is '-'

/-- The longest name. -/
def maxLength : Nat := 64

/-- Whether a list of code points is a name without the line break that may follow it. -/
def isBody : List CodePoint → Bool
  | [] => false
  | p :: ps => isStart p && ps.all isPart && ps.length < maxLength

/-- Whether a text is accepted as the name of a tool. -/
def isValid (t : Text) : Bool :=
  isBody t.points ||
    match t.points.reverse with
    | p :: ps => p.is '\n' && isBody ps.reverse
    | [] => false

/-- A word with its first letter as a capital. -/
def capitalize (t : Text) : Text :=
  match t.points with
  | [] => t
  | p :: ps => ⟨p.asciiUpper :: ps⟩

/-- The name of the class of a tool's arguments: the words of the name with capitals, and a last
word that says what it is. -/
def argumentsClass (t : Text) : Text :=
  Text.concat ((t.wordsBy fun p => !(p.isLetter || p.isDigit)).map capitalize) ++ "Arguments"

end GuardedTools.ToolName

namespace GuardedTools

/-- A parameter as it is published. -/
structure ParameterSpec where
  name : Text
  type : TypeTag
  required : Bool
deriving DecidableEq, Inhabited, Repr

/-- What is published about a tool. -/
structure Descriptor where
  name : Text
  description : Text
  parameters : List ParameterSpec
  result : TypeTag
  /-- The canonical text of the JSON schema of the arguments. -/
  inputSchema : Text
  /-- The type of the value reported when the tool fails. -/
  error : TypeTag := .string
deriving DecidableEq, Inhabited, Repr

/-- Types of a function that are written as texts, read as types. -/
structure Hints where
  parameters : List (Text × TypeExpr)
  result : Option TypeExpr
deriving Inhabited, Repr

/-- The type of a parameter; one without a type takes anything. -/
def Hints.typeOf (hints : Hints) (p : Parameter) : TypeExpr :=
  ((hints.parameters.find? (·.1 == p.name)).map (·.2)).getD (.atom .any)

namespace Function

/-- Reads the types of parameters in their order. -/
def parameterHints : List Parameter → Except ForwardFault (List (Text × TypeExpr))
  | [] => .ok []
  | p :: ps =>
    match p.type with
    | none => parameterHints ps
    | some t => do
      let t ← t.resolve
      return (p.name, t) :: (← parameterHints ps)

/-- The types of a function; one that cannot be read is an error of all its annotations. -/
def hints (f : Function) : Except BuildError Hints :=
  let read : Except ForwardFault Hints := do
    let parameters ← parameterHints f.parameters
    let result ← f.result.mapM TypeExpr.resolve
    return { parameters, result }
  read.mapError fun fault => .unsupportedType f.label "annotations" fault.message

/-- The name of the parameter that no field stands for. -/
def reservedName : Text := "model_config"

/-- What stands for an argument that is not given; the value that stands for no default means that
the argument must be given. -/
def presence (p : Parameter) : Presence :=
  match p.default with
  | none => .required
  | some .ellipsis => .required
  | some v => .default v

/-- The fields of the class of a tool's arguments. -/
def argumentFields (hints : Hints) : List Parameter →
    Except TypeFault (List (Text × Presence × Shape))
  | [] => .ok []
  | p :: ps =>
    if p.name = reservedName then argumentFields hints ps
    else do
      let s ← (hints.typeOf p).shape .arguments
      return (p.name, presence p, s) :: (← argumentFields hints ps)

/-- The class of the arguments of a tool with a name. -/
def argumentsShape (name : Text) (f : Function) (hints : Hints) : Except TypeFault Shape := do
  let fields ← argumentFields hints f.parameters
  return .record (.model { extra := .forbid }) (ToolName.argumentsClass name) .forbid fields

end Function

namespace Descriptor

/-- The tag of a type in a declaration, which was found to have a shape. -/
def tagOf (declaration position : Text) (t : TypeExpr) (shape : Except TypeFault Shape) :
    Except BuildFailure TypeTag :=
  match t.fault?, TypeTag.ofShape shape with
  | some fault, _ => .error (.noClass fault)
  | none, .ok tag => .ok tag
  | none, .error (.tag .tooDeep) => .error .tooDeep
  | none, .error (.tag (.unwritten .tooDeep)) => .error .tooDeep
  | none, .error (.unwritten fault) => .error (.ofWriteFault fault)
  | none, .error (.type fault) => .error (.ofType declaration position fault)
  | none, .error (.schema (.dangling r)) => .error (.dangling r)
  | none, .error fault => .error (.unsupported declaration position fault.message)

/-- The tag of a type in a declaration, in which texts may stand for types. -/
def tag (declaration position : Text) (t : TypeExpr) : Except BuildFailure TypeTag :=
  tagOf declaration position t (t.openShape .plain)

/-- The tag of a type in a declaration, in which the texts were read. -/
def hintTag (declaration position : Text) (t : TypeExpr) : Except BuildFailure TypeTag :=
  tagOf declaration position t (t.shape .plain)

/-- The published form of parameters, refused at the first one that has none. -/
def parameterSpecs (declaration : Text) (hints : Hints) :
    List Parameter → Except BuildFailure (List ParameterSpec)
  | [] => .ok []
  | p :: ps => do
    let position := "parameter '" ++ p.name ++ "'"
    if p.name.startsWith "_" then
      throw (.refused (.unsupportedType declaration position
        "parameter names may not start with '_'"))
    match hints.parameters.find? (·.1 == p.name) with
    | none => throw (.refused (.unsupportedType declaration position "missing annotation"))
    | some (_, t) =>
      let type ← hintTag declaration position t
      let spec : ParameterSpec := { name := p.name, type, required := p.default.isNone }
      return spec :: (← parameterSpecs declaration hints ps)

/-- What it comes to that the arguments of a function have no schema. -/
def ofSchemaFault (f : Function) : SchemaFault → BuildFailure
  | .dangling r => .dangling r
  | fault => .unsupported f.label "parameters" fault.message

/-- The canonical text of the schema of a tool's arguments. -/
def inputSchemaOf (name : Text) (f : Function) (hints : Hints) : Except BuildFailure Text := do
  let shape ← (f.argumentsShape name hints).mapError (.ofType f.label "parameters")
  let schema ← shape.schema.mapError (ofSchemaFault f)
  schema.canonicalText.mapError .ofWriteFault

/-- The name of a tool: the given one, or that of its function. -/
def nameOf (f : Function) (given : Option Value) : Except BuildError Text :=
  match given with
  | none => if ToolName.isValid f.name then .ok f.name else .error (.invalidName f.label f.name)
  | some (.text t) => if ToolName.isValid t then .ok t else .error (.invalidName f.label t)
  | some v => .error (.invalidName f.label v.plain)

/-- The description of a tool without blanks at its ends. -/
def descriptionOf (f : Function) (given : Value) : Except BuildError Text :=
  match given with
  | .text t => if t.isBlank then .error (.missingDescription f.label) else .ok t.trim
  | _ => .error (.missingDescription f.label)

/-- The descriptor of an eligible function. -/
def ofFunction (f : Function) (description : Value) (name : Option Value) :
    Except BuildFailure Descriptor := do
  let toolName ← (nameOf f name).mapError .refused
  let description ← (descriptionOf f description).mapError .refused
  let hints ← f.hints.mapError .refused
  let parameters ← parameterSpecs f.label hints f.parameters
  match hints.result with
  | none => throw (.refused (.unsupportedType f.label "result" "missing annotation"))
  | some t =>
    let result ← hintTag f.label "result" t
    let inputSchema ← inputSchemaOf toolName f hints
    return { name := toolName, description, parameters, result, inputSchema }

/-- The descriptor of a candidate. -/
def build (c : Candidate) (description : Value) (name : Option Value) :
    Except BuildFailure Descriptor := do
  let f ← c.eligible
  ofFunction f description name

/-- A schema read back from its text. -/
def readSchema (t : Text) : Json :=
  ((Json.read .standard t).toOption).getD .null

/-- What discovery lists about a tool. -/
def toJson (d : Descriptor) : Json :=
  Json.record [
    ("name", .text d.name),
    ("description", .text d.description),
    ("parameters", .array (d.parameters.map fun p => Json.record [
      ("name", .text p.name), ("type", .text p.type.name), ("required", .bool p.required)])),
    ("input_schema", readSchema d.inputSchema),
    ("result", Json.record [
      ("type", .text d.result.name), ("schema", readSchema d.result.schema)]),
    ("error", Json.record [("type", .text d.error.name)])]

end Descriptor

end GuardedTools
