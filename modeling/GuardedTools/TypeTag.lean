import GuardedTools.Json.Printer
import GuardedTools.Shape.OfType
import GuardedTools.Shape.Schema

/-!
# Type tags

The compact name of a published type (`string`, `array<integer>`, `optional<object:Point>`),
found from its JSON schema, together with the canonical text of that schema.  A reference is
followed into the table of definitions; a table whose references lead in a circle has no tag, and
the search gives up at a depth of nesting (`TypeTag.depthLimit`).
-/

namespace GuardedTools

/-- A type as it is published: its compact name and the canonical text of its JSON schema. -/
structure TypeTag where
  name : Text
  schema : Text
deriving DecidableEq, Inhabited, Repr

/-- Why a schema has no tag. -/
inductive TagFault where
  /-- The schema says nothing. -/
  | unconstrained
  /-- A reference leads nowhere. -/
  | unresolved (reference : Text)
  /-- The schema, in its canonical text, is of no known form. -/
  | unrecognized (schema : Text)
  /-- The schema is nested too deeply, or its references lead in a circle. -/
  | tooDeep
  /-- The schema is of no known form, and is not written either. -/
  | unwritten (fault : Json.WriteFault)
  /-- A value of a class stands where a schema belongs. -/
  | notASchema (className : Text)
  /-- A value of a class stands where a list of schemas belongs. -/
  | notAList (className : Text)
deriving Repr

def TagFault.message : TagFault → Text
  | .unconstrained => "type has no JSON representation (Any)"
  | .unresolved r => "unresolved reference " ++ r
  | .unrecognized t => "unrecognized schema " ++ t
  | .tooDeep => ""
  | .unwritten f => f.message
  | .notASchema c => c.quoted ++ " object has no attribute 'get'"
  | .notAList c => c.quoted ++ " object is not iterable"

namespace TypeTag

/-- Whether a value counts as true. -/
def isTruthy (j : Json) : Bool := (Value.ofJson j).isTruthy

/-- The values among which the alternatives of a schema are, unless there are none. -/
def alternatives? (members : List (Text × Json)) : Except TagFault (Option (List Json)) :=
  let under (key : Text) : Option Json := (Json.lookup key members).filter isTruthy
  match under "anyOf" <|> under "oneOf" with
  | none => .ok none
  | some (.array js) => .ok (some js)
  | some (.object ms) => .ok (some (ms.map fun m => .text m.1))
  | some (.text t) => .ok (some (t.points.map fun p => .text ⟨[p]⟩))
  | some j => .error (.notAList (Value.ofJson j).className)

/-- The alternatives, if all of them may be schemas. -/
def checkAlternatives : List Json → Except TagFault Unit
  | [] => .ok ()
  | .object _ :: js => checkAlternatives js
  | j :: _ => .error (.notASchema (Value.ofJson j).className)

/-- Whether a schema is that of nothing. -/
def isNullType (j : Json) : Bool :=
  match j.get? "type" with
  | some (.text t) => t = "null"
  | _ => false

/-- Whether a value counts as a title: a text that is not empty, or another value that counts as
true. -/
def titleOf (j : Option Json) : Option Text :=
  match j with
  | some j => let v := Value.ofJson j
    if v.isTruthy then some v.plain else none
  | none => none

/-- The name of a schema of a text type or an unknown one. -/
def scalarName (members : List (Text × Json)) : Except TagFault Text :=
  match Json.lookup "type" members with
  | some (.text t) => .ok t
  | _ => match (Json.object members).canonicalText with
    | .ok schema => .error (.unrecognized schema)
    | .error fault => .error (.unwritten fault)

/-- The name of the type that a schema describes; the first argument bounds how deep the search
goes. -/
def nameOf (definitions : List (Text × Json)) : Nat → Json → Except TagFault Text
  | 0, _ => .error .tooDeep
  | depth + 1, .object members =>
    if members.isEmpty then .error .unconstrained
    else match Json.lookup "$ref" members with
    | some (.text reference) =>
      match Json.lookup (reference.afterLast '/') definitions with
      | none => .error (.unresolved reference)
      | some .null => .error (.unresolved reference)
      | some target => nameOf definitions depth target
    | _ =>
      if (Json.lookup "enum" members).isSome || (Json.lookup "const" members).isSome then
        .ok "enum"
      else match alternatives? members with
      | .error fault => .error fault
      | .ok (some variants) => do
        checkAlternatives variants
        let others := variants.filter fun v => !isNullType v
        match others with
        | [v] =>
          if variants.length = 1 then
            return "union<" ++ (← nameOf definitions depth v) ++ ">"
          else return "optional<" ++ (← nameOf definitions depth v) ++ ">"
        | _ =>
          let names ← variants.mapM (nameOf definitions depth)
          return "union<" ++ Text.intercalate "," names ++ ">"
      | .ok none =>
        match Json.lookup "type" members with
        | some (.text t) =>
          if t = "array" then
            match Json.lookup "items" members with
            | some (.object items) => do
              return "array<" ++ (← nameOf definitions depth (.object items)) ++ ">"
            | _ => .ok "array"
          else if t = "object" then
            if (Json.lookup "properties" members).isSome then
              match titleOf (Json.lookup "title" members) with
              | some title => .ok ("object:" ++ title)
              | none => .ok "object"
            else match Json.lookup "additionalProperties" members with
              | some (.object extra) => do
                return "map<" ++ (← nameOf definitions depth (.object extra)) ++ ">"
              | _ => .ok "object"
          else .ok t
        | _ => scalarName members
  | _ + 1, j =>
    .error (if isTruthy j then .notASchema (Value.ofJson j).className else .unconstrained)

/-- How deep the search for a name goes. -/
def depthLimit : Nat := 950

/-- The name of a schema with the definitions it holds itself. -/
def nameOfDocument (schema : Json) : Except TagFault Text :=
  let definitions := ((schema.get? "$defs").bind Json.object?).getD []
  nameOf definitions depthLimit schema

/-- The tag of texts, which errors of tools are reported as. -/
def string : TypeTag :=
  { name := "string", schema := (Json.object [("type", .str "string")]).canonical }

end TypeTag

/-- Why a type has no tag. -/
inductive TypeTagFault where
  | type (fault : TypeFault)
  | schema (fault : SchemaFault)
  | tag (fault : TagFault)
  | unwritten (fault : Json.WriteFault)
deriving Repr

def TypeTagFault.message : TypeTagFault → Text
  | .type f => f.message
  | .schema f => f.message
  | .tag f => f.message
  | .unwritten f => f.message

namespace TypeTag

/-- The tag of what a type was found to mean. -/
def ofShape (shape : Except TypeFault Shape) : Except TypeTagFault TypeTag := do
  let shape ← shape.mapError .type
  let schema ← shape.schema.mapError .schema
  let name ← (nameOfDocument schema).mapError .tag
  let written ← schema.canonicalText.mapError .unwritten
  return { name, schema := written }

end TypeTag

end GuardedTools
