import GuardedTools.TypeExpr
import GuardedTools.Value.Notation

/-!
# Written types

A notation for types in JSON: a text for an atomic type, and a list that begins with the name of a
form for every other.  What is no notation stands for the type of anything.
-/

namespace GuardedTools

/-- The atomic type of a name. -/
def AtomType.ofName (t : Text) : AtomType :=
  match t.toStringLossy with
  | "str" => .str
  | "int" => .int
  | "float" => .float
  | "bool" => .bool
  | "none" => .none
  | "bytes" => .bytes
  | "date" => .date
  | "datetime" => .dateTime
  | "time" => .time
  | "timedelta" => .duration
  | "uuid" => .uuid
  | "decimal" => .decimal
  | "complex" => .complex
  | "callable" => .callable
  | "list" => .anyList
  | "dict" => .anyDict
  | "tuple" => .anyTuple
  | "set" => .anySet
  | _ => .any

namespace TypeExpr

/-- The base of an enumeration. -/
def baseOf (j : Json) : EnumBase :=
  match j.asText.toStringLossy with
  | "str" => .text
  | "int" => .integer
  | _ => .plain

/-- A member of an enumeration with its value. -/
def memberOf (j : Json) : Text × Value :=
  match j.items with
  | [n, v] => (n.asText, Value.ofNotation v)
  | _ => (Text.empty, .null)

/-- What is said of a model apart from its fields. -/
def optionsOf (j : Json) : ModelOptions :=
  let config := j.at "config"
  { extra := match (config.at "extra").asText.toStringLossy with
      | "allow" => .allow
      | "forbid" => .forbid
      | _ => .ignore
    title := (config.at "title").text?
    description := (j.at "doc").text? }

/-- The presence of a field of a class, from what follows its type. -/
def presenceOf : List Json → Presence
  | d :: _ => .default (Value.ofNotation d)
  | [] => .required

/-- The presence of a field of a typed dictionary. -/
def membershipOf : List Json → Presence
  | .bool false :: _ => .optional
  | _ => .required

/-- The fields of a class in which a later field of a name takes the place of an earlier one. -/
def lastFields (fields : List (Text × Presence × TypeExpr)) : List (Text × Presence × TypeExpr) :=
  fields.foldl (fun kept f =>
    if kept.any (·.1 == f.1) then kept.map fun g => if g.1 == f.1 then f else g
    else kept ++ [f]) []

mutual

/-- The type that a notation stands for. -/
def ofNotation : Json → TypeExpr
  | .text t => .atom (AtomType.ofName t)
  | .array (.text head :: rest) => match head.toStringLossy, rest with
    | "list", [t] => .list (ofNotation t)
    | "dict", [k, v] => .dict (ofNotation k) (ofNotation v)
    | "set", [t] => .set (ofNotation t)
    | "frozenset", [t] => .frozenSet (ofNotation t)
    | "tuple", ts => .tuple (ofNotations ts)
    | "vartuple", [t] => .tupleOf (ofNotation t)
    | "optional", [t] => unionOf [ofNotation t, .atom .none]
    | "union", ts => unionOf (ofNotations ts)
    | "literal", vs => literalOf (vs.map Value.ofNotation)
    | "enum", name :: members :: base =>
      .enum name.asText (members.items.map memberOf) (baseOf (base.headD .null))
    | "model", name :: .array fields :: options =>
      .record (.model (optionsOf (options.headD .null))) name.asText
        (lastFields (fieldsOf presenceOf fields))
    | "dataclass", [name, .array fields] =>
      .record .dataclass name.asText (fieldsOf presenceOf fields)
    | "typeddict", [name, .array fields] =>
      .record .typedDict name.asText (lastFields (fieldsOf membershipOf fields))
    | "optself", _ => unionOf [.self, .atom .none]
    | "listself", _ => .list .self
    | "annotated", [t, arguments] =>
      .annotated (ofNotation t)
        ((arguments.object?.getD []).map fun m => (m.1, Value.ofNotation m.2))
    | "opaque", [name] => plainClass name.asText
    | "fwd", [t] => .forward t.asText
    | _, _ => .atom .any
  | _ => .atom .any

def ofNotations : List Json → List TypeExpr
  | [] => []
  | j :: js => ofNotation j :: ofNotations js

/-- The fields of a class. -/
def fieldsOf (presence : List Json → Presence) : List Json → List (Text × Presence × TypeExpr)
  | [] => []
  | .array (name :: t :: more) :: fs =>
    (name.asText, presence more, ofNotation t) :: fieldsOf presence fs
  | _ :: fs => (Text.empty, .required, .atom .any) :: fieldsOf presence fs

end

end TypeExpr

end GuardedTools
