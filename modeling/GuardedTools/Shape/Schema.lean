import GuardedTools.Shape
import GuardedTools.Shape.Definitions
import GuardedTools.Text.Blank
import GuardedTools.Text.Case
import GuardedTools.Value.Published

/-!
# JSON schemas of shapes

What is published about a shape: a JSON schema in which every class stands as a reference to the
classes found so far (`Definitions`).  `Shape.schema` is the whole document: a class at the root
stands there itself unless something refers to it, and only classes that are referred to are kept.
-/

namespace GuardedTools

/-- Why a shape has no JSON schema. -/
inductive SchemaFault where
  /-- Functions have none. -/
  | callable
  /-- Instances of a class that says nothing about them have none. -/
  | instances (className : Text)
  /-- Among the data that is published something stands as a reference, and leads nowhere. -/
  | dangling (reference : Text)
  /-- The names of the classes in it do not settle. -/
  | unsettled
deriving DecidableEq, Repr

def SchemaFault.message : SchemaFault → Text
  | .callable => "Cannot generate a JsonSchema for core_schema.CallableSchema"
  | .instances c =>
    "Cannot generate a JsonSchema for core_schema.IsInstanceSchema (<class '" ++ c ++ "'>)"
  | .dangling r => r.quoted
  | .unsettled => "Failed to simplify the JSON schema definitions"

namespace Text

/-- A name as the title of a field: capitals at the beginning of words, blanks for underscores. -/
def fieldTitle (name : Text) : Text := (name.title.replaceChar '_' " ").trim

/-- How far apart the columns are to which a tabulator goes. -/
def tabWidth : Nat := 8

/-- Characters from a column on, with blanks for tabulators. -/
def withoutTabs (column : Nat) : List CodePoint → List CodePoint
  | [] => []
  | p :: ps =>
    if p.is '\t' then
      let n := tabWidth - column % tabWidth
      List.replicate n (.scalar ' ') ++ withoutTabs (column + n) ps
    else p :: withoutTabs (if p.is '\n' || p.is '\r' then 0 else column + 1) ps

/-- A description without the indentation of its lines and blank lines at its ends. -/
def dedented (t : Text) : Text :=
  let lines := (⟨withoutTabs 0 t.points⟩ : Text).splitOn '\n'
  match lines with
  | [] => t
  | first :: rest =>
    let margin (l : Text) : Nat := (l.points.takeWhile CodePoint.isBlank).length
    let margins := (rest.filter (!·.isBlank)).map margin
    let cut := margins.foldl min (margins.headD 0)
    let all := ⟨first.points.dropWhile CodePoint.isBlank⟩ :: rest.map (Text.drop cut)
    let kept := (all.reverse.dropWhile (·.isEmpty)).reverse.dropWhile (·.isEmpty)
    Text.intercalate "\n" kept

end Text

namespace Json

/-- The member that says the type of a schema. -/
def schemaType (name : String) : List (Text × Json) := members [("type", .str name)]

/-- A member that is there only if it has a value. -/
def optionalMember (key : String) (value : Option Json) : List (Text × Json) :=
  match value with
  | some j => members [(key, j)]
  | Option.none => []

/-- A JSON value without repetitions in a list, compared as written with sorted keys. -/
def distinct (js : List Json) : List Json :=
  js.foldl (fun kept j =>
    if kept.any (fun k => k.sortKeys.same j.sortKeys) then kept else kept ++ [j]) []

/-- The alternatives that a schema consists of; one of another form is the only one. -/
def alternatives (j : Json) : List Json :=
  match j with
  | object [(key, array members)] => if key = "anyOf" then members else [j]
  | j => [j]

/-- Schemas as alternatives: alternatives among them are opened, repetitions dropped, and a single
one stands for itself. -/
def anyOf (schemas : List Json) : Json :=
  match distinct (schemas.flatMap alternatives) with
  | [j] => j
  | js => object [("anyOf", array js)]

/-- The members of an object with some added or replaced. -/
def withMembers (j : Json) (added : List (Text × Json)) : Json :=
  match j with
  | object members => object (added.foldl (fun ms m => put m.1 m.2 ms) members)
  | j => j

/-- An object without a member. -/
def without (key : Text) : Json → Json
  | object members => object (remove key members)
  | j => j

/-- The one JSON type of a list of values, if they have one. -/
def commonType : List Json → Option Text
  | [] => Option.none
  | j :: js =>
    let kind : Json → Option Text := fun j => match j with
      | text _ => some "string"
      | int _ => some "integer"
      | float _ => some "number"
      | bool _ => some "boolean"
      | array _ => some "array"
      | _ => Option.none
    if js.all (fun k => kind k == kind j) then kind j else Option.none

end Json

namespace Shape

def lengthMembers (least most : String) (l : LengthLimits) : List (Text × Json) :=
  Json.optionalMember least (l.min.map fun n => .int n)
    ++ Json.optionalMember most (l.max.map fun n => .int n)

/-- Limits as they are published, each as `form` has it; one that is infinite is not. -/
def limitMembers (form : Limit → Option Json) (l : Limits) : List (Text × Json) :=
  let limit (key : String) (l : Option Limit) : List (Text × Json) :=
    Json.optionalMember key ((l.bind form).filter fun j => match j with
      | .float x => x.isFinite || x.isNaN
      | _ => true)
  limit "minimum" l.atLeast ++ limit "exclusiveMinimum" l.above ++ limit "maximum" l.atMost
    ++ limit "exclusiveMaximum" l.below ++ limit "multipleOf" l.multipleOf

/-- Limits on numbers, as they were given. -/
def numberMembers : Limits → List (Text × Json) := limitMembers fun l => l.given.published?

/-- Limits on decimals, as binary numbers. -/
def decimalMembers : Limits → List (Text × Json) :=
  limitMembers fun l => match l.value with
    | .decimal d => some (.float d.toBinary64)
    | v => v.published?

/-- A string of a format. -/
def formatted (format : String) : Json :=
  Json.record [("format", .str format), ("type", .str "string")]

/-- A value as it is published. -/
def publishedValue (v : Value) : Json := (v.published?).getD .null

/-- The values of a literal or an enumeration; a single literal is a constant. -/
def literalSchema (values : List Value) : Json :=
  let js := values.map publishedValue
  let kind := Json.optionalMember "type" ((Json.commonType js).map .text)
  match js with
  | [j] => .object (Json.members [("const", j)] ++ kind)
  | js => .object (Json.members [("enum", .array js)] ++ kind)

def enumSchema (name : Text) (values : List (Text × Value)) : Json :=
  let js := values.map fun m => publishedValue m.2
  .object (Json.members [("enum", .array js), ("title", .text name)]
    ++ Json.optionalMember "type" ((Json.commonType js).map .text))

/-- Whether a field of a shape is given a title made from its name. -/
def isTitled : Shape → Bool
  | record _ _ _ _ => false
  | enum _ members _ => members.isEmpty
  | self => false
  | nullable s => isTitled s
  | noted _ s => isTitled s
  | bounded (.pattern _) _ => true
  | bounded _ s => isTitled s
  | _ => true

/-- A schema of a map: its keys are described only if more than their type is known. -/
def dictSchema (key value : Json) (length : LengthLimits) : Json :=
  let value := value.without "title"
  let isReference := (key.get? "$ref").isSome
  let pattern := if isReference then Option.none else key.get? "pattern"
  let key := if isReference then key else (key.without "pattern").without "title"
  let isAny := match value with
    | .object [] => true
    | _ => false
  let values : List (Text × Json) := match pattern with
    | some (.text p) => [("patternProperties", .object [(p, value)])]
    | _ => [("additionalProperties", if isAny then .bool true else value)]
  let isTextType := match key.get? "type" with
    | some (.text t) => t = "string"
    | _ => false
  let names : List (Text × Json) :=
    if isReference || (isTextType && 1 < (key.object?.getD []).length) then
      [("propertyNames", key.without "type")]
    else []
  .object (Json.members [("type", .str "object")] ++ values ++ names
    ++ lengthMembers "minProperties" "maxProperties" length)

/-- What is published about a class, given its fields. -/
def classSchema (kind : ClassKind) (name : Text) (extra : Extra) (properties : List (Text × Json))
    (required : List Text) : Json :=
  let title := match kind with
    | .model options => options.title.getD name
    | _ => name
  let description : List (Text × Json) := match kind with
    | .model options => match options.description with
      | some d => if d.isEmpty then [] else [("description", .text d.dedented)]
      | Option.none => []
    | _ => []
  let additional : List (Text × Json) := match extra with
    | .forbid => [("additionalProperties", .bool false)]
    | .allow => [("additionalProperties", .bool true)]
    | .ignore => []
  let needed : List (Text × Json) :=
    if required.isEmpty then [] else [("required", .array (required.map .text))]
  .object (Json.members [("properties", .object properties)] ++ needed
    ++ Json.members [("title", .text title), ("type", .str "object")] ++ additional
    ++ description)

/-- The schema of a field: with its default, and with a title if it needs one. -/
def fieldSchema (name : Text) (presence : Presence) (titled : Bool) (schema : Json) : Json :=
  let withDefault := match presence with
    | .default v => match v.published? with
      | some j => schema.withMembers [("default", j)]
      | Option.none => schema
    | _ => schema
  if titled && (withDefault.get? "title").isNone then
    withDefault.withMembers [("title", .text name.fieldTitle)]
  else withDefault

/-- Whether a field must be given. -/
def isRequired : Presence → Bool
  | .required => true
  | .default .ellipsis => true
  | _ => false

/-- The module in which the class of a kind is. -/
def moduleOf : ClassKind → Text
  | .dataclass => "types"
  | _ => "m"

/-- A reference to a class, with the classes among which it is then. -/
def referred (c : ClassSchema) (ds : Definitions) : Json × Definitions :=
  let (n, ds) := ds.add c
  (Definitions.referenceTo n, ds)

mutual

/-- The schema of a shape, with the classes found so far and in it. -/
def published (ds : Definitions) : Shape → Except SchemaFault (Json × Definitions)
  | .any => .ok (.object [], ds)
  | .none => .ok (.object (Json.schemaType "null"), ds)
  | .bool => .ok (.object (Json.schemaType "boolean"), ds)
  | .str l p =>
    .ok (.object (Json.schemaType "string" ++ lengthMembers "minLength" "maxLength" l
      ++ Json.optionalMember "pattern" (p.map .text)), ds)
  | .int l => .ok (.object (Json.schemaType "integer" ++ numberMembers l), ds)
  | .float _ l => .ok (.object (Json.schemaType "number" ++ numberMembers l), ds)
  | .decimal _ _ l =>
    .ok (.object [("anyOf", .array [.object (Json.schemaType "number" ++ decimalMembers l),
      .object (Json.schemaType "string")])], ds)
  | .complex => .ok (.object (Json.schemaType "string"), ds)
  | .bytes l =>
    .ok (.object (Json.members [("format", .str "binary"), ("type", .str "string")]
      ++ lengthMembers "minLength" "maxLength" l), ds)
  | .date l => .ok ((formatted "date").withMembers (numberMembers l), ds)
  | .time _ => .ok (formatted "time", ds)
  | .dateTime _ => .ok (formatted "date-time", ds)
  | .duration _ => .ok (formatted "duration", ds)
  | .uuid => .ok (formatted "uuid", ds)
  | .callable => .error .callable
  | .instances c => .error (.instances c)
  | .list s l => do
    let (j, ds) ← published ds s
    return (.object (Json.members [("items", j), ("type", .str "array")]
      ++ lengthMembers "minItems" "maxItems" l), ds)
  | .set _ s l => do
    let (j, ds) ← published ds s
    return (.object (Json.members
        [("items", j), ("type", .str "array"), ("uniqueItems", .bool true)]
      ++ lengthMembers "minItems" "maxItems" l), ds)
  | .tuple ss l => do
    let (js, ds) ← publishedAll ds ss
    let count : Json := .int js.length
    let items : List (Text × Json) := if js.isEmpty then [] else [("prefixItems", .array js)]
    let plain : Json := .object (items ++ Json.members [("minItems", count), ("maxItems", count),
      ("type", .str "array")])
    return (plain.withMembers (lengthMembers "minItems" "maxItems" l), ds)
  | .tupleOf s l => do
    let (j, ds) ← published ds s
    return (.object (Json.members [("items", j), ("type", .str "array")]
      ++ lengthMembers "minItems" "maxItems" l), ds)
  | .dict k v l => do
    let (kj, ds) ← published ds k
    let (vj, ds) ← published ds v
    return (dictSchema kj vj l, ds)
  | .nullable s => do
    let (j, ds) ← published ds s
    let nothing : Json := .object (Json.schemaType "null")
    return (if j.same nothing then nothing else Json.anyOf [j, nothing], ds)
  | .union ss =>
    let (js, ds) := publishedPossible ds ss
    .ok (match js with
      | [j] => j
      | js => Json.anyOf js, ds)
  | .tagged field members =>
    let (js, ds) := publishedTagged ds members
    let named := js.foldl (fun ms m => Json.put m.1 m.2 ms) []
    let mapping := named.map fun (tag, j) => (tag, (j.get? "$ref").getD j)
    .ok (Json.record [
      ("discriminator", Json.record [("mapping", .object mapping), ("propertyName", .text field)]),
      ("oneOf", .array (Json.distinct (named.map (·.2))))], ds)
  | .literal vs => .ok (literalSchema vs, ds)
  | .enum name members _ =>
    if members.isEmpty then .ok (.object [("enum", .array []), ("title", .text name)], ds)
    else .ok (referred { module := "m", name, schema := enumSchema name members } ds)
  | .record kind name extra fields => do
    let (properties, ds) ← publishedFields ds fields
    let required := (fields.filter fun f => isRequired f.2.1).map (·.1)
    let schema := classSchema kind name extra properties required
    return referred { module := moduleOf kind, name, schema } ds
  | .self => .ok (Definitions.selfReference, ds)
  | .noted notes s => do
    let (j, ds) ← published ds s
    return (j.withMembers notes, ds)
  | .bounded _ s => published ds s

def publishedAll (ds : Definitions) :
    List Shape → Except SchemaFault (List Json × Definitions)
  | [] => .ok ([], ds)
  | s :: ss => do
    let (j, ds) ← published ds s
    let (js, ds) ← publishedAll ds ss
    return (j :: js, ds)

/-- The schemas of those members of a union that have one. -/
def publishedPossible (ds : Definitions) : List Shape → List Json × Definitions
  | [] => ([], ds)
  | s :: ss =>
    match published ds s with
    | .ok (j, ds) =>
      let (js, ds) := publishedPossible ds ss
      (j :: js, ds)
    | .error _ => publishedPossible ds ss

/-- The schemas of those tagged classes that have one, under their tags as texts. -/
def publishedTagged (ds : Definitions) :
    List (Value × Shape) → List (Text × Json) × Definitions
  | [] => ([], ds)
  | (tag, s) :: ss =>
    match published ds s with
    | .ok (j, ds) =>
      let (js, ds) := publishedTagged ds ss
      ((tag.plain, j) :: js, ds)
    | .error _ => publishedTagged ds ss

def publishedFields (ds : Definitions) : List (Text × Presence × Shape) →
    Except SchemaFault (List (Text × Json) × Definitions)
  | [] => .ok ([], ds)
  | (name, presence, s) :: fs => do
    let (j, ds) ← published ds s
    let (js, ds) ← publishedFields ds fs
    return ((name, fieldSchema name presence s.isTitled j) :: js, ds)

end

mutual

/-- The data that is published of a shape as it is: limits, literals, members of enumerations,
defaults and notes.  Members of a union that are not published do not count. -/
def publishedData : Shape → List Json
  | .int l => [.object (numberMembers l)]
  | .float _ l => [.object (numberMembers l)]
  | .decimal _ _ l => [.object (decimalMembers l)]
  | .date l => [.object (numberMembers l)]
  | .list s _ => publishedData s
  | .set _ s _ => publishedData s
  | .tuple ss _ => publishedDataAll ss
  | .tupleOf s _ => publishedData s
  | .dict k v _ => publishedData k ++ publishedData v
  | .nullable s => publishedData s
  | .union ss => publishedDataPossible ss
  | .tagged _ members => publishedDataTagged members
  | .literal vs => vs.map publishedValue
  | .enum _ members _ => members.map fun m => publishedValue m.2
  | .record _ _ _ fields => publishedDataFields fields
  | .noted notes s => .object notes :: publishedData s
  | .bounded _ s => publishedData s
  | _ => []

def publishedDataAll : List Shape → List Json
  | [] => []
  | s :: ss => publishedData s ++ publishedDataAll ss

def publishedDataPossible : List Shape → List Json
  | [] => []
  | s :: ss =>
    (if (published [] s).toOption.isSome then publishedData s else []) ++ publishedDataPossible ss

def publishedDataTagged : List (Value × Shape) → List Json
  | [] => []
  | (_, s) :: ss =>
    (if (published [] s).toOption.isSome then publishedData s else []) ++ publishedDataTagged ss

def publishedDataFields : List (Text × Presence × Shape) → List Json
  | [] => []
  | (_, presence, s) :: fs =>
    (match presence with
      | .default v => (v.published?).toList
      | _ => []) ++ publishedData s ++ publishedDataFields fs

end

/-- Whether a reference leads to another document. -/
def leadsAway (reference : Text) : Bool :=
  reference.startsWith "http://" || reference.startsWith "https://"

/-- What stands as a reference among the data that is published of a shape, and leads nowhere: data
has no classes to refer to. -/
def dangling? (s : Shape) : Option Text :=
  (s.publishedData.flatMap Definitions.referenceTexts).find? fun r => !leadsAway r

/-- The JSON schema of a shape. -/
def schema (s : Shape) : Except SchemaFault Json := do
  let (root, definitions) ← s.published []
  match s.dangling?, definitions.document? root with
  | some r, _ => throw (.dangling r)
  | Option.none, Option.none => throw .unsettled
  | Option.none, some document => return document

end Shape

end GuardedTools
