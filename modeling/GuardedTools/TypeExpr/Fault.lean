import GuardedTools.TypeExpr
import GuardedTools.Value.Integer

/-!
# Classes that cannot be

Some declarations declare no class at all: a data class with a field twice, an enumeration of
integers with a member that is none.  `TypeExpr.fault?` finds the first such declaration within a
type, in the order in which classes come to be: those of the fields before the class itself.

`TypeExpr.enumMembers` makes the members of an enumeration: each has the value that the base of the
enumeration makes of the written one, and a further name for the value of an earlier member stands
for that member.
-/

namespace GuardedTools

/-- Why a declaration declares no class. -/
inductive ClassFault where
  /-- The default of a field could be changed by all who use it. -/
  | mutableDefault (className field : Text)
  /-- A field without a default comes after one with a default. -/
  | defaultBefore (field : Text)
  | duplicateField (field : Text)
  | fieldName (field : Text)
  | fieldKeyword (field : Text)
  /-- The settings of a model are no settings. -/
  | settings (className : Text)
  | member (name : Text)
  | reservedMember (name : Text)
  | duplicateMember (name : Text) (value : Value)
  | memberValue (fault : IntegerFault)
deriving Inhabited, Repr

namespace ClassFault

/-- The word that names a kind of fault. -/
def kind : ClassFault → Text
  | mutableDefault _ _ => "ValueError"
  | member _ => "ValueError"
  | reservedMember _ => "ValueError"
  | memberValue f => f.kind
  | _ => "TypeError"

def message : ClassFault → Text
  | mutableDefault c f =>
    "mutable default <class '" ++ c ++ "'> for field " ++ f
      ++ " is not allowed: use default_factory"
  | defaultBefore f => "non-default argument " ++ f.quoted ++ " follows default argument"
  | duplicateField f => "Field name duplicated: " ++ f.quoted
  | fieldName f => "Field names must be valid identifiers: " ++ f.quoted
  | fieldKeyword f => "Field names must not be keywords: " ++ f.quoted
  | settings c => c.quoted ++ " object is not iterable"
  | member n => "invalid enum member name(s) " ++ n.quoted
  | reservedMember n =>
    "_sunder_ names, such as " ++ n.quoted ++ ", are reserved for future Enum use"
  | duplicateMember n v => n.quoted ++ " already defined as " ++ v.shown
  | memberValue f => f.message

end ClassFault

/-- The words that are no names. -/
def reservedWords : List Text :=
  (["False", "None", "True", "and", "as", "assert", "async", "await", "break", "class", "continue",
    "def", "del", "elif", "else", "except", "finally", "for", "from", "global", "if", "import",
    "in", "is", "lambda", "nonlocal", "not", "or", "pass", "raise", "return", "try", "while",
    "with", "yield"] : List String).map Text.ofString

namespace TypeExpr

/-! ### Enumerations -/

/-- Whether a name is set off by single underscores, or by double ones. -/
def isSetOff (marks : String) (name : Text) : Bool :=
  let mark := Text.ofString marks
  let inner := (name.drop mark.length).take (name.length - 2 * mark.length)
  2 * mark.length < name.length && name.startsWith mark && name.endsWith mark
    && !inner.startsWith "_" && !inner.endsWith "_"

/-- The value that a member of an enumeration with a base has. -/
def memberValue (base : EnumBase) (v : Value) : Except ClassFault Value :=
  match base with
  | .plain => .ok v
  | .text => .ok (.text v.plain)
  | .integer => match v.toInteger with
    | .ok n => .ok (.int n)
    | .error f => .error (.memberValue f)

/-- The members of an enumeration from those that are written, after the ones made so far. -/
def membersFrom (base : EnumBase) (made : List (Text × Value)) :
    List (Text × Value) → Except ClassFault (List (Text × Value))
  | [] => .ok made
  | (name, written) :: rest =>
    if isSetOff "__" name then membersFrom base made rest
    else do
      let value ← memberValue base written
      let same := made.find? fun m => m.2.same value
      membersFrom base (made ++ [same.getD (name, value)]) rest

/-- What is wrong with the names of members, of which some were seen. -/
def memberNameFault? (seen : List (Text × Value)) : List (Text × Value) → Option ClassFault
  | [] => none
  | (name, v) :: rest =>
    if isSetOff "_" name then some (.reservedMember name)
    else match seen.find? (·.1 == name) with
      | some (_, earlier) => some (.duplicateMember name earlier)
      | none => memberNameFault? (seen ++ [(name, v)]) rest

/-- The members of an enumeration. -/
def enumMembers (base : EnumBase) (members : List (Text × Value)) :
    Except ClassFault (List (Text × Value)) :=
  let reserved := members.find? fun m => m.1 == Text.ofString "mro" || m.1.isEmpty
  match memberNameFault? [] members, reserved with
  | some fault, _ => .error fault
  | none, some (name, _) => .error (.member name)
  | none, none => membersFrom base [] members

/-! ### Fields -/

/-- What is wrong with the names of the fields of a data class, of which some were seen. -/
def fieldNameFault? (seen : List Text) : List Text → Option ClassFault
  | [] => none
  | name :: names =>
    if seen.contains name then some (.duplicateField name)
    else if reservedWords.contains name then some (.fieldKeyword name)
    else fieldNameFault? (name :: seen) names

/-- Whether a value could be changed by all who use it. -/
def isMutable : Value → Bool
  | .list _ => true
  | .set frozen _ => !frozen
  | .dict _ => true
  | .record _ _ _ _ => true
  | _ => false

/-- What is wrong with the defaults of the fields of a data class. -/
def defaultFault? (fields : List (Text × Presence)) : Option ClassFault :=
  let shared := fields.findSome? fun (name, p) => match p with
    | .default v => if isMutable v then some (.mutableDefault v.className name) else none
    | _ => none
  let after := (fields.dropWhile fun f => match f.2 with
    | .default _ => false
    | _ => true).findSome? fun (name, p) => match p with
      | .default _ => none
      | _ => some (.defaultBefore name)
  shared <|> after

/-- The name that the settings of a model have among its members. -/
def settingsName : Text := "model_config"

/-- What is wrong with the settings of a model that are given as a field of it. -/
def settingsFault? (fields : List (Text × Presence)) : Option ClassFault :=
  fields.findSome? fun (name, p) =>
    if name != settingsName then none
    else match p with
      | .default v =>
        if v.isTruthy then match v with
          | .dict _ => none
          | v => some (.settings v.className)
        else none
      | _ => some (.settings "ellipsis")

/-- What is wrong with the fields of a class, whose types are right. -/
def fieldsFault? (kind : ClassKind) (fields : List (Text × Presence)) : Option ClassFault :=
  match kind with
  | .dataclass => fieldNameFault? [] (fields.map (·.1)) <|> defaultFault? fields
  | .model _ => settingsFault? fields
  | .typedDict => none

mutual

/-- The first declaration within a type that declares no class. -/
def fault? : TypeExpr → Option ClassFault
  | list t => fault? t
  | set t => fault? t
  | frozenSet t => fault? t
  | tuple ts => faultAmong? ts
  | tupleOf t => fault? t
  | dict k v => fault? k <|> fault? v
  | union ts => faultAmong? ts
  | annotated t _ => fault? t
  | enum _ members base => match enumMembers base members with
    | .ok _ => none
    | .error f => some f
  | record kind _ fields =>
    faultInFields? fields <|> fieldsFault? kind (fields.map fun f => (f.1, f.2.1))
  | _ => none

def faultAmong? : List TypeExpr → Option ClassFault
  | [] => none
  | t :: ts => fault? t <|> faultAmong? ts

def faultInFields? : List (Text × Presence × TypeExpr) → Option ClassFault
  | [] => none
  | (_, _, t) :: fs => fault? t <|> faultInFields? fs

end

/-- Whether a member that is written among the fields of a class is a field: a model keeps the
names that begin with an underscore, and that of its settings, for itself. -/
def isField (kind : ClassKind) (name : Text) : Bool :=
  match kind with
  | .model _ => !name.startsWith "_" && name != settingsName
  | _ => true

end TypeExpr

end GuardedTools
