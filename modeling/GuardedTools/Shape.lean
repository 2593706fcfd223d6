import GuardedTools.TypeExpr.Forward

/-!
# Shapes

A shape is what a type expression means for values: which ones it accepts and what is published
about it.  The arguments of an annotated type have become limits of the shape they apply to, or
notes that are only published; classes carry what they do with members they do not declare.

A limit keeps the value it was given as, which is published, beside the value of the limited kind
that others are compared with.
-/

namespace GuardedTools

/-- Limits on the length of a text or a collection. -/
structure LengthLimits where
  min : Option Nat := none
  max : Option Nat := none
deriving DecidableEq, Inhabited, Repr

/-- A limit on values of an ordered kind: as it was given, and as a value of that kind. -/
structure Limit where
  given : Value
  value : Value
deriving Inhabited, Repr

/-- A limit that is taken as it is given. -/
def Limit.plain (v : Value) : Limit := { given := v, value := v }

/-- Limits on values of an ordered kind. -/
structure Limits where
  multipleOf : Option Limit := none
  atMost : Option Limit := none
  below : Option Limit := none
  atLeast : Option Limit := none
  above : Option Limit := none
deriving Inhabited, Repr

/-- Whether there is no limit at all. -/
def Limits.isFree (l : Limits) : Bool :=
  l.atLeast.isNone && l.above.isNone && l.atMost.isNone && l.below.isNone && l.multipleOf.isNone

/-- Whether no length is too short or too long. -/
def LengthLimits.isFree (l : LengthLimits) : Bool := l.min.isNone && l.max.isNone

/-- Limits on the digits of a decimal: how many there are in all, and after the point. -/
structure DigitLimits where
  total : Option Nat := none
  places : Option Nat := none
deriving DecidableEq, Inhabited, Repr

/-- A limit put on values of a kind that has no limits of its own. -/
inductive Bound where
  | atLeast (v : Value)
  | above (v : Value)
  | atMost (v : Value)
  | below (v : Value)
  | multipleOf (v : Value)
  | minLength (v : Value)
  | maxLength (v : Value)
  | digits (most : Value)
  | places (most : Value)
  | finite
  | pattern (source : Text)
deriving Inhabited, Repr

/-- What a limit is called. -/
def Bound.name : Bound → Text
  | atLeast _ => "ge"
  | above _ => "gt"
  | atMost _ => "le"
  | below _ => "lt"
  | multipleOf _ => "multiple_of"
  | minLength _ => "min_length"
  | maxLength _ => "max_length"
  | digits _ => "max_digits"
  | places _ => "decimal_places"
  | finite => "forbid_inf_nan_check"
  | pattern _ => "pattern"

/-- What a type expression means for values. -/
inductive Shape where
  | any
  | none
  | bool
  | str (length : LengthLimits) (pattern : Option Text)
  | int (limits : Limits)
  | float (finite : Bool) (limits : Limits)
  | decimal (finite : Bool) (digits : DigitLimits) (limits : Limits)
  | complex
  | bytes (length : LengthLimits)
  | date (limits : Limits)
  | time (limits : Limits)
  | dateTime (limits : Limits)
  | duration (limits : Limits)
  | uuid
  | callable
  /-- Instances of a class, which no value that is given is one of. -/
  | instances (className : Text)
  | list (item : Shape) (length : LengthLimits)
  | set (frozen : Bool) (item : Shape) (length : LengthLimits)
  | tuple (items : List Shape) (length : LengthLimits)
  | tupleOf (item : Shape) (length : LengthLimits)
  | dict (key value : Shape) (length : LengthLimits)
  | nullable (inner : Shape)
  | union (members : List Shape)
  /-- A union of classes, told apart by the value of one field. -/
  | tagged (field : Text) (members : List (Value × Shape))
  | literal (values : List Value)
  | enum (name : Text) (members : List (Text × Value)) (base : EnumBase)
  | record (kind : ClassKind) (name : Text) (extra : Extra)
      (fields : List (Text × Presence × Shape))
  /-- The class whose field this is. -/
  | self
  /-- A shape about which more is published. -/
  | noted (notes : List (Text × Json)) (inner : Shape)
  /-- A shape with a limit that is looked at after it. -/
  | bounded (bound : Bound) (inner : Shape)
deriving Inhabited, Repr

/-- What surrounds a type. -/
structure Context where
  /-- What data classes and typed dictionaries do with members they do not declare. -/
  extra : Extra := .ignore
  /-- Whether numbers must be finite. -/
  finite : Bool := false
  /-- Whether it is a class, which its fields may then name as their type. -/
  inClass : Bool := false
deriving DecidableEq, Inhabited, Repr

/-- The context of a result, and of a type on its own. -/
def Context.plain : Context := {}

/-- The context of the arguments of a tool. -/
def Context.arguments : Context := { extra := .forbid, finite := true }

/-- Why a type has no shape. -/
inductive TypeFault where
  /-- Nothing is declared about a class. -/
  | plainClass (shown : Text)
  /-- A text within a class is not a type. -/
  | forward (fault : ForwardFault)
  /-- The members of a union are not told apart by a field. -/
  | notApart (detail : Text)
  /-- The arguments of a type are not what it takes. -/
  | arguments (detail : Text)
  /-- A literal allows no value. -/
  | emptyLiteral
  /-- A limit can be put to no use at all. -/
  | unusable (detail : Text)
  /-- An argument of an annotated type means nothing for its kind. -/
  | misapplied (argument kind : Text)
  /-- The class whose field it is the type of is named where there is no class. -/
  | selfOutside
deriving DecidableEq, Repr

/-- That something of a kind was not made, and why. -/
def TypeFault.notMade (kind detail : Text) : Text :=
  "Error building \"" ++ kind ++ "\" validator:\n  " ++ detail

/-- A fault of a part as a fault of what it is a part of. -/
def TypeFault.within (kind : Text) : TypeFault → TypeFault
  | .unusable detail => .unusable (notMade kind ("SchemaError: " ++ detail))
  | fault => fault

/-- A fault of a field as a fault of its class. -/
def TypeFault.ofField (name : Text) : TypeFault → TypeFault
  | .unusable detail => .unusable ("Field \"" ++ name ++ "\":\n  SchemaError: " ++ detail)
  | fault => fault

def TypeFault.message : TypeFault → Text
  | .plainClass shown =>
    "Unable to generate pydantic-core schema for " ++ shown
      ++ ". Set \x60arbitrary_types_allowed=True\x60 in the model_config to ignore this error or"
      ++ " implement \x60__get_pydantic_core_schema__\x60 on your type to fully support it."
  | .forward fault => fault.message
  | .notApart detail => detail
  | .arguments detail => detail
  | .emptyLiteral => "literal \"expected\" cannot be empty, obj=typing.Literal[()]"
  | .unusable detail => detail
  | .misapplied argument kind =>
    "Unable to apply constraint " ++ argument.quoted ++ " to schema of type " ++ kind.quoted
  | .selfOutside => "\x60typing.Self\x60 is invalid in this context"

namespace Shape

/-- The word for the kind of a shape. -/
def kind : Shape → Text
  | any => "any"
  | none => "none"
  | bool => "bool"
  | str _ _ => "str"
  | int _ => "int"
  | float _ _ => "float"
  | decimal _ _ _ => "decimal"
  | complex => "complex"
  | bytes _ => "bytes"
  | date _ => "date"
  | time _ => "time"
  | dateTime _ => "datetime"
  | duration _ => "timedelta"
  | uuid => "uuid"
  | callable => "callable"
  | instances _ => "is-instance"
  | list _ _ => "list"
  | set true _ _ => "frozenset"
  | set false _ _ => "set"
  | tuple _ _ => "tuple"
  | tupleOf _ _ => "tuple"
  | dict _ _ _ => "dict"
  | nullable _ => "nullable"
  | union _ => "union"
  | tagged _ _ => "tagged-union"
  | literal _ => "literal"
  | enum _ [] _ => "is-instance"
  | enum _ _ _ => "enum"
  | record (.model _) _ _ _ => "model"
  | record .dataclass _ _ _ => "dataclass"
  | record .typedDict _ _ _ => "typed-dict"
  | self => "definition-ref"
  | noted _ s => kind s
  | bounded (.pattern _) _ => "chain"
  | bounded _ _ => "function-after"

end Shape

end GuardedTools
