import GuardedTools.Value

/-!
# Type expressions

The types that a declaration writes for its parameters and its result.  A class (a model, a data
class, a typed dictionary or an enumeration) is written out where it is used; two uses are uses of
one class when they are written alike, which `TypeExpr.same` decides.
-/

namespace GuardedTools

/-- The types that are named without arguments. -/
inductive AtomType where
  | str | int | float | bool | none
  | any
  | bytes | date | dateTime | time | duration | uuid | decimal | complex
  /-- Functions, which no JSON value stands for. -/
  | callable
  /-- Lists, maps, tuples and sets of anything. -/
  | anyList | anyDict | anyTuple | anySet
deriving DecidableEq, Inhabited, Repr

/-- What a class does with members that it does not declare. -/
inductive Extra where
  | ignore
  | allow
  | forbid
deriving DecidableEq, Inhabited, Repr

/-- What is set about a model beside its fields. -/
structure ModelOptions where
  extra : Extra := .ignore
  title : Option Text := none
  description : Option Text := none
deriving DecidableEq, Inhabited, Repr

/-- Kinds of classes with fields. -/
inductive ClassKind where
  | model (options : ModelOptions)
  | dataclass
  | typedDict
deriving DecidableEq, Inhabited, Repr

/-- What stands for a field that is not given. -/
inductive Presence where
  /-- The field must be given. -/
  | required
  /-- The field may be absent. -/
  | optional
  /-- The field then has a value. -/
  | default (value : Value)
deriving Inhabited, Repr

/-- A type expression. -/
inductive TypeExpr where
  | atom (a : AtomType)
  | list (item : TypeExpr)
  | set (item : TypeExpr)
  | frozenSet (item : TypeExpr)
  | tuple (items : List TypeExpr)
  | tupleOf (item : TypeExpr)
  | dict (key value : TypeExpr)
  | union (members : List TypeExpr)
  | literal (values : List Value)
  /-- An enumeration, with its members as they are written. -/
  | enum (name : Text) (members : List (Text × Value)) (base : EnumBase)
  | record (kind : ClassKind) (name : Text) (fields : List (Text × Presence × TypeExpr))
  /-- The class whose field it is the type of. -/
  | self
  /-- A type with arguments that narrow or describe it. -/
  | annotated (type : TypeExpr) (arguments : List (Text × Value))
  /-- A thing about which nothing is declared, by how messages show it. -/
  | undeclared (shown : Text)
  /-- The instances of a class, which no written value is one of. -/
  | instances (className : Text)
  /-- A type with arguments that it does not take. -/
  | misused (detail : Text)
  /-- A type that is written as a text. -/
  | forward (text : Text)
deriving Inhabited, Repr

namespace TypeExpr

/-- A type or nothing. -/
def optional (t : TypeExpr) : TypeExpr := union [t, atom .none]

/-- Whether two values are written alike: equal and of one class. -/
def sameValue (x y : Value) : Bool := x.className == y.className && x.same y

/-- Whether two lists of named values are written alike. -/
def sameNamed : List (Text × Value) → List (Text × Value) → Bool
  | [], [] => true
  | (k, x) :: xs, (l, y) :: ys => k == l && sameValue x y && sameNamed xs ys
  | _, _ => false

/-- Whether two lists of values are written alike. -/
def sameValues : List Value → List Value → Bool
  | [], [] => true
  | x :: xs, y :: ys => sameValue x y && sameValues xs ys
  | _, _ => false

def samePresence : Presence → Presence → Bool
  | .required, .required => true
  | .optional, .optional => true
  | .default x, .default y => sameValue x y
  | _, _ => false

mutual

/-- Whether two types are written alike. -/
def same : TypeExpr → TypeExpr → Bool
  | atom a, atom b => a == b
  | list a, list b => same a b
  | set a, set b => same a b
  | frozenSet a, frozenSet b => same a b
  | tuple xs, tuple ys => sameAll xs ys
  | tupleOf a, tupleOf b => same a b
  | dict k v, dict l w => same k l && same v w
  | union xs, union ys => sameAll xs ys
  | literal xs, literal ys => sameValues xs ys
  | enum n ms b, enum n' ms' b' => n == n' && sameNamed ms ms' && b == b'
  | record k n fs, record k' n' fs' => k == k' && n == n' && sameFields fs fs'
  | self, self => true
  | annotated t as, annotated u bs => same t u && sameNamed as bs
  | undeclared s, undeclared t => s == t
  | instances s, instances t => s == t
  | misused s, misused t => s == t
  | forward s, forward t => s == t
  | _, _ => false

def sameAll : List TypeExpr → List TypeExpr → Bool
  | [], [] => true
  | x :: xs, y :: ys => same x y && sameAll xs ys
  | _, _ => false

def sameFields :
    List (Text × Presence × TypeExpr) → List (Text × Presence × TypeExpr) → Bool
  | [], [] => true
  | (k, p, x) :: xs, (l, q, y) :: ys => k == l && samePresence p q && same x y && sameFields xs ys
  | _, _ => false

end

/-- The members of a union without repetitions, unions among them opened. -/
def flatten (ts : List TypeExpr) : List TypeExpr :=
  let opened := ts.flatMap fun t => match t with
    | union members => members
    | t => [t]
  opened.foldl (fun kept t => if kept.any (same t) then kept else kept ++ [t]) []

/-- The union of types: one type if they are all the same. -/
def unionOf (ts : List TypeExpr) : TypeExpr :=
  match flatten ts with
  | [t] => t
  | ts => union ts

/-- The type of some values, each of them once. -/
def literalOf (values : List Value) : TypeExpr :=
  literal (values.foldl (fun kept v =>
    if kept.any (sameValue v) then kept else kept ++ [v]) [])

/-- The class of a name about which nothing else is declared. -/
def plainClass (name : Text) : TypeExpr := undeclared ("<class 'm." ++ name ++ "'>")

end TypeExpr

end GuardedTools
