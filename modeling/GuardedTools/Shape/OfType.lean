import GuardedTools.Shape.Limits

/-!
# Shapes of types

`TypeExpr.shape` finds the shape of a type in a context (`Context`): the arguments of a tool refuse
members that are not declared and numbers that are not finite, and so do data classes and typed
dictionaries among them, while a model decides for itself.
-/

namespace GuardedTools.TypeExpr

/-- The shape of an atomic type. -/
def atomShape (context : Context) : AtomType → Shape
  | .str => .str {} none
  | .int => .int {}
  | .float => .float context.finite {}
  | .bool => .bool
  | .none => .none
  | .any => .any
  | .bytes => .bytes {}
  | .date => .date {}
  | .dateTime => .dateTime {}
  | .time => .time {}
  | .duration => .duration {}
  | .uuid => .uuid
  | .decimal => .decimal true {} {}
  | .complex => .complex
  | .callable => .callable
  | .anyList => .list .any {}
  | .anyDict => .dict .any .any {}
  | .anyTuple => .tupleOf .any {}
  | .anySet => .set false .any {}

/-- The shape of a union: whether nothing is among its members is said apart. -/
def unionShape (hasNone : Bool) (members : List Shape) : Shape :=
  let core := match members with
    | [s] => s
    | ss => .union ss
  if hasNone then (if members.isEmpty then .none else .nullable core) else core

/-- Whether a type is that of nothing. -/
def isNone : TypeExpr → Bool
  | atom .none => true
  | _ => false

/-- What a class does with members it does not declare, and the context of its fields. -/
def classContext (context : Context) : ClassKind → Extra × Context
  | .model options => (options.extra, { extra := options.extra, inClass := true })
  | _ => (context.extra, { context with inClass := true })

/-- The shapes of parts, whose faults are told as those of the whole. -/
def inside {α : Type} (kind : Text) (parts : Except TypeFault α) : Except TypeFault α :=
  parts.mapError (TypeFault.within kind)

/-- The shapes of the fields of a class, whose faults are told as those of the class. -/
def insideClass {α : Type} (kind : ClassKind) (fields : Except TypeFault α) :
    Except TypeFault α :=
  match kind with
  | .model _ => inside "model" (inside "model-fields" fields)
  | .dataclass => inside "dataclass" (inside "dataclass-args" fields)
  | .typedDict => inside "typed-dict" fields

/-- What a union comes to: one type or nothing, or several types. -/
def unionKind (members : List TypeExpr) : Text :=
  if (members.filter fun t => !t.isNone).length = 1 then "nullable" else "union"

mutual

/-- The shape of a type in a context. -/
def shape (context : Context) : TypeExpr → Except TypeFault Shape
  | atom a => .ok (atomShape context a)
  | list t => do return .list (← inside "list" (shape context t)) {}
  | set t => do return .set false (← inside "set" (shape context t)) {}
  | frozenSet t => do return .set true (← inside "frozenset" (shape context t)) {}
  | tuple ts => do return .tuple (← inside "tuple" (shapes context ts)) {}
  | tupleOf t => do return .tupleOf (← inside "tuple" (shape context t)) {}
  | dict k v => do
    let k ← inside "dict" (shape context k)
    return .dict k (← inside "dict" (shape context v)) {}
  | union ts => do
    let (hasNone, members) ← inside (unionKind ts) (unionShapes context ts)
    return unionShape hasNone members
  | literal vs => if vs.isEmpty then .error .emptyLiteral else .ok (.literal vs)
  | enum n ms b => .ok (.enum n ((enumMembers b ms).toOption.getD []) b)
  | record kind name fields => do
    let (extra, inner) := classContext context kind
    return .record kind name extra (← insideClass kind (fieldShapes kind inner fields))
  | self => if context.inClass then .ok .self else .error .selfOutside
  | annotated t as => do (← shape context t).annotate as
  | undeclared shown => .error (.plainClass shown)
  | instances c => .ok (.instances c)
  | misused detail => .error (.arguments detail)
  | forward t => match ofText t with
    | .error fault => .error (.forward fault)
    | .ok _ => .ok .any

def shapes (context : Context) : List TypeExpr → Except TypeFault (List Shape)
  | [] => .ok []
  | t :: ts => do
    let s ← shape context t
    return s :: (← shapes context ts)

/-- Whether nothing is a member of a union, and the shapes of the others. -/
def unionShapes (context : Context) : List TypeExpr → Except TypeFault (Bool × List Shape)
  | [] => .ok (false, [])
  | t :: ts => do
    if t.isNone then
      let (_, ss) ← unionShapes context ts
      return (true, ss)
    else
      let s ← shape context t
      let (hasNone, ss) ← unionShapes context ts
      return (hasNone, s :: ss)

/-- The shapes of the members of a class that are fields of it. -/
def fieldShapes (kind : ClassKind) (context : Context) :
    List (Text × Presence × TypeExpr) → Except TypeFault (List (Text × Presence × Shape))
  | [] => .ok []
  | (name, presence, t) :: fs =>
    if isField kind name then do
      let s ← (shape context t).mapError (TypeFault.ofField name)
      return (name, presence, s) :: (← fieldShapes kind context fs)
    else fieldShapes kind context fs

end

/-- The shape of a type in which every text that can be read as a type stands for that type. -/
def openShape (context : Context) (t : TypeExpr) : Except TypeFault Shape :=
  match t.resolve with
  | .ok t => t.shape context
  | .error fault => .error (.forward fault)

end GuardedTools.TypeExpr
