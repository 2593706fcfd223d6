import GuardedTools.Tool.Module
import GuardedTools.Tool.Signature

/-!
# Definitions

How a function comes to be offered: it is defined within classes and other functions, perhaps
decorated as a static or class member, perhaps marked as a tool, perhaps renamed afterwards, and it
is reached through the class it is a member of.  `Definition.candidate` is what is offered then.
-/

namespace GuardedTools

/-- What a function can be defined within. -/
structure Scope where
  isClass : Bool
  name : Text
deriving DecidableEq, Inhabited, Repr

/-- How a function is decorated as a member of a class. -/
inductive MemberKind where
  | static
  | ofClass
deriving DecidableEq, Inhabited, Repr

/-- How a member of a class is reached: through the class, as the class keeps it, or through an
instance. -/
inductive Access where
  | throughClass
  | asKept
  | throughInstance
deriving DecidableEq, Inhabited, Repr

/-- The names that a function is given after its definition. -/
structure Renaming where
  name : Option Text := none
  qualifiedName : Option Text := none
  /-- The module, which may be none. -/
  module : Option (Option Text) := none
deriving DecidableEq, Inhabited, Repr

/-- A function as it is defined. -/
structure Definition where
  function : Function
  /-- The classes and functions around it, outermost first. -/
  scopes : List Scope := []
  member : Option MemberKind := none
  access : Access := .throughClass
  mark : Option Mark := none
  /-- Whether the function is marked before it is decorated. -/
  marksFirst : Bool := false
  newNames : Renaming := {}

namespace Definition

/-- A name within scopes; a function is not a member of the function around it. -/
def scopedName (scopes : List Scope) (name : Text) : Text :=
  Text.intercalate "."
    ((scopes.map fun s => if s.isClass then s.name else s.name ++ ".<locals>") ++ [name])

/-- Whether the innermost scope is a class. -/
def isInClass (d : Definition) : Bool := d.scopes.getLast?.any (·.isClass)

/-- The class of what calling a function of a flavor gives, if not its result. -/
def pendingClass? : Flavor → Option Text
  | .plain => none
  | .coroutine => some "coroutine"
  | .generator => some "generator"
  | .asyncGenerator => some "async_generator"

/-- The function with its qualified name; calling one that is not plain only makes an object. -/
def withScopes (d : Definition) : Function :=
  { d.function with
    qualifiedName := scopedName d.scopes d.function.name
    body := match pendingClass? d.function.flavor with
      | some c => fun _ => .returned (.object c)
      | none => d.function.body }

/-- What is held, and under which name, once a function is defined within scopes.  A class holds things
under the names that they have in qualified names; names that are private to a class are not told apart. -/
def heldIn (name : Text) (member : Option MemberKind) : List Scope → Text × Held
  | [] => (name, if member = some .static then .staticMember else .other)
  | s :: scopes =>
    let inner := heldIn name member scopes
    (s.name, if s.isClass then .ofClass inner.1 inner.2 else .other)

/-- The function with the names it is given afterwards.  It is a static member of its module only
while its names lead to it. -/
def rename (d : Definition) (f : Function) : Function :=
  let renamed := { f with
    name := d.newNames.name.getD f.name
    qualifiedName := d.newNames.qualifiedName.getD f.qualifiedName
    module := d.newNames.module.getD f.module }
  let top := heldIn d.function.name d.member d.scopes
  { renamed with
    isStaticMember := renamed.module == f.module && renamed.isStaticUnder top.1 top.2 }

/-- A candidate with the function in it renamed. -/
def renamed (d : Definition) : Candidate → Candidate
  | .function f wrapped mark => .function (d.rename f) wrapped mark
  | .staticMethod of mark => .staticMethod (renamed d of) mark
  | .classMethod of => .classMethod (renamed d of)
  | c => c

/-- A candidate with the mark of the definition. -/
def marked (d : Definition) (c : Candidate) : Except BuildFailure Candidate :=
  match d.mark with
  | some m => c.mark m.description m.name
  | none => .ok c

/-- The decorated and marked function. -/
def decorated (d : Definition) : Except BuildFailure Candidate := do
  let plain : Candidate := .function d.withScopes none none
  match d.member with
  | none => d.marked plain
  | some kind =>
    let plain ← if d.marksFirst then d.marked plain else pure plain
    let kept : Candidate := match kind with
      | .static => .staticMethod plain none
      | .ofClass => .classMethod plain
    if d.marksFirst then pure kept else d.marked kept

/-- A member of a class, as it is reached. -/
def reached (access : Access) : Candidate → Candidate
  | .staticMethod of _ => of
  | .classMethod (.function f _ _) => .boundMethod f
  | .function f wrapped mark => match access with
    | .throughInstance => .boundMethod f
    | _ => .function f wrapped mark
  | c => c

/-- What is offered. -/
def candidate (d : Definition) : Except BuildFailure Candidate := do
  let kept := d.renamed (← d.decorated)
  return if d.isInClass && d.access != .asKept then reached d.access kept else kept

end Definition

namespace Candidate

/-- The function that wraps a candidate and takes over its names. -/
def wrapper (c : Candidate) : Candidate :=
  match c.function? with
  | some f =>
    .function { f with flavor := .plain, isStaticMember := false, parameters := c.parameters }
      (some c) none
  | none =>
    let qualifiedName : Text := match c with
      | classObject _ n => n
      | builtin _ n _ => n
      | _ => "wrapper"
    .function { name := qualifiedName.afterLast '.', qualifiedName, module := c.module?
                parameters := c.parameters, result := none
                body := fun _ => .returned .null } (some c) none

end Candidate

end GuardedTools
