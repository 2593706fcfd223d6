import GuardedTools.Tool.BuildError
import GuardedTools.Tool.Candidate

/-!
# Eligible functions

A candidate is eligible as a tool if it is a plain synchronous function that binds no receiver and
takes all its arguments by name.  `Candidate.eligible` returns that function; a static member is
taken out of its wrapper first, and one that is reached through its class is recognised by the
class holding it, to which its qualified name leads (`Function.isStaticUnder`).
-/

namespace GuardedTools

/-- The name segment of a function between that of the function around it and its own. -/
def localsSegment : Text := "<locals>"

/-- What a module or a class holds under a name, as the search for a static member sees it. -/
inductive Held where
  /-- A class that holds something under a name. -/
  | ofClass (name : Text) (held : Held)
  /-- The function that is looked for, as a static member. -/
  | staticMember
  | other
deriving DecidableEq, Inhabited, Repr

/-- Whether names lead through classes to the static member, from what is held under a name. -/
def Held.isStaticAt (name : Text) (held : Held) : List Text → Bool
  | [] => false
  | [part] => part == name && held == staticMember
  | part :: parts => part == name && match held with
    | ofClass inner held => held.isStaticAt inner parts
    | _ => false

namespace Function

/-- Whether the innermost scope around a function is a class, as its qualified name tells. -/
def isInClassBody (f : Function) : Bool :=
  match (f.qualifiedName.splitOn '.').reverse with
  | _ :: scope :: _ => scope != localsSegment
  | _ => false

/-- Whether the qualified name of a function leads to it as a static member, from what its module holds
under a name; what is defined within a function is not looked for. -/
def isStaticUnder (f : Function) (name : Text) (held : Held) : Bool :=
  let parts := f.qualifiedName.splitOn '.'
  !parts.contains localsSegment && held.isStaticAt name parts

/-- The kind of a function that cannot be called synchronously. -/
def asynchronousKind? (f : Function) : Option Text :=
  match f.flavor with
  | .plain => none
  | .coroutine => some "coroutine"
  | .asyncGenerator => some "async generator"
  | .generator => some "generator"

/-- Why an argument of a parameter cannot be passed by name. -/
def refusedParameter? (p : Parameter) : Option (Text × Text) :=
  match p.kind with
  | .variadic => some ("parameter '*" ++ p.name ++ "'", "variadic parameters")
  | .variadicKeyword => some ("parameter '**" ++ p.name ++ "'", "variadic parameters")
  | .positionalOnly => some ("parameter '" ++ p.name ++ "'", "positional-only")
  | _ => none

/-- The checks on the kind of a function: that it is synchronous, and that it is no method. -/
def checkKind (label : Text) (isStatic : Bool) (f : Function) : Except BuildError Unit :=
  match f.asynchronousKind? with
  | some kind => .error (.unsupportedKind label kind)
  | none =>
    if !isStatic && f.isInClassBody && !f.isStaticMember then
      .error (.notAFreeFunction label "defined in a class body")
    else .ok ()

/-- The check that the arguments of a function can be passed by name. -/
def checkParameters (label : Text) (f : Function) : Except BuildError Unit :=
  match f.parameters.findSome? refusedParameter? with
  | some (position, detail) => .error (.unsupportedType label position detail)
  | none => .ok ()

end Function

namespace Candidate

/-- What is offered once a static member is taken out of its wrapper, and whether it was in one. -/
def unwrapStatic : Candidate → Candidate × Bool
  | staticMethod of _ => (of, true)
  | c => (c, false)

/-- Why a candidate that is not a function is refused. -/
def refusal? : Candidate → Option Text
  | function _ _ _ => none
  | classMethod _ => some "classmethod"
  | boundMethod _ => some "bound method"
  | classObject _ _ => some "class"
  | partialCall _ => some "partial object"
  | c => some (c.className ++ " object")

/-- The class that a candidate is or wraps, if it is one that does not say how it is called. -/
def unsigned? : Candidate → Option Text
  | classObject (some m) name => if m == Text.ofString "builtins" then some name else none
  | function _ (some c) _ => unsigned? c
  | staticMethod c _ => unsigned? c
  | classMethod c => unsigned? c
  | partialCall c => unsigned? c
  | _ => none

/-- That a candidate says how it is called. -/
def signed (c : Candidate) : Except BuildFailure Unit :=
  match c.unsigned? with
  | some name => .error (.noSignature name)
  | none => .ok ()

/-- The function of an eligible candidate. -/
def eligible (c : Candidate) : Except BuildFailure Function :=
  let (inner, isStatic) := c.unwrapStatic
  match inner with
  | function f wrapped mark => do
    (f.checkKind c.label isStatic).mapError .refused
    (function f wrapped mark).signed
    (f.checkParameters c.label).mapError .refused
    return f
  | other => .error (.refused (.notAFreeFunction c.label (other.refusal?.getD "")))

/-- What is said of a candidate about which no types can be asked. -/
def notAsked (c : Candidate) : BuildFailure :=
  .refused (.unsupportedType c.label "annotations"
    (c.shown ++ " is not a module, class, method, or function."))

/-- The function that a candidate stands for as it is, whether or not it is eligible: under the
names of the candidate, and called as it is. -/
def entry (c : Candidate) : Except BuildFailure Function :=
  let named (module : Option Text) (name : Text) : Except BuildFailure Function := do
    c.signed
    return { name, qualifiedName := name, module, parameters := c.parameters, result := none
             body := fun _ => .returned .null }
  match c with
  | classObject m n => named m n
  | builtin m n _ => named m n
  | callableObject _ _ => .error c.notAsked
  | partialCall _ => .error c.notAsked
  | value _ => .error c.notAsked
  | c => do
    c.signed
    let f := c.function?.getD default
    return { f with parameters := c.parameters }

end Candidate

end GuardedTools
