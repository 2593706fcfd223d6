import GuardedTools.TypeExpr
import GuardedTools.Value.Display

/-!
# Candidates

What is offered as a tool: mostly a function, but anything may be offered, and most other things
are refused.  A function has a declared call shape and a body; the body is a function of the
arguments, because nothing is asked of it but what it returns or raises.

A candidate that was marked as a tool carries the mark (`Mark`).  A function made as a wrapper of
another one takes over its names and its mark.
-/

namespace GuardedTools

/-- How an argument can be passed. -/
inductive ParameterKind where
  | normal
  | keywordOnly
  | positionalOnly
  | variadic
  | variadicKeyword
deriving DecidableEq, Inhabited, Repr

/-- A parameter of a function. -/
structure Parameter where
  name : Text
  kind : ParameterKind := .normal
  type : Option TypeExpr := none
  default : Option Value := none
deriving Inhabited, Repr

/-- How a function runs. -/
inductive Flavor where
  | plain
  | coroutine
  | generator
  | asyncGenerator
deriving DecidableEq, Inhabited, Repr

/-- What a body raises. -/
inductive Raised where
  /-- A failure that the tool reports to its caller. -/
  | toolError (message : Text)
  /-- Any other error, of a named class. -/
  | error (className message : Text)
deriving DecidableEq, Inhabited, Repr

def Raised.className : Raised → Text
  | toolError _ => "ToolError"
  | error c _ => c

def Raised.message : Raised → Text
  | toolError m => m
  | error _ m => m

/-- What running a body comes to. -/
inductive Outcome where
  | returned (value : Value)
  | raised (error : Raised)
deriving Inhabited, Repr

/-- The arguments of a call by name, in the order of the parameters. -/
abbrev Arguments := List (Text × Value)

/-- Whether a call can give the argument of a parameter by its name. -/
def Parameter.isByName (p : Parameter) : Bool := p.kind = .normal || p.kind = .keywordOnly

/-- What a parameter stands for in a call by name: what is given, or its default. -/
def Parameter.argument? (given : Arguments) (p : Parameter) : Option Value :=
  ((given.find? (·.1 = p.name)).map (·.2)).or p.default

/-- A function as it is declared. -/
structure Function where
  name : Text
  /-- The name with those of the classes and functions around it. -/
  qualifiedName : Text
  module : Option Text
  parameters : List Parameter
  result : Option TypeExpr
  flavor : Flavor := .plain
  /-- Whether its module holds, under the qualified name, a class that has exactly this function as
  a static member. -/
  isStaticMember : Bool := false
  body : Arguments → Outcome
deriving Inhabited

/-- The mark of a tool: what it was declared with. -/
structure Mark where
  description : Value
  name : Option Value
deriving Inhabited, Repr

/-- What is offered as a tool. -/
inductive Candidate where
  /-- A function, perhaps made as a wrapper of another candidate. -/
  | function (f : Function) (wrapped : Option Candidate) (mark : Option Mark)
  | boundMethod (f : Function)
  | staticMethod (of : Candidate) (mark : Option Mark)
  | classMethod (of : Candidate)
  | partialCall (of : Candidate)
  | classObject (module : Option Text) (qualifiedName : Text)
  /-- An object of a class, with the text it shows itself as. -/
  | callableObject (className shown : Text)
  /-- A function or method that is built in. -/
  | builtin (module : Option Text) (qualifiedName className : Text)
  | value (v : Value)
deriving Inhabited

namespace Function

/-- The qualified name after the module, as diagnostics show it. -/
def label (f : Function) : Text :=
  let name := if f.qualifiedName.isEmpty then f.name else f.qualifiedName
  match f.module with
  | some m => if m.isEmpty then name else m ++ "." ++ name
  | none => name

/-- The parameters of which a call by name must give a value and does not. -/
def missing (f : Function) (given : Arguments) (kind : ParameterKind) : List Text :=
  (f.parameters.filter fun p => p.kind = kind && p.default.isNone
    && !(p.isByName && (given.map (·.1)).contains p.name)).map (·.name)

/-- What a call by name gives that is not the argument of a parameter of that name. -/
def surplus (f : Function) (given : Arguments) : Arguments :=
  given.filter fun a => !f.parameters.any fun p => p.isByName && p.name = a.1

/-- Whether a function takes arguments of any name. -/
def takesSurplus (f : Function) : Bool := f.parameters.any (·.kind = .variadicKeyword)

/-- What a parameter stands for in a call by name, of whatever kind it is. -/
def argument? (f : Function) (given : Arguments) (p : Parameter) : Option Value :=
  match p.kind with
  | .normal | .keywordOnly => p.argument? given
  | .positionalOnly => p.default
  | .variadic => some (.tuple [])
  | .variadicKeyword => some (.dict ((f.surplus given).map fun a => (.text a.1, a.2)))

/-- Why a call does not bind. -/
def bindingError (f : Function) (fault : Text) : Raised :=
  .error "TypeError" (f.qualifiedName ++ "() " ++ fault)

/-- That a call lacks arguments. -/
def missingError (f : Function) (manner : Text) (names : List Text) : Raised :=
  f.bindingError ("missing " ++ Text.ofNat names.length ++ " required " ++ manner ++ " argument"
    ++ (if names.length = 1 then Text.empty else "s") ++ ": " ++ Text.quotedList names)

/-- That a call gives an argument of a name that no parameter has, or that is only taken by position. -/
def surplusError (f : Function) (given : Arguments) (name : Text) : Raised :=
  let byPosition := f.parameters.filter fun p =>
    p.kind = .positionalOnly && (given.map (·.1)).contains p.name
  match byPosition.map (·.name) with
  | [] => f.bindingError ("got an unexpected keyword argument " ++ name.quoted)
  | names => f.bindingError ("got some positional-only arguments passed as keyword arguments: '"
      ++ Text.intercalate ", " names ++ "'")

/-- The arguments with which a call by name enters the body: one for each parameter, in the order of
the parameters. -/
def bind (f : Function) (given : Arguments) : Except Raised Arguments :=
  match f.surplus given, f.takesSurplus with
  | a :: _, false => .error (f.surplusError given a.1)
  | _, _ =>
    match f.missing given .positionalOnly ++ f.missing given .normal, f.missing given .keywordOnly with
    | [], [] =>
      .ok (f.parameters.filterMap fun p => (f.argument? given p).map fun v => (p.name, v))
    | [], names => .error (f.missingError "keyword-only" names)
    | names, _ => .error (f.missingError "positional" names)

/-- What calling a function by name comes to; a call that does not bind does not enter the body. -/
def call (f : Function) (given : Arguments) : Outcome :=
  match f.bind given with
  | .ok arguments => f.body arguments
  | .error e => .raised e

end Function

/-- A name after a module, if there is one. -/
def qualified (module : Option Text) (name : Text) : Text :=
  match module with
  | some m => if m.isEmpty then name else m ++ "." ++ name
  | none => name

namespace Candidate

/-- A call of a candidate with some arguments left out; further arguments of such a call leave it a
call of the same candidate. -/
def partialOf : Candidate → Candidate
  | partialCall of => partialCall of
  | c => partialCall c

/-- A candidate as a message quotes it when it has no name. -/
def shown : Candidate → Text
  | function f _ _ => "<function " ++ f.qualifiedName ++ ">"
  | boundMethod f => "<bound method " ++ f.qualifiedName ++ ">"
  | staticMethod of _ => "<staticmethod(" ++ shown of ++ ")>"
  | classMethod of => "<classmethod(" ++ shown of ++ ")>"
  | partialCall of => "functools.partial(" ++ shown of ++ ")"
  | classObject m n => "<class '" ++ qualified m n ++ "'>"
  | callableObject _ s => s
  | builtin _ n _ => "<built-in function " ++ n ++ ">"
  | value v => v.shown

/-- The qualified name of a candidate, if it has one; what wraps a candidate as a member of a class
takes its name over. -/
def name? : Candidate → Option Text
  | function f _ _ => if f.label.isEmpty then none else some f.label
  | boundMethod f => if f.label.isEmpty then none else some f.label
  | staticMethod of _ => name? of
  | classMethod of => name? of
  | partialCall _ => none
  | classObject m n => some (qualified m n)
  | callableObject _ _ => none
  | builtin m n _ => some (qualified m n)
  | value _ => none

/-- What diagnostics call a candidate. -/
def label : Candidate → Text
  | partialCall of => "partial(" ++ label of ++ ")"
  | staticMethod of _ => inner of
  | classMethod of => inner of
  | c => c.name?.getD c.shown
where
  /-- What a member of a class is called after the candidate in it. -/
  inner : Candidate → Text
    | partialCall of => "partial(" ++ label of ++ ")"
    | c => c.name?.getD c.shown

/-- The name of the class of a candidate. -/
def className : Candidate → Text
  | function _ _ _ => "function"
  | boundMethod _ => "method"
  | staticMethod _ _ => "staticmethod"
  | classMethod _ => "classmethod"
  | partialCall _ => "partial"
  | classObject _ _ => "type"
  | callableObject c _ => c
  | builtin _ _ c => c
  | value v => v.className

/-- The module that a candidate says it belongs to. -/
def module? : Candidate → Option Text
  | function f _ _ => f.module
  | boundMethod f => f.module
  | staticMethod of _ => module? of
  | classMethod of => module? of
  | partialCall _ => none
  | classObject m _ => m
  | callableObject _ _ => none
  | builtin m _ _ => m
  | value _ => none

/-- The function that a call of a candidate runs, through static members. -/
def function? : Candidate → Option Function
  | function f _ _ => some f
  | boundMethod f => some f
  | staticMethod of _ => function? of
  | classMethod of => function? of
  | _ => none

/-- The parameters of what is built in. -/
def builtinParameters (name className : Text) : List Parameter :=
  let keyword (name : Text) (default : Value) : Parameter :=
    { name, kind := .keywordOnly, default := some default }
  match name.toStringLossy, className.toStringLossy with
  | "len", _ => [{ name := "obj", kind := .positionalOnly }]
  | "print", _ => [{ name := "args", kind := .variadic }, keyword "sep" (.text " "),
      keyword "end" (.text "\n"), keyword "file" .null, keyword "flush" (.bool false)]
  | _, "method_descriptor" => [{ name := "self", kind := .positionalOnly }]
  | _, _ => []

/-- The parameters that a call of a candidate takes. -/
def parameters : Candidate → List Parameter
  | function f _ _ => f.parameters
  | boundMethod f => f.parameters.drop 1
  | staticMethod of _ => parameters of
  | classMethod of => parameters of
  | partialCall of => parameters of
  | builtin _ name className => builtinParameters name className
  | _ => []

end Candidate

end GuardedTools
