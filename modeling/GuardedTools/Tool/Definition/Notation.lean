import GuardedTools.Tool.Definition
import GuardedTools.Tool.Sample
import GuardedTools.TypeExpr.Notation

/-!
# Written candidates

A notation for candidates, declarations and modules in JSON.  The body of a function is one of a
few that are written down: it returns an argument, all of them or a constant, or raises an error.
-/

namespace GuardedTools

/-- A candidate, or what is wrong with a mark in it. -/
abbrev Built := Except BuildFailure Candidate

namespace Json

/-- The members of an object with a key are smaller than the list of them. -/
theorem sizeOf_lookup_lt {key : Text} {j : Json} :
    {ms : List (Text × Json)} → lookup key ms = some j → sizeOf j < sizeOf ms
  | [], h => by simp [lookup] at h
  | (k, x) :: ms, h => by
    unfold lookup at h
    split at h
    · cases h; simp; omega
    · have := sizeOf_lookup_lt h
      simp; omega

/-- A member of an object is smaller than the object. -/
theorem sizeOf_get?_lt {j x : Json} {key : Text} (h : j.get? key = some x) :
    sizeOf x < sizeOf j := by
  cases j <;> simp [get?] at h
  have := sizeOf_lookup_lt h
  simp; omega

end Json

/-- The name that a definition gives to something; names that mean the same are one. -/
def Json.asName (j : Json) : Text := j.asText.normalized

namespace Outcome

/-- The error of a name, as its class shows it. -/
def raisedOf (name message : Text) : Raised :=
  match name.toStringLossy with
  | "KeyError" => .error name message.quoted
  | "AccessDenied" => .error name "Access denied"
  | "ToolError" => .toolError message
  | _ => .error name message

/-- What a written body does with its arguments. -/
def ofNotation (j : Json) (arguments : Arguments) : Outcome :=
  match (j.at "do").asText.toStringLossy with
  | "arg" =>
    .returned (((arguments.find? (·.1 == (j.at "name").asName)).map (·.2)).getD .null)
  | "args" => .returned (Value.ofMembers arguments)
  | "const" => .returned (Value.ofNotation (j.at "value"))
  | "tool_error" => .raised (.toolError (j.at "message").asText)
  | "raise" => .raised (raisedOf (j.at "error").asText (j.at "message").asText)
  | _ => .returned .null

end Outcome

/-- The parameter of a notation. -/
def Parameter.ofNotation (j : Json) : Parameter where
  name := (j.at "name").asName
  kind := match (j.at "kind").asText.toStringLossy with
    | "kwonly" => .keywordOnly
    | "posonly" => .positionalOnly
    | "varpos" => .variadic
    | "varkw" => .variadicKeyword
    | _ => .normal
  type := (j.at? "type").map TypeExpr.ofNotation
  default := (j.at? "default").map Value.ofNotation

def Flavor.ofNotation (j : Json) : Flavor :=
  match j.asText.toStringLossy with
  | "coroutine" => .coroutine
  | "generator" => .generator
  | "asyncgen" => .asyncGenerator
  | _ => .plain

/-- The scope of a notation. -/
def Scope.ofNotation (j : Json) : Scope :=
  match j.items with
  | [k, n] => { isClass := k.asText == Text.ofString "class", name := n.asName }
  | _ => { isClass := false, name := Text.empty }

/-- The mark of a notation: a description, with a name if it has one. -/
def Mark.ofNotation (j : Json) : Mark where
  description := Value.ofNotation (j.at "description")
  name := (j.at "name").nullable Value.ofNotation

namespace Definition

/-- The function of a notation in a module. -/
def functionOf (module : Text) (j : Json) : Function :=
  let name := (j.at "name").asName
  { name, qualifiedName := name
    module := some ((j.at? "module").elim module Json.asText)
    parameters := (j.at "params").items.map Parameter.ofNotation
    result := (j.at? "returns").map TypeExpr.ofNotation
    flavor := Flavor.ofNotation (j.at "flavor")
    body := Outcome.ofNotation (j.at "body") }

/-- The definition of a notation in a module. -/
def ofNotation (module : Text) (j : Json) : Definition where
  function := functionOf module j
  scopes := (j.at "scope").items.map Scope.ofNotation
  member := (j.at? "deco").map fun d =>
    if d.asText == Text.ofString "staticmethod" then .static else .ofClass
  access := match (j.at "access").asText.toStringLossy with
    | "raw" => .asKept
    | "instance" => .throughInstance
    | _ => .throughClass
  mark := (j.at? "tool").map Mark.ofNotation
  marksFirst := (j.at "tool_inner").isTrue
  newNames := {
    name := (j.at? "set_name").map Json.asText
    qualifiedName := (j.at? "set_qualname").map Json.asText
    module := (j.at? "set_module").map (Json.nullable Json.asText) }

end Definition

namespace Candidate

/-- The classes of the types of a function, if all of them are classes. -/
def classesOf (f : Function) : Except BuildFailure Unit :=
  match (f.parameters.filterMap (·.type) ++ f.result.toList).findSome? TypeExpr.fault? with
  | some fault => .error (.noClass fault)
  | none => .ok ()

/-- A candidate that holds no other. -/
def simpleOf (module : Text) (j : Json) : Built :=
  let name := (j.at "name").asName
  match (j.at "kind").asText.toStringLossy with
  | "function" => do
    let d := Definition.ofNotation module j
    classesOf d.function
    d.candidate
  | "lambda" => .ok (.function { Definition.functionOf module j with
      name := "<lambda>", qualifiedName := "<lambda>", module := some module, result := none }
      none none)
  | "class" => .ok (.classObject (some module)
      (Definition.scopedName ((j.at "scope").items.map Scope.ofNotation) name))
  | "instance" => .ok (.callableObject name (j.at "repr").asText)
  | "builtin" => .ok (match name.toStringLossy with
      | "int" => .classObject (some "builtins") "int"
      | "str.upper" => .builtin none "str.upper" "method_descriptor"
      | "bound.upper" => .builtin none "str.upper" "builtin_function_or_method"
      | _ => .builtin (some "builtins") name "builtin_function_or_method")
  | "sample" => .ok ((Modules.lookup? name (Sample.bindings "<utc-now>")).getD (.value .null))
  | _ => .ok (.value (Value.ofNotation (j.at "value")))

/-- The candidate of a notation in a module. -/
def ofNotation (module : Text) (j : Json) : Built :=
  match _h : j.get? (Text.ofString "of") with
  | none => simpleOf module j
  | some inner => do
    let c ← ofNotation module inner
    return match (j.at "kind").asText.toStringLossy with
      | "partial" => c.partialOf
      | "staticmethod" => .staticMethod c none
      | "classmethod" => .classMethod c
      | _ => c.wrapper
termination_by sizeOf j
decreasing_by exact Json.sizeOf_get?_lt _h

end Candidate

/-- A declaration of which the candidate is found as said. -/
def Declaration.ofNotation (candidate : Json → Built) (j : Json) :
    Except BuildFailure Declaration := do
  let c ← candidate (j.at "candidate")
  return { candidate := c
           description := (j.at? "description").elim (.text "d") Value.ofNotation
           name := (j.at "name").nullable Value.ofNotation }

namespace ModuleStep

/-- The candidate of a step, marked if it is described. -/
def candidateOf (module : Text) (j : Json) : Built := do
  let c ← Candidate.ofNotation module (j.at "candidate")
  match j.at "description" with
  | .null => return c
  | _ =>
    let m := Mark.ofNotation j
    c.mark m.description m.name

/-- The step of a notation in a module. -/
def ofNotation (module : Text) (j : Json) : ModuleStep :=
  let name := (j.at "bind").nullable Json.asText
  match j.at? "from", j.at? "plain" with
  | some source, _ => .importFrom name source.asText (j.at "attr").asText
  | none, some v => .define name (.ok (.value (Value.ofNotation v)))
  | none, none => .define name (candidateOf module j)

end ModuleStep

/-- The modules of a notation beside that of the sample tools, for which the time is a word. -/
def Modules.ofNotation (j : Json) : Modules :=
  let standard := Sample.modules "<utc-now>"
  { standard with sources := standard.sources ++
      (j.object?.getD []).map fun m => (m.1, m.2.items.map (ModuleStep.ofNotation m.1)) }

end GuardedTools
