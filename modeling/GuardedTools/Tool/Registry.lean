import GuardedTools.Dump
import GuardedTools.Log
import GuardedTools.Tool.Declaration

/-!
# Registry

The registry holds the tools that can be called, each under its name, in the order in which they
were registered.  While tools are registered it is open; once it is frozen nothing is added any
more.  A name is registered once: a second tool of the name is refused and the first one stays.
-/

namespace GuardedTools

/-- A tool that can be called. -/
structure Tool where
  descriptor : Descriptor
  entry : Function
  /-- The shape of the arguments. -/
  arguments : Shape
  /-- The shape of the result. -/
  result : Shape
deriving Inhabited

namespace Tool

def name (t : Tool) : Text := t.descriptor.name

/-- The class of the arguments. -/
def argumentsClass (t : Tool) : Text := ToolName.argumentsClass t.name

/-- The names of the fields of the arguments. -/
def argumentNames (t : Tool) : List Text :=
  match t.arguments with
  | .record _ _ _ fields => fields.map (·.1)
  | _ => []

/-- The tool of a descriptor and the function that is to be called for it. -/
def make (d : Descriptor) (f : Function) : Except BuildFailure Tool := do
  let hints ← f.hints.mapError .refused
  let typeFault : TypeFault → BuildFailure := .ofType f.label "parameters"
  let arguments ← (f.argumentsShape d.name hints).mapError typeFault
  let result ← ((hints.result.getD (.atom .any)).shape .plain).mapError typeFault
  return { descriptor := d, entry := f, arguments, result }

end Tool

/-- Why a tool is not registered. -/
inductive RegisterError where
  /-- The registry is frozen. -/
  | frozen (name : Text)
  | build (failure : BuildFailure)
deriving Inhabited, Repr

def RegisterError.message : RegisterError → Text
  | frozen name => "cannot register " ++ name.quoted ++ ": registry is frozen for serving"
  | build failure => failure.message

/-- The registered tools. -/
structure Registry where
  tools : List Tool := []
  isFrozen : Bool := false
deriving Inhabited

namespace Registry

def empty : Registry := {}

def size (r : Registry) : Nat := r.tools.length

/-- The tool of a name. -/
def find? (r : Registry) (name : Text) : Option Tool := r.tools.find? (·.name == name)

def contains (r : Registry) (name : Text) : Bool := (r.find? name).isSome

/-- The names of all tools. -/
def names (r : Registry) : List Text := r.tools.map Tool.name

/-- The descriptors of all tools in order of registration. -/
def descriptors (r : Registry) : List Descriptor := r.tools.map (·.descriptor)

/-- Nothing is added any more. -/
def freeze (r : Registry) : Registry := { r with isFrozen := true }

/-- Adds a tool at the end. -/
def register (r : Registry) (d : Descriptor) (f : Function) : Except RegisterError Registry :=
  if r.isFrozen then .error (.frozen d.name)
  else if r.contains d.name then .error (.build (.refused (.duplicateName d.name)))
  else match Tool.make d f with
    | .error e => .error (.build e)
    | .ok t => .ok { r with tools := r.tools ++ [t] }

/-- Registers what a declaration exports. -/
def declare (r : Registry) (d : Declaration) : Except RegisterError Registry := do
  let descriptor ← d.descriptor.mapError .build
  let f ← d.entryPoint.mapError .build
  r.register descriptor f

/-- Registers declarations in order; the first error ends it. -/
def declareAll (r : Registry) : List Declaration → Except RegisterError Registry
  | [] => .ok r
  | d :: ds => do
    let r ← r.declare d
    r.declareAll ds

/-- The registry of some declarations. -/
def build (ds : List Declaration) (frozen : Bool) : Except RegisterError Registry := do
  let r ← empty.declareAll ds
  return if frozen then r.freeze else r

end Registry

end GuardedTools
