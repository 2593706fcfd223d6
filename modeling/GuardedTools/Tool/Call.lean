import GuardedTools.Json.Reader
import GuardedTools.Text.Blank
import GuardedTools.Tool.Registry

/-!
# Calls

The arguments of a call come as a map, or as the JSON text of one, in UTF-8 if it comes as bytes.
`decodeArguments` brings them into one form and `Tool.accept` checks them against the shape of the
tool's arguments.  `Tool.finish` makes the value that a tool returned into the JSON that is sent.
-/

namespace GuardedTools

/-- Why arguments are refused. -/
inductive ArgumentsFault where
  | notUtf8
  | notJson (text : Text) (error : Json.ReadError)
  | notAMap
  | issues (title : Text) (issues : List Issue)
deriving DecidableEq, Inhabited, Repr

def ArgumentsFault.message : ArgumentsFault → Text
  | notUtf8 => "arguments are not UTF-8 text"
  | notJson t e => "arguments are not valid JSON: " ++ e.message t
  | notAMap => "arguments must be a JSON object"
  | issues title is => Issue.report title is

/-- Why arguments do not become those of a call: they are refused, or they are a text that is too
much for the reader. -/
inductive ArgumentsError where
  | refused (fault : ArgumentsFault)
  | tooManyDigits (count : Nat)
  | tooDeep
  /-- A limit that the tool declares makes no sense for a value. -/
  | inapplicable (message : Text)
deriving DecidableEq, Inhabited, Repr

/-- A text read as the arguments of a call; a blank one stands for no arguments. -/
def readArguments (t : Text) : Except ArgumentsError Value :=
  if t.isBlank then .ok (.dict [])
  else match Json.read Json.ReadLimits.standard t with
    | .ok j => .ok (Value.ofJson j)
    | .error (.tooManyDigits n) => .error (.tooManyDigits n)
    | .error .tooDeep => .error .tooDeep
    | .error e => .error (.refused (.notJson t e))

/-- A value that is a map. -/
def requireMap (v : Value) : Except ArgumentsError Value :=
  match v with
  | .dict _ => .ok v
  | _ => .error (.refused .notAMap)

/-- The arguments that a value stands for. -/
def decodeArguments (v : Value) : Except ArgumentsError Value :=
  match v with
  | .null => .ok (.dict [])
  | .bytes bs => match Utf8.decode bs with
    | .ok t => (readArguments t).bind requireMap
    | .error _ => .error (.refused .notUtf8)
  | .text t => (readArguments t).bind requireMap
  | v => requireMap v

namespace Tool

/-- What a class of arguments says about itself under the name of a field, where this is not the
field: that nothing beside its fields was kept, and which fields were given. -/
def reserved? (given : List Text) (name : Text) : Option Value :=
  if name = "model_extra" then some .null
  else if name = "model_fields_set" then some (.set false (given.map .text))
  else none

/-- The fields of accepted arguments, as the tool gets them. -/
def argumentsOf (given : Value) (accepted : Value) : Arguments :=
  match accepted with
  | .record _ _ fields _ =>
    let names := match given with
      | .dict es => (fields.map (·.1)).filter fun n => (Value.find? (.text n) es).isSome
      | _ => []
    fields.map fun (n, v) => (n, (reserved? names n).getD v)
  | _ => []

/-- Checks the arguments of a call. -/
def accept (t : Tool) (given : Value) : Except ArgumentsError Arguments :=
  match t.arguments.check given with
  | .ok a => .ok (argumentsOf given a.value)
  | .error issues => match Issue.inapplicable? issues with
    | some message => .error (.inapplicable message)
    | none => .error (.refused (.issues t.argumentsClass issues))

/-- The JSON of a value that a tool returned, if it is a result of the tool. -/
def finish (t : Tool) (returned : Value) : Option Json :=
  match t.result.check returned with
  | .error _ => none
  | .ok a => match t.result.dump a.value with
    | .error _ => none
    | .ok j => if j.isSendable then some j else none

end Tool

end GuardedTools
