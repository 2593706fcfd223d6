import GuardedTools.Access.Gate
import GuardedTools.Tool.Call

/-!
# Dispatch

A call goes through the gate, to the tool of its name, through the check of its arguments, and into
the body of the tool; what the body returns is checked and sent.  Whatever goes wrong on the way is
told to the caller in one of three ways (`CallOutcome`), except that a text that is too much for the
reader of arguments, or a limit of the tool that makes no sense for what was given, ends the call
without an outcome (`CallFailure`).

A denied call, and a call of a tool that does not exist, have one outcome, which says nothing about
the reason.

The body of a tool is entered in one place only (`Dispatcher.dispatchIn`), through an `Entry`: a body
may do more than come to an outcome, and whatever else it does it does to a world that the dispatcher
does not look at.
-/

namespace GuardedTools

/-- What a caller is told. -/
inductive CallOutcome where
  | result (json : Json)
  | accessDenied
  | invalidArguments (tool hint : Text)
  | toolError (tool message : Text)
deriving Inhabited, Repr

namespace CallOutcome

/-- An error in a category, with details. -/
def errorJson (category message : Text) (details : List (String × Json)) : Json :=
  Json.record [("error", Json.record ([("category", .text category), ("message", .text message)]
    ++ if details.isEmpty then [] else [("details", Json.record details)]))]

/-- What is told to every caller that is denied. -/
def deniedMessage : Text := "Access denied"

/-- The JSON that is sent. -/
def toJson : CallOutcome → Json
  | result j => Json.record [("result", j)]
  | accessDenied => errorJson "access_denied" deniedMessage []
  | invalidArguments tool hint =>
    errorJson "validation_error" "Invalid input payload"
      [("tool_name", .text tool), ("hint", .text hint)]
  | toolError tool message => errorJson "tool_error" message [("tool_name", .text tool)]

end CallOutcome

/-- A call that may be run: a tool and its arguments. -/
structure ResolvedCall where
  tool : Tool
  arguments : Arguments
deriving Inhabited

/-- Calls the tool with the arguments by name. -/
def ResolvedCall.invoke (c : ResolvedCall) : Outcome := c.tool.entry.call c.arguments

/-- A way in which tools are entered: what running a call comes to in a world, and the world after
it.  A tool may have a memory of its own, and may give another answer each time. -/
abbrev Entry (ω : Type) := ResolvedCall → ω → Outcome × ω

/-- Entering tools that leave the world alone. -/
def Entry.pure {ω : Type} : Entry ω := fun c world => (c.invoke, world)

/-- Why a call does not come to the tool. -/
inductive CallRefusal where
  | accessDenied
  | arguments (error : ArgumentsError)
deriving DecidableEq, Inhabited, Repr

/-- Why a call has no outcome. -/
inductive CallFailure where
  | tooManyDigits (count : Nat)
  | tooDeep
  | inapplicable (message : Text)
deriving DecidableEq, Inhabited, Repr

/-- What a refusal to run a call of a tool comes to. -/
def CallRefusal.outcome (tool : Text) : CallRefusal → Except CallFailure CallOutcome
  | accessDenied => .ok .accessDenied
  | arguments (.refused fault) => .ok (.invalidArguments tool fault.message)
  | arguments (.tooManyDigits n) => .error (.tooManyDigits n)
  | arguments .tooDeep => .error .tooDeep
  | arguments (.inapplicable message) => .error (.inapplicable message)

/-- What answers calls. -/
structure Dispatcher (σ : Type) where
  registry : Registry
  gate : Gate σ
  /-- Whether running tools is traced. -/
  isTracing : Bool := false

namespace Dispatcher

variable {σ : Type}

/-- The call of a tool that is allowed. -/
def callOf (d : Dispatcher σ) (tool : Text) (given : Value) : Except CallRefusal ResolvedCall :=
  match d.registry.find? tool with
  | none => .error .accessDenied
  | some t => match decodeArguments given with
    | .error e => .error (.arguments e)
    | .ok v => match t.accept v with
      | .error e => .error (.arguments e)
      | .ok as => .ok { tool := t, arguments := as }

/-- Authorizes a call, and checks its arguments if it is allowed. -/
def resolve (d : Dispatcher σ) (j : Journal σ) (caller : Option Identity) (tool : Text)
    (given : Value) : Except CallRefusal ResolvedCall × Journal σ :=
  let (decision, j) := d.gate.authorize j caller tool
  match decision with
  | .deny _ => (.error .accessDenied, j)
  | .allow => (d.callOf tool given, j)

/-- The outcome of running a tool, and the event that tells of it. -/
def conclude (t : Tool) : Outcome → CallOutcome × LogEvent
  | .raised (.toolError message) => (.toolError t.name message, .toolFailed)
  | .raised (.error _ _) => (.toolError t.name "Tool execution failed", .toolCrashed)
  | .returned v => match t.finish v with
    | some json => (.result json, .toolExecuted)
    | none => (.toolError t.name "Tool returned an invalid result", .resultRefused)

/-- The span of running a tool, if it is traced. -/
def spans (d : Dispatcher σ) (t : Tool) (o : Outcome) : List Span :=
  if d.isTracing then
    [{ tool := t.name, error := match o with
        | .raised e => some e
        | .returned _ => none }]
  else []

/-- What a caller is told of a call that was run, and what is recorded of it. -/
def record (d : Dispatcher σ) (j : Journal σ) (c : ResolvedCall) (run : Outcome) :
    CallOutcome × Journal σ :=
  let (outcome, event) := conclude c.tool run
  (outcome,
    { j with
      log := j.log ++ [event]
      metrics := j.metrics.called c.tool.name
      spans := j.spans ++ d.spans c.tool run })

/-- What dispatching a call comes to. -/
structure Dispatched (σ : Type) where
  outcome : Except CallFailure CallOutcome
  /-- The call that was run, if the body of a tool was entered. -/
  entered : Option ResolvedCall
  journal : Journal σ

/-- Answers a call in a world, in which tools are entered in some way. -/
def dispatchIn {ω : Type} (enter : Entry ω) (d : Dispatcher σ) (j : Journal σ) (world : ω)
    (caller : Option Identity) (tool : Text) (given : Value) : Dispatched σ × ω :=
  match d.resolve j caller tool given with
  | (.error refusal, j) =>
    ({ outcome := refusal.outcome tool, entered := none, journal := j }, world)
  | (.ok call, j) =>
    let (run, world) := enter call world
    let (outcome, j) := d.record j call run
    ({ outcome := .ok outcome, entered := some call, journal := j }, world)

/-- Answers a call; tools leave the world alone. -/
def dispatch (d : Dispatcher σ) (j : Journal σ) (caller : Option Identity) (tool : Text)
    (given : Value) : Dispatched σ :=
  (d.dispatchIn Entry.pure j () caller tool given).1

end Dispatcher

end GuardedTools
