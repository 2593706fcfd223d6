import GuardedTools.Value.Display

/-!
# Loggers

The loggers of a program: the root and those with names.  Each has a level below which it says
nothing, filters that let events through, and handlers that events go to; events go on to the loggers
above, unless the logger keeps them.  A logger without a level of its own takes the one of the root
(`Loggers.isHeard`).
-/

namespace GuardedTools

/-- The level of a logger: a number, or a truth value that counts as zero or one. -/
inductive LoggerLevel where
  | number (n : Int)
  | truth (b : Bool)
deriving DecidableEq, Inhabited, Repr

namespace LoggerLevel

/-- No level of its own. -/
def unset : LoggerLevel := number 0

def info : LoggerLevel := number 20

def warning : LoggerLevel := number 30

/-- The names of levels; of two names for one level the first is the one that is told. -/
def names : List (Text × Int) := [
  ("CRITICAL", 50), ("ERROR", 40), ("WARNING", 30), ("INFO", 20), ("DEBUG", 10), ("NOTSET", 0),
  ("FATAL", 50), ("WARN", 30)]

/-- The number that a level counts as. -/
def toInt : LoggerLevel → Int
  | number n => n
  | truth b => if b then 1 else 0

/-- The level that a value names. -/
def ofValue? : Value → Option LoggerLevel
  | .int n => some (number n)
  | .bool b => some (truth b)
  | .text t => (names.find? (·.1 == t)).map fun level => number level.2
  | _ => none

/-- The name of a level. -/
def name (l : LoggerLevel) : Text :=
  match names.find? (·.2 == l.toInt) with
  | some (name, _) => name
  | none => "Level " ++ match l with
    | number n => Text.ofInt n
    | truth b => (Value.bool b).shown

end LoggerLevel

/-- What events go to: the handler that writes plain lines, or one that a configuration names. -/
inductive LogHandler where
  | plain
  | named (name : Value)
deriving Inhabited

namespace LogHandler

/-- Whether two handlers are one. -/
def same : LogHandler → LogHandler → Bool
  | plain, plain => true
  | named a, named b => a.same b
  | _, _ => false

end LogHandler

/-- A logger. -/
structure Logger where
  level : LoggerLevel := .unset
  handlers : List LogHandler := []
  /-- The names of its filters. -/
  filters : List Value := []
  isDisabled : Bool := false
  /-- Whether its events go on to the loggers above. -/
  propagates : Bool := true
deriving Inhabited

namespace Logger

/-- Adds a handler, unless it is there. -/
def addHandler (l : Logger) (h : LogHandler) : Logger :=
  if l.handlers.any h.same then l else { l with handlers := l.handlers ++ [h] }

/-- Adds a filter, unless it is there. -/
def addFilter (l : Logger) (filter : Value) : Logger :=
  if l.filters.any filter.same then l else { l with filters := l.filters ++ [filter] }

end Logger

/-- The root, or the name of another logger. -/
inductive LoggerName where
  | root
  | named (name : Text)
deriving DecidableEq, Inhabited, Repr

namespace LoggerName

/-- The logger that a value names: the word for the root and every value that says nothing name
the root, and of other values only texts are names. -/
def ofValue? (v : Value) : Option LoggerName :=
  if !v.isTruthy then some root
  else match v with
    | .text t => some (if t = "root" then root else named t)
    | _ => none

end LoggerName

/-- The loggers of a program. -/
structure Loggers where
  root : Logger := { level := .warning }
  others : List (Text × Logger) := []
deriving Inhabited

namespace Loggers

/-- The logger of a name, which is new if nobody has asked for it. -/
def get (ls : Loggers) : LoggerName → Logger
  | .root => ls.root
  | .named name => ((ls.others.find? (·.1 == name)).map (·.2)).getD {}

/-- Puts a logger in the place of the one of its name, or at the end. -/
def putAt (name : Text) (l : Logger) : List (Text × Logger) → List (Text × Logger)
  | [] => [(name, l)]
  | (n, l') :: ls => if n = name then (n, l) :: ls else (n, l') :: putAt name l ls

def put (ls : Loggers) (name : LoggerName) (l : Logger) : Loggers :=
  match name with
  | .root => { ls with root := l }
  | .named name => { ls with others := putAt name l ls.others }

/-- The logger of the program and the one of its audit trail. -/
def service : Text := "toolgate"

def audit : Text := "toolgate.audit"

/-- The loggers that a program has before it sets any up. -/
def standard : Loggers := { others := [(service, {}), (audit, {})] }

/-- Whether the logger of the program says events of a level. -/
def isHeard (ls : Loggers) (level : LoggerLevel) : Bool :=
  let l := ls.get (.named service)
  let own := if l.level.toInt = 0 then ls.root.level else l.level
  !l.isDisabled && own.toInt ≤ level.toInt

/-- The loggers with nothing but the plain handler at the root, which says everything from the
level of information on. -/
def fallBack (ls : Loggers) : Loggers :=
  { ls with root := { ls.root with level := .info, handlers := [.plain] } }

/-- Whether the root has the plain handler and no other. -/
def isFallback (ls : Loggers) : Bool :=
  match ls.root.handlers with
  | [.plain] => true
  | _ => false

end Loggers

end GuardedTools
