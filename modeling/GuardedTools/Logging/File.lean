import GuardedTools.Log
import GuardedTools.Logging.Config
import GuardedTools.Yaml

/-!
# Setting up the log

The log is set up from a YAML file.  A file that does not give a configuration is passed over with
a warning, and one that is not there without; then the root gets a plain handler, so that no line
of the audit trail is lost (`Loggers.setUp`).
-/

namespace GuardedTools

/-- What goes wrong beyond a configuration that is passed over. -/
inductive SetUpFault where
  | file (fault : FileFault) (path : Path)
  | yaml (fault : Yaml.Fault)
  | reference (fault : ReferenceFault)
deriving Inhabited

/-- Whether a fault of a reference counts as one of the configuration. -/
def ReferenceFault.isOfConfiguration : ReferenceFault → Bool
  | unknown | noParts => true
  | missing _ | beyond _ | endless => false

/-- The kind of fault that a reference counts as. -/
def ReferenceFault.kind : ReferenceFault → Text
  | missing _ => "KeyError"
  | beyond _ => "IndexError"
  | endless => "RecursionError"
  | unknown => "ValueError"
  | noParts => "TypeError"

/-- What is said of a reference that leads nowhere and is no fault of the configuration. -/
def ReferenceFault.message : ReferenceFault → Text
  | missing key => key.shown
  | beyond kind => kind ++ " index out of range"
  | unknown | noParts | endless => Text.empty

/-- What setting up the log comes to. -/
structure SetUp where
  loggers : Loggers
  log : List LogEvent := []
  fault : Option SetUpFault := none

namespace Loggers

/-- Whether something stands at a path. -/
def stands (fs : Files) (p : Path) : Except FileFault Bool :=
  match fs.locate p with
  | .ok place => .ok (fs.node? place).isSome
  | .error .notFound => .ok false
  | .error .notADirectory => .ok false
  | .error fault => .error fault

/-- What a file says, or that it says nothing. -/
inductive Reading where
  | configuration (entries : List (Value × Value))
  | somethingElse
  | refused
  | failed (fault : Yaml.Fault)

/-- Whether a fault of a text counts as one of its configuration. -/
def isOfConfiguration : Yaml.Fault → Bool
  | .tooDeep => false
  | .badCodePoint isHuge => !isHuge
  | .emptyNumber => false
  | .badTruth _ => false
  | .badMoment => false
  | _ => true

/-- Reads the configuration of a file. -/
def reading (fs : Files) (p : Path) : Reading :=
  match fs.readText p with
  | .error _ => .refused
  | .ok t => match Yaml.read t with
    | .ok (.dict es) => .configuration es
    | .ok _ => .somethingElse
    | .error fault => if isOfConfiguration fault then .refused else .failed fault

/-- The loggers after a configuration was refused: that is said before the plain handler takes
over. -/
def afterRefusal (ls : Loggers) : SetUp :=
  { loggers := ls.fallBack, log := if ls.isHeard .warning then [.loggingRejected] else [] }

/-- Sets loggers up from a file. -/
def setUp (fs : Files) (path : Path) (ls : Loggers) : SetUp :=
  let path := path.fromRoot fs
  match stands fs path with
  | .error fault => { loggers := ls, fault := some (.file fault path) }
  | .ok false => { loggers := ls.fallBack }
  | .ok true => match reading fs path with
    | .somethingElse => { loggers := ls.fallBack }
    | .refused => afterRefusal ls
    | .failed fault => { loggers := ls, fault := some (.yaml fault) }
    | .configuration es => match (configure fs es).run.run ls with
      | (.ok (), ls) => { loggers := ls }
      | (.error (.reference fault), ls) =>
        if fault.isOfConfiguration then afterRefusal ls
        else { loggers := ls, fault := some (.reference fault) }
      | (.error _, ls) => afterRefusal ls

end Loggers

end GuardedTools
