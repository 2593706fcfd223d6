import GuardedTools.Files
import GuardedTools.Logging.Format
import GuardedTools.Text.EncodingName
import GuardedTools.Value.Order

/-!
# What makes handlers, filters and formatters

The classes that a configuration of loggers can name, each with the arguments it takes and needs.
Whether arguments make an object is decided by `Maker.makes`: a file must be one that can be
opened, a format must be one, a time to turn over must be known.  Objects of other classes can
stand in the places of handlers, too, as long as nothing is asked of them that they cannot do
(`MadeKind`).
-/

namespace GuardedTools

/-- What can be done with what a maker makes. -/
inductive MadeKind where
  /-- It takes a format, a level and filters. -/
  | handler
  /-- It takes a level and filters. -/
  | logger
  /-- It takes filters. -/
  | filterer
  | other
deriving DecidableEq, Inhabited, Repr

/-- GivenArguments with names. -/
abbrev GivenArguments := List (Text × Value)

namespace GivenArguments

/-- The argument of a name. -/
def named? (as : GivenArguments) (name : Text) : Option Value := (as.find? (·.1 == name)).map (·.2)

/-- The argument of a name, unless it is absent or says so. -/
def get? (as : GivenArguments) (name : Text) : Option Value :=
  match as.named? name with
  | some .null => none
  | found => found

/-- Whether an argument is there and says something. -/
def isTold (as : GivenArguments) (name : Text) : Bool := (as.get? name).any Value.isTruthy

end GivenArguments

/-- A class by its name, with the arguments that it takes, or all if it takes any, and those that it
needs. -/
structure Maker where
  name : Text
  takes : Option (List Text) := some []
  needs : List Text := []
  kind : MadeKind := .handler
  /-- Whether the arguments suit. -/
  suits : Files → GivenArguments → Bool := fun _ _ => true

namespace Maker

/-! ### Files -/

/-- Whether a file can be opened in a mode; as text it may be told its encoding and what to do
about errors. -/
def canOpen (fs : Files) (filename mode : Text) (encoding errors : Option Value) : Bool :=
  let has := mode.containsChar
  let isMode := mode.points.all (fun p => "axrwb+t".toList.any p.is)
    && mode.points.eraseDups.length == mode.length
    && ['a', 'x', 'r', 'w'].countP has == 1 && !(has 'b' && has 't')
  let isText (test : Text → Bool) : Option Value → Bool := fun
    | none => true
    | some (.text t) => !has 'b' && test t
    | some _ => false
  let path := (Path.ofText filename).fromRoot fs
  let isThere := (fs.find? path).isSome
  isMode && isText EncodingName.isKnown encoding && isText (fun _ => true) errors
    && !filename.containsChar '\x00'
    && if has 'r' then (fs.read path).isOk
      else !(has 'x' && isThere) && (fs.write path []).isOk

/-- Whether the file of a handler suits; a handler that is to open it later only needs its
name. -/
def opens (fs : Files) (as : GivenArguments) (mode : Option Value) : Bool :=
  match as.get? "filename", mode with
  | some (.text name), some (.text mode) =>
    as.isTold "delay" || canOpen fs name mode (as.get? "encoding") (as.get? "errors")
  | _, _ => false

/-- The mode of a file, which is opened at its end unless something else is said. -/
def modeOf (as : GivenArguments) : Option Value :=
  some ((as.named? "mode").getD (.text "a"))

/-- Whether a value is a number. -/
def isNumber : Value → Bool
  | .int _ | .bool _ | .float _ => true
  | _ => false

/-- A file that turns over at a size, if that is above zero; then it is opened at its end in any
case. -/
def opensSized (fs : Files) (as : GivenArguments) : Bool :=
  let size := (as.named? "maxBytes").getD (.int 0)
  let turns := (Value.lt (.int 0) size).toOption == some true
  isNumber size && opens fs as (if turns then some (.text "a") else modeOf as)

/-- Whether a text is another one in capitals. -/
def isInCapitals (t : Text) (capitals : String) : Bool :=
  t.map CodePoint.asciiUpper == Text.ofString capitals

/-- Whether a text names a time to turn over: a unit, midnight, or a day of the week from `W0` to
`W6`; and whether the time of day matters then. -/
def turn? (t : Text) : Option Bool :=
  if ["S", "M", "H", "D"].any fun unit => isInCapitals t unit then some false
  else if isInCapitals t "MIDNIGHT" then some true
  else match t.points with
    | [w, day] => if w.asciiUpper.is 'W' && day.between 48 54 then some true else none
    | _ => none

/-- A file that turns over at times. -/
def opensTimed (fs : Files) (as : GivenArguments) : Bool :=
  let interval := (as.named? "interval").all isNumber
  let turn := match as.named? "when" with
    | none => some false
    | some (.text t) => turn? t
    | some _ => none
  let time := match as.get? "atTime" with
    | none | some (.dateTime ..) | some (.time ..) => true
    | some _ => false
  opens fs as (some (.text "a")) && interval && turn.any fun needsTime => !needsTime || time

/-! ### Addresses -/

/-- Whether a sequence has two members, if a value is one. -/
def isPairIfMany : Option Value → Bool
  | some (.list xs) => xs.length == 2
  | some (.tuple xs) => xs.length == 2
  | _ => true

/-- Whether a name of a host needs nobody else to be known. -/
def isLocalHost : Value → Bool
  | .text t => t == "localhost" ||
    ((t.splitOn '.').length == 4 && (t.splitOn '.').all fun part =>
      !part.isEmpty && part.points.all CodePoint.isDigit && Text.digitsToNat part.points < 256)
  | _ => false

/-- Whether a value is the number of a connection. -/
def isDoor : Value → Bool
  | .int n => 0 ≤ n && n < 65536
  | .text t => !t.isEmpty && t.points.all CodePoint.isDigit && Text.digitsToNat t.points < 65536
  | _ => false

/-- Whether the address of the log of the system is a path, or a host with a number. -/
def isLogAddress (as : GivenArguments) : Bool :=
  match as.named? "address" with
  | none => true
  | some (.text _) => true
  | some (.list [host, door]) | some (.tuple [host, door]) => isLocalHost host && isDoor door
  | some _ => false

/-! ### Formats -/

/-- Whether a format, a style and a wish to check make a formatter. -/
def isFormat (format style : Option Value) (isChecked : Bool) : Bool :=
  let style := match style with
    | none => some FormatStyle.percent
    | some (.text t) => FormatStyle.ofMark? t
    | some _ => none
  match style, format with
  | none, _ => false
  | some _, none => true
  | some s, some v =>
    if !v.isTruthy || !isChecked then true
    else match v with
      | .text t => s.accepts t
      | _ => false

/-- Whether arguments make a formatter. -/
def formats (as : GivenArguments) : Bool :=
  isFormat (as.get? "fmt") (as.named? "style")
    ((as.named? "validate").all Value.isTruthy)

/-- Whether a value has a length. -/
def hasLength : Value → Bool
  | .text _ | .bytes _ | .list _ | .tuple _ | .dict _ | .set _ _ => true
  | _ => false

/-! ### The classes -/

def formatterName : Text := "logging.Formatter"

def filterName : Text := "logging.Filter"

/-- The arguments of a file. -/
def fileArguments : List Text := ["filename", "mode", "encoding", "delay", "errors"]

/-- The class of handlers that pass on to another one. -/
def memoryName : Text := "logging.handlers.MemoryHandler"

/-- The classes of handlers. -/
def handlers : List Maker := [
  { name := "logging.Handler" },
  { name := "logging.NullHandler" },
  { name := "logging.StreamHandler", takes := some ["stream"] },
  { name := "logging.FileHandler", takes := fileArguments, needs := ["filename"],
    suits := fun fs as => opens fs as (modeOf as) },
  { name := "logging.handlers.WatchedFileHandler", takes := fileArguments, needs := ["filename"],
    suits := fun fs as => opens fs as (modeOf as) },
  { name := "logging.handlers.BaseRotatingHandler", takes := fileArguments,
    needs := ["filename", "mode"], suits := fun fs as => opens fs as (modeOf as) },
  { name := "logging.handlers.RotatingFileHandler",
    takes := some ("maxBytes" :: "backupCount" :: fileArguments), needs := ["filename"],
    suits := opensSized },
  { name := "logging.handlers.TimedRotatingFileHandler",
    takes := some ["filename", "when", "interval", "backupCount", "encoding", "delay", "utc",
      "atTime", "errors"],
    needs := ["filename"], suits := opensTimed },
  { name := "logging.handlers.BufferingHandler", takes := some ["capacity"],
    needs := ["capacity"] },
  { name := memoryName, takes := some ["capacity", "flushLevel", "target", "flushOnClose"],
    needs := ["capacity"] },
  { name := "logging.handlers.QueueHandler", takes := some ["queue"], needs := ["queue"] },
  { name := "logging.handlers.SocketHandler", takes := some ["host", "port"],
    needs := ["host", "port"] },
  { name := "logging.handlers.DatagramHandler", takes := some ["host", "port"],
    needs := ["host", "port"] },
  { name := "logging.handlers.SysLogHandler", takes := some ["address", "facility", "socktype"],
    suits := fun _ as => isLogAddress as && (as.get? "socktype").all (·.same (.int 2)) },
  { name := "logging.handlers.SMTPHandler",
    takes := some ["mailhost", "fromaddr", "toaddrs", "subject", "credentials", "secure",
      "timeout"],
    needs := ["mailhost", "fromaddr", "toaddrs", "subject"],
    suits := fun _ as =>
      isPairIfMany (as.get? "mailhost") && isPairIfMany (as.get? "credentials") },
  { name := "logging.handlers.NTEventLogHandler", takes := some ["appname", "dllname", "logtype"],
    needs := ["appname"] },
  { name := "logging.handlers.HTTPHandler",
    takes := some ["host", "url", "method", "secure", "credentials", "context"],
    needs := ["host", "url"],
    suits := fun _ as =>
      let method := match as.named? "method" with
        | none => true
        | some (.text t) => isInCapitals t "GET" || isInCapitals t "POST"
        | some _ => false
      method && (as.isTold "secure" || (as.get? "context").isNone) }]

/-- The classes of what is no handler. -/
def others : List Maker := [
  { name := formatterName, kind := .other,
    takes := some ["fmt", "datefmt", "style", "validate", "defaults"],
    suits := fun _ as => formats as },
  { name := "logging.BufferingFormatter", kind := .other, takes := some ["linefmt"] },
  { name := filterName, kind := .other, takes := some ["name"],
    suits := fun _ as => (as.named? "name").all hasLength },
  { name := "logging.Filterer", kind := .filterer },
  { name := "logging.Logger", kind := .logger, takes := some ["name"], needs := ["name"] },
  { name := "logging.handlers.QueueListener", kind := .other,
    takes := some ["queue", "respect_handler_level"], needs := ["queue"] },
  { name := "collections.OrderedDict", kind := .other, takes := none },
  { name := "collections.Counter", kind := .other, takes := none },
  { name := "collections.UserDict", kind := .other, takes := none },
  { name := "collections.UserList", kind := .other },
  { name := "collections.ChainMap", kind := .other },
  { name := "types.SimpleNamespace", kind := .other, takes := none },
  { name := "argparse.Namespace", kind := .other, takes := none },
  { name := "threading.Event", kind := .other },
  { name := "threading.Condition", kind := .other },
  { name := "threading.local", kind := .other },
  { name := "queue.Queue", kind := .other },
  { name := "queue.LifoQueue", kind := .other },
  { name := "queue.PriorityQueue", kind := .other },
  { name := "string.Formatter", kind := .other },
  { name := "io.StringIO", kind := .other },
  { name := "io.BytesIO", kind := .other }]

/-- All classes. -/
def all : List Maker := handlers ++ others

/-- The names of the classes. -/
def names : List Text := all.map (·.name)

/-- The class of a name. -/
def named? (name : Text) : Option Maker := all.find? (·.name == name)

/-- Whether arguments make an object. -/
def makes (m : Maker) (fs : Files) (as : GivenArguments) : Bool :=
  (m.takes.all fun takes => as.all fun a => takes.contains a.1)
    && (m.needs.all fun n => (as.named? n).isSome)
    && m.suits fs as

end Maker

end GuardedTools
