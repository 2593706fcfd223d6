import GuardedTools.Logging
import GuardedTools.Logging.Maker
import GuardedTools.Logging.Reference
import GuardedTools.Value.Items
import GuardedTools.Value.Order

/-!
# Configurations of loggers

A configuration is a map with sections for formatters, filters, handlers and loggers and for the
root.  `Loggers.plan` goes through the sections in that order, since later ones refer to earlier ones
by name, and `Loggers.carryOut` changes the loggers one after the other: what a configuration with a
fault has changed before the fault stays.

An incremental configuration changes levels only.
-/

namespace GuardedTools

/-- What is wrong with a configuration. -/
inductive LoggingFault where
  | noVersion
  | unknownVersion
  /-- A value refers to something that is not there. -/
  | reference (fault : ReferenceFault)
  /-- A section has no entries to go through. -/
  | notASection (name : Text)
  /-- An entry of a section is not what the section asks for. -/
  | entry (part : Text) (name : Value)
  | root
deriving Inhabited

/-- The entries of a configuration, which its references lead into. -/
abbrev LoggingConfig := List (Value × Value)

namespace LoggingConfig

/-! ### Entries -/

/-- What a value of a configuration stands for. -/
def resolve (whole : LoggingConfig) (v : Value) : Except LoggingFault Value :=
  (Reference.resolved Maker.names whole v).mapError .reference

/-- What the value of a key of a map stands for, if the key is there. -/
def valueOf? (whole : LoggingConfig) (config : List (Value × Value)) (key : Text) :
    Except LoggingFault (Option Value) :=
  match Value.find? (.text key) config with
  | none => .ok none
  | some v => (resolve whole v).map some

/-- The value of a key that is there and not absent. -/
def given? (whole : LoggingConfig) (config : List (Value × Value)) (key : Text) :
    Except LoggingFault (Option Value) := do
  match ← valueOf? whole config key with
  | some .null => return none
  | found => return found

/-- The value of a key that is there and says something. -/
def stated? (whole : LoggingConfig) (config : List (Value × Value)) (key : Text) :
    Except LoggingFault (Option Value) := do
  match ← valueOf? whole config key with
  | some v => return if v.isTruthy then some v else none
  | none => return none

/-- The entries of a section, by name. -/
def entriesOf (whole : LoggingConfig) (name : Text) :
    Except LoggingFault (List (Value × Value)) := do
  match ← valueOf? whole whole name with
  | none => return []
  | some (.dict es) => return es
  | some v => match v.items? with
    | some [] => return []
    | some (item :: _) => throw (.entry name item)
    | none => throw (.notASection name)

/-- The configuration with a section, which is empty if there was none. -/
def withSection (whole : LoggingConfig) (name : Text) : LoggingConfig :=
  match Value.find? (.text name) whole with
  | some _ => whole
  | none => whole ++ [(.text name, .dict [])]

/-- The entries of what an entry of a section stands for, if it is a map. -/
def map? (whole : LoggingConfig) (v : Value) : Option (List (Value × Value)) :=
  match resolve whole v with
  | .ok (.dict es) => some es
  | _ => none

/-! ### Objects -/

/-- Whether a text can be the name of an argument: letters, digits and underscores, not a digit
first; a line feed may stand behind. -/
def isArgumentName (t : Text) : Bool :=
  let ps := if t.endsWith "\n" then t.points.dropLast else t.points
  ps.head?.any (fun p => p.isLetter || p.is '_')
    && ps.all fun p => p.isLetter || p.isDigit || p.is '_'

/-- What is left of a map as arguments, without some keys. -/
def argumentsOf? (whole : LoggingConfig) (without : List Text) (config : List (Value × Value)) :
    Option GivenArguments :=
  let rest := config.filter fun e => !without.any fun k => e.1.same (.text k)
  rest.mapM fun (key, v) => match key, resolve whole v with
    | .text key, .ok v => if isArgumentName key then some (key, v) else none
    | _, _ => none

/-- Whether the attributes that a map gives to an object can be given: they have names. -/
def areAttributes (whole : LoggingConfig) (config : List (Value × Value)) : Bool :=
  match stated? whole config "." with
  | .ok none => true
  | .ok (some (.dict es)) => es.all fun e => match e.1 with
    | .text _ => true
    | _ => false
  | _ => false

/-- What makes the objects of a map that names it under `()`, as an object or by a text. -/
def factory? (whole : LoggingConfig) (config : List (Value × Value)) : Option Maker :=
  match valueOf? whole config "()" with
  | .ok (some (.object name)) => Maker.named? name
  | .ok (some (.text name)) => Maker.named? name
  | _ => none

/-- Whether a map names what makes its object. -/
def hasFactory (config : List (Value × Value)) : Bool :=
  (Value.find? (.text "()") config).isSome

/-- Whether the object of a map that names what makes it can be made; `rename` changes the
arguments. -/
def isCustom (fs : Files) (whole : LoggingConfig) (config : List (Value × Value))
    (rename : Maker → GivenArguments → GivenArguments) : Bool :=
  match factory? whole config, argumentsOf? whole ["()", "."] config with
  | some m, some as => m.makes fs (rename m as) && areAttributes whole config
  | _, _ => false

/-! ### Formatters and filters -/

/-- The arguments of a formatter, where the format may go by another name. -/
def formatNamed (m : Maker) (as : GivenArguments) : GivenArguments :=
  match m.name == Maker.formatterName, as.named? "format" with
  | true, some v =>
    let fmt : Text := "fmt"
    (as.filter fun a => a.1 != Text.ofString "format" && a.1 != fmt) ++ [(fmt, v)]
  | _, _ => as

/-- Whether a map makes a formatter. -/
def isFormatter (fs : Files) (whole : LoggingConfig) (config : List (Value × Value)) :
    Except LoggingFault Bool := do
  if hasFactory config then return isCustom fs whole config formatNamed
  let format ← given? whole config "format"
  let _ ← valueOf? whole config "datefmt"
  let style ← valueOf? whole config "style"
  let isChecked := ((← valueOf? whole config "validate").getD (.bool true)).isTruthy
  let isKnown := match ← stated? whole config "class" with
    | none => true
    | some (.text t) => t == Maker.formatterName
    | some _ => false
  return isKnown && Maker.isFormat format style isChecked

/-- Whether a map makes a filter. -/
def isFilter (fs : Files) (whole : LoggingConfig) (config : List (Value × Value)) :
    Except LoggingFault Bool := do
  if hasFactory config then return isCustom fs whole config fun _ as => as
  return (← valueOf? whole config "name").all Maker.hasLength

/-- Checks the entries of a section. -/
def checkSection (whole : LoggingConfig) (name : Text)
    (test : List (Value × Value) → Except LoggingFault Bool) (entries : List (Value × Value)) :
    Except LoggingFault Unit :=
  entries.forM fun (key, v) =>
    match map? whole v with
    | none => throw (.entry name key)
    | some config => match test config with
      | .ok true => return ()
      | _ => throw (.entry name key)

/-! ### Handlers -/

/-- What making a handler comes to: there is one of a kind, or none yet because it refers to
another that is not there yet, or none. -/
inductive HandlerResult where
  | made (kind : MadeKind)
  | notYet
  | refused
deriving DecidableEq, Inhabited, Repr

/-- What handlers can refer to. -/
structure Surroundings where
  files : Files
  whole : LoggingConfig
  formatters : List (Value × Value)
  filters : List (Value × Value)
  handlers : List (Value × Value)

/-- Whether names are a collection of keys of a section. -/
def areAmong (entries : List (Value × Value)) (names : Value) : Bool :=
  match names.items? with
  | some xs => xs.all fun x => (Value.find? x entries).isSome
  | none => false

/-- Whether an object of a kind can take a format, a level and filters, of those that it is to
take. -/
def takesParts (s : Surroundings) (kind : MadeKind) (formatter level filters : Option Value) :
    Bool :=
  let isLevel := level.all fun l => (LoggerLevel.ofValue? l).isSome
  let isFiltered := filters.all (areAmong s.filters)
  isLevel && isFiltered && match kind with
    | .handler => true
    | .logger => formatter.isNone
    | .filterer => formatter.isNone && level.isNone
    | .other => formatter.isNone && level.isNone && filters.isNone

/-- What making a handler comes to, after those that are made. -/
def makeHandler (s : Surroundings) (made : List (Value × MadeKind))
    (config : List (Value × Value)) : Except LoggingFault HandlerResult := do
  let formatter ← stated? s.whole config "formatter"
  let level ← given? s.whole config "level"
  let filters ← stated? s.whole config "filters"
  let knows := formatter.all fun f => (Value.find? f s.formatters).isSome
  if !knows then return .refused
  let isCustom := hasFactory config
  let maker ←
    if isCustom then pure (factory? s.whole config)
    else do match ← valueOf? s.whole config "class" with
      | some (.text t) => pure (Maker.named? t)
      | _ => pure none
  let some maker := maker | return .refused
  let target ← valueOf? s.whole config "target"
  match if isCustom || maker.name != Maker.memoryName then none else target with
  | none => pure ()
  | some t =>
    if (Value.find? t s.handlers).isNone then return .refused
    if !made.any fun m => m.1.same t && m.2 == .handler then return .notYet
  let without := ["formatter", "level", "filters", ".", if isCustom then "()" else "class"]
  match argumentsOf? s.whole (without.map Text.ofString) config with
  | none => return .refused
  | some as =>
    return if maker.makes s.files as && takesParts s maker.kind formatter level filters
        && areAttributes s.whole config then .made maker.kind
      else .refused

/-- What has become of the handlers so far. -/
structure Making where
  made : List (Value × MadeKind) := []
  waiting : List Value := []
  /-- The references whose maps were used up. -/
  used : List Value := []

/-- Makes handlers in order.  A map that another handler was made from has nothing left. -/
def makeHandlers (s : Surroundings) (m : Making) :
    List (Value × Value) → Except LoggingFault Making
  | [] => .ok m
  | (name, v) :: es => do
    let isReference := match v with
      | .text _ => true
      | _ => false
    let some config := map? s.whole v | throw (.entry "handlers" name)
    if isReference && m.used.any v.same then throw (.entry "handlers" name)
    match makeHandler s m.made config with
    | .ok (.made kind) =>
      makeHandlers s { m with
        made := m.made ++ [(name, kind)]
        used := if isReference then v :: m.used else m.used } es
    | .ok .notYet => makeHandlers s { m with waiting := m.waiting ++ [name] } es
    | .ok .refused | .error _ => throw (.entry "handlers" name)

/-- Makes all handlers of a section: those that refer to later ones are made when all others
are. -/
def makeAll (s : Surroundings) : Except LoggingFault Unit := do
  let handlers ← (Value.sortEntries s.handlers).mapError fun _ => .notASection "handlers"
  let m ← makeHandlers s {} handlers
  let later := handlers.filter fun e => m.waiting.any e.1.same
  match (← makeHandlers s { m with waiting := [] } later).waiting with
  | [] => return ()
  | name :: _ => throw (.entry "handlers" name)

end LoggingConfig

/-! ### Loggers -/

/-- A step that changes loggers and may find a fault. -/
abbrev Configuring (α : Type) := ExceptT LoggingFault (StateM Loggers) α

namespace Loggers

open LoggingConfig

/-- Changes the logger of a name. -/
def change (name : LoggerName) (f : Logger → Logger) : Configuring Unit :=
  modify fun ls => ls.put name (f (ls.get name))

/-- What an expression comes to that changes no logger. -/
def settled {α : Type} (e : Except LoggingFault α) : Configuring α := liftExcept e

/-- Adds parts to a logger one after the other, which must be among the entries of their section. -/
def addEach (entries : List (Value × Value)) (add : Logger → Value → Logger) (name : LoggerName)
    (fault : LoggingFault) : List Value → Configuring Unit
  | [] => return ()
  | part :: parts => do
    if (Value.find? part entries).isNone then throw fault
    change name (add · part)
    addEach entries add name fault parts

/-- Adds the parts that a map names under a key, if it names some. -/
def addNamed (whole : LoggingConfig) (config : List (Value × Value)) (key : Text)
    (entries : List (Value × Value)) (add : Logger → Value → Logger) (name : LoggerName)
    (fault : LoggingFault) : Configuring Unit := do
  match ← settled ((stated? whole config key).mapError fun _ => fault) with
  | none => return ()
  | some parts => match parts.items? with
    | some parts => addEach entries add name fault parts
    | none => throw fault

/-- Gives a logger the level that a map says. -/
def setLevel (whole : LoggingConfig) (config : List (Value × Value)) (name : LoggerName)
    (fault : LoggingFault) : Configuring Unit := do
  match ← settled ((given? whole config "level").mapError fun _ => fault) with
  | none => return ()
  | some v => match LoggerLevel.ofValue? v with
    | some level => change name ({ · with level })
    | none => throw fault

/-- Lets the events of a logger go on or not, as a map says. -/
def setPropagation (whole : LoggingConfig) (config : List (Value × Value)) (name : LoggerName)
    (fault : LoggingFault) : Configuring Unit := do
  match ← settled ((given? whole config "propagate").mapError fun _ => fault) with
  | none => return ()
  | some v => change name ({ · with propagates := v.isTruthy })

/-- Gives a logger the handlers that a map names in place of its own, and more filters. -/
def setParts (s : Surroundings) (config : List (Value × Value)) (name : LoggerName)
    (fault : LoggingFault) : Configuring Unit := do
  change name ({ · with handlers := [] })
  addNamed s.whole config "handlers" s.handlers (fun l h => l.addHandler (.named h)) name fault
  addNamed s.whole config "filters" s.filters Logger.addFilter name fault

/-- Changes a logger as a map says; without `s` its level only. -/
def configureOne (whole : LoggingConfig) (s : Option Surroundings) (name : LoggerName)
    (fault : LoggingFault) (v : Value) : Configuring Unit := do
  let some config := map? whole v | throw fault
  setLevel whole config name fault
  match s with
  | none => return ()
  | some s => setParts s config name fault

/-- Changes the loggers of a section in order, each of which is in use then. -/
def configureEach (whole : LoggingConfig) (s : Option Surroundings) :
    List (Value × Value) → Configuring Unit
  | [] => return ()
  | (key, v) :: es => do
    let fault := LoggingFault.entry "loggers" key
    let some name := LoggerName.ofValue? key | throw fault
    configureOne whole s name fault v
    change name ({ · with isDisabled := false })
    setPropagation whole ((map? whole v).getD []) name fault
    configureEach whole s es

/-- Changes the root, if the configuration says something about it. -/
def configureRoot (whole : LoggingConfig) (s : Option Surroundings) : Configuring Unit := do
  match ← settled (stated? whole whole "root") with
  | none => return ()
  | some v => configureOne whole s .root .root v

/-- The names of loggers that a section configures. -/
def configured (entries : List (Value × Value)) : List Text :=
  Value.texts (entries.map (·.1))

/-- What becomes of a logger that was there: one that is not configured is put out of use, unless
it is below a configured one, which sets it back instead. -/
def retired (isDisabled : Bool) (names : List Text) (name : Text) (l : Logger) : Logger :=
  if names.contains name then l
  else if names.any fun n => name.startsWith (n ++ ".") then
    { l with level := .unset, handlers := [], propagates := true }
  else { l with isDisabled }

/-- Puts loggers that are not configured out of use. -/
def retire (isDisabled : Bool) (names : List Text) (ls : Loggers) : Loggers :=
  { ls with others := ls.others.map fun row => (row.1, retired isDisabled names row.1 row.2) }

/-- What a configuration asks for, found out before any logger is changed. -/
structure Plan where
  /-- The configuration with all its sections. -/
  whole : LoggingConfig
  /-- What loggers can refer to; without it their levels are changed only. -/
  surroundings : Option Surroundings
  loggers : List (Value × Value)
  /-- Whether loggers that are not configured are put out of use, if anything becomes of them. -/
  retires : Option Bool

/-- The plan to change levels only. -/
def planLevels (whole : LoggingConfig) : Except LoggingFault Plan := do
  let whole := whole.withSection "handlers"
  match ← entriesOf whole "handlers" with
  | [] => pure ()
  | (name, _) :: _ => throw (.entry "handlers" name)
  let whole := whole.withSection "loggers"
  return { whole, surroundings := none, loggers := ← entriesOf whole "loggers", retires := none }

/-- The plan to set the loggers up anew. -/
def planAnew (files : Files) (whole : LoggingConfig) : Except LoggingFault Plan := do
  let retires ← valueOf? whole whole "disable_existing_loggers"
  let whole := whole.withSection "formatters"
  let formatters ← entriesOf whole "formatters"
  checkSection whole "formatters" (isFormatter files whole) formatters
  let whole := whole.withSection "filters"
  let filters ← entriesOf whole "filters"
  checkSection whole "filters" (isFilter files whole) filters
  let whole := whole.withSection "handlers"
  let handlers ← entriesOf whole "handlers"
  makeAll { files, whole, formatters, filters, handlers }
  let whole := whole.withSection "loggers"
  let loggers ← entriesOf whole "loggers"
  return {
    whole, loggers
    surroundings := some { files, whole, formatters, filters, handlers }
    retires := some (retires.getD (.bool true)).isTruthy }

/-- The plan of a configuration. -/
def plan (files : Files) (whole : LoggingConfig) : Except LoggingFault Plan := do
  match ← valueOf? whole whole "version" with
  | none => throw .noVersion
  | some v => if !v.same (.int 1) then throw .unknownVersion
  if ((← valueOf? whole whole "incremental").getD (.bool false)).isTruthy then planLevels whole
  else planAnew files whole

/-- Changes the loggers as planned: those with names, those that are not configured, and the root. -/
def carryOut (p : Plan) : Configuring Unit := do
  configureEach p.whole p.surroundings p.loggers
  match p.retires with
  | some isDisabled => modify (retire isDisabled (configured p.loggers))
  | none => pure ()
  configureRoot p.whole p.surroundings

/-- Changes the loggers as a configuration says. -/
def configure (files : Files) (whole : LoggingConfig) : Configuring Unit := do
  carryOut (← settled (plan files whole))

end Loggers

end GuardedTools
