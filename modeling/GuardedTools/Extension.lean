import GuardedTools.Log
import GuardedTools.Text.Quoted

/-!
# Extensions

Subsystems that a service brings up at startup.  Configurations are applied strictly in the order
they are listed in: an extension may rely on those before it and on no others, so what it requires
must have been applied earlier.  The first failure ends the bootstrap (`bootstrap`); what has been
applied by then stays in the record of it.

An extension is applied in one place only (`Bootstrap.runIn`), through an `Applier`: bringing a subsystem
up may do more than come to a state, and whatever else it does it does to a world that the bootstrap
does not look at.
-/

namespace GuardedTools

/-- Why an extension could not be brought up. -/
inductive InitErrorKind where
  | initializationFailed
  | dependencyMissing
  | invalidConfiguration
  | resourceUnavailable
deriving DecidableEq, Inhabited, Repr

def InitErrorKind.word : InitErrorKind → Text
  | initializationFailed => "initialization_failed"
  | dependencyMissing => "dependency_missing"
  | invalidConfiguration => "invalid_configuration"
  | resourceUnavailable => "resource_unavailable"

/-- An extension that could not be brought up, and why. -/
structure InitError where
  kind : InitErrorKind
  extension : Text
  detail : Text
deriving DecidableEq, Inhabited, Repr

def InitError.message (e : InitError) : Text :=
  "extension " ++ e.extension.quoted ++ " " ++ e.kind.word ++ ": " ++ e.detail

/-- The configuration of an extension: the name of the extension it is for, the name of its class,
and what it says. -/
structure ExtensionConfig (κ : Type) where
  name : Text
  className : Text
  settings : κ

/-- What an extension may see while it is applied: which service it is for, and the states of the
extensions that are ready. -/
structure BootstrapContext (σ : Type) where
  serviceId : Text
  ready : List (Text × σ)

/-- How applying an extension can fail: with an error of the kind that is told, or with one that
has nothing but a message. -/
inductive ApplyFailure where
  | refused (e : InitError)
  | crashed (message : Text)
deriving DecidableEq, Inhabited, Repr

/-- The result of applying an extension, and what was logged meanwhile. -/
structure Applied (σ : Type) where
  state : Except ApplyFailure σ
  log : List LogEvent := []

/-- An extension: what it requires to be ready, and how it is brought up. -/
structure Extension (κ σ : Type) where
  requires : List Text := []
  apply : ExtensionConfig κ → BootstrapContext σ → Applied σ

/-- A way in which extensions are applied: what applying one comes to in a world, and the world after
it. -/
abbrev Applier (κ σ ω : Type) :=
  Extension κ σ → ExtensionConfig κ → BootstrapContext σ → ω → Applied σ × ω

/-- Applying extensions that leave the world alone. -/
def Applier.pure {κ σ ω : Type} : Applier κ σ ω :=
  fun x c context world => (x.apply c context, world)

/-- The extensions that can be configured, by name; of several with one name the last counts. -/
abbrev ExtensionTable (κ σ : Type) := List (Text × Extension κ σ)

namespace ExtensionTable

variable {κ σ : Type}

/-- The extension of a name. -/
def find? (t : ExtensionTable κ σ) (name : Text) : Option (Extension κ σ) :=
  (t.reverse.find? (·.1 == name)).map (·.2)

end ExtensionTable

/-- A bootstrap: the states of the extensions that are ready, in order, what was logged, and the
failure that ended it, if one did. -/
structure Bootstrap (σ : Type) where
  ready : List (Text × σ)
  log : List LogEvent
  failure : Option InitError

namespace Bootstrap

variable {κ σ : Type}

/-- Whether an extension of a name is ready. -/
def isReady (ready : List (Text × σ)) (name : Text) : Bool := ready.any (·.1 == name)

/-- The extension that a configuration is for, if it may be applied now: there is one, it has not
been applied, and what it requires has. -/
def extensionFor (table : ExtensionTable κ σ) (ready : List (Text × σ)) (c : ExtensionConfig κ) :
    Except InitError (Extension κ σ) :=
  match table.find? c.name with
  | none =>
    let shown := if c.name.isEmpty then c.className else c.name
    .error { kind := .dependencyMissing, extension := shown, detail := "no such extension" }
  | some x =>
    if isReady ready c.name then
      .error { kind := .invalidConfiguration, extension := c.name,
               detail := "configured more than once" }
    else match x.requires.find? fun r => !isReady ready r with
      | some r => .error { kind := .dependencyMissing, extension := c.name,
                           detail := "requires " ++ r.quoted ++ " to be applied first" }
      | none => .ok x

/-- The error that a failure is told as. -/
def initError (name : Text) : ApplyFailure → InitError
  | .refused e => e
  | .crashed m => { kind := .initializationFailed, extension := name, detail := m }

/-- Applies configurations in order after those that are ready, in a world. -/
def runIn {ω : Type} (apply : Applier κ σ ω) (table : ExtensionTable κ σ) (serviceId : Text)
    (ready : List (Text × σ)) (world : ω) : List (ExtensionConfig κ) → Bootstrap σ × ω
  | [] => ({ ready, log := [], failure := none }, world)
  | c :: cs => match extensionFor table ready c with
    | .error e => ({ ready, log := [], failure := some e }, world)
    | .ok x =>
      let (applied, world) := apply x c { serviceId, ready } world
      match applied.state with
      | .error f =>
        ({ ready, log := applied.log ++ [.extensionFailed], failure := some (initError c.name f) },
          world)
      | .ok state =>
        let (rest, world) := runIn apply table serviceId (ready ++ [(c.name, state)]) world cs
        ({ rest with log := applied.log ++ [.extensionApplied] ++ rest.log }, world)

/-- The names of the extensions that are ready, in order. -/
def names (b : Bootstrap σ) : List Text := b.ready.map (·.1)

/-- The state of an extension. -/
def get? (b : Bootstrap σ) (name : Text) : Option σ :=
  (b.ready.find? (·.1 == name)).map (·.2)

end Bootstrap

/-- Applies the configurations of a service in order, from none that are ready, in a world. -/
def bootstrapIn {κ σ ω : Type} (apply : Applier κ σ ω) (table : ExtensionTable κ σ) (serviceId : Text)
    (configs : List (ExtensionConfig κ)) (world : ω) : Bootstrap σ × ω :=
  Bootstrap.runIn apply table serviceId [] world configs

/-- Applies the configurations of a service; extensions leave the world alone. -/
def bootstrap {κ σ : Type} (table : ExtensionTable κ σ) (serviceId : Text)
    (configs : List (ExtensionConfig κ)) : Bootstrap σ :=
  (bootstrapIn Applier.pure table serviceId configs ()).1

end GuardedTools
