import GuardedTools.Access.PolicyFile
import GuardedTools.Service.Dispatch
import GuardedTools.Settings
import GuardedTools.Tool.Module

/-!
# Services

A service is all that the transport needs: a dispatcher over a registry and a gate, and the
extensions that are ready.  `Service.start` assembles one in four steps: it registers every
declaration, applies the extensions in order, puts the gate in front of exactly the registered
tools, and freezes the registry.  The first error ends it, and there is never half a service;
that its registry is frozen and that its gate knows the names of the registry are laws of the type.

`Service.ofSettings` finds what a service starts from as its settings say.
-/

namespace GuardedTools

/-- A service of which the gate keeps audit events in a `σ` and extensions have states in `τ`. -/
structure Service (σ τ : Type) where
  dispatcher : Dispatcher σ
  /-- The states of the extensions, in the order in which they were applied. -/
  extensions : List (Text × τ)
  isFrozen : dispatcher.registry.isFrozen = true
  names_eq : dispatcher.gate.names = some dispatcher.registry.names

/-- Why a service does not start. -/
inductive StartError where
  | imports (e : ImportError)
  | registration (e : RegisterError)
  | extension (e : InitError)
  | policy (path : Path) (e : PolicyFileFault)
deriving Inhabited

/-- The result of starting something, and what was logged meanwhile. -/
structure Start (α : Type) where
  result : Except StartError α
  log : List LogEvent := []

namespace Service

variable {κ σ τ : Type}

def registry (s : Service σ τ) : Registry := s.dispatcher.registry

/-- The name of a service of which no settings are known. -/
def standardId : Text := "toolgate"

/-- The service over a registry. -/
def assemble (r : Registry) (extensions : List (Text × τ)) (policy : Policy) (isTracing : Bool)
    (sink : Option (AuditSink σ)) : Service σ τ where
  dispatcher := {
    registry := r.freeze
    gate := { policy, names := some r.names, sink }
    isTracing }
  extensions
  isFrozen := rfl
  names_eq := rfl

/-- Starts a service from its declarations, configurations and policy, in a world in which extensions
are applied in some way. -/
def startIn {ω : Type} (apply : Applier κ τ ω) (table : ExtensionTable κ τ)
    (declarations : List Declaration) (configs : List (ExtensionConfig κ)) (policy : Policy)
    (serviceId : Text) (isTracing : Bool) (sink : Option (AuditSink σ)) (world : ω) :
    Start (Service σ τ) × ω :=
  match Registry.build declarations false with
  | .error e => ({ result := .error (.registration e) }, world)
  | .ok r =>
    let (b, world) := bootstrapIn apply table serviceId configs world
    let log := .registryBuilt :: b.log
    match b.failure with
    | some e => ({ result := .error (.extension e), log }, world)
    | none =>
      ({ result := .ok (assemble r b.ready policy isTracing sink), log := log ++ [.serviceReady] },
        world)

/-- Starts a service; extensions leave the world alone. -/
def start (table : ExtensionTable κ τ) (declarations : List Declaration)
    (configs : List (ExtensionConfig κ)) (policy : Policy) (serviceId : Text) (isTracing : Bool)
    (sink : Option (AuditSink σ)) : Start (Service σ τ) :=
  (startIn Applier.pure table declarations configs policy serviceId isTracing sink ()).1

/-- The extensions that settings can ask for. -/
def standardExtensions : ExtensionTable (Option ShimConfig) Shim :=
  [(ShimConfig.extensionName, Shim.extension id id)]

/-- The policy that settings name; without one everything is denied. -/
def policyOf (fs : Files) (s : Settings) : Start Policy :=
  match s.policyPath with
  | none => { result := .ok {}, log := [.policyUnset] }
  | some path => { result := (PolicyFile.load fs path).mapError (.policy path) }

/-- What settings say a service starts from, except its policy: its declarations and the
configurations of its extensions. -/
def partsOf (ms : Modules) (s : Settings) :
    Except StartError (List Declaration × List ShimConfig) := do
  let declarations ← (ms.load s.toolModules).2.mapError .imports
  let configs ← (s.extensionConfigs s.extensions).mapError .extension
  return (declarations, configs)

/-- Starts the service that settings describe. -/
def ofSettings (fs : Files) (ms : Modules) (s : Settings) (sink : AuditSink σ) :
    Start (Service σ Shim) :=
  match partsOf ms s with
  | .error e => { result := .error e }
  | .ok (declarations, configs) =>
    let found := policyOf fs s
    match found.result with
    | .error e => { result := .error e, log := found.log }
    | .ok policy =>
      let started := start standardExtensions declarations (configs.map ShimConfig.extensionConfig)
        policy s.serviceId s.isTracing (if s.keepsAuditTrail then some sink else none)
      { started with log := found.log ++ started.log }

end Service

end GuardedTools
