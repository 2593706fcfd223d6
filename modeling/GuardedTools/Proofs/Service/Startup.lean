import GuardedTools.Proofs.Service.Dispatch

/-!
# When a service starts, and what stays true of it

A service starts just when a tool is made of every declaration, all names of tools differ, and the
bootstrap of its extensions succeeds; a declaration of which no tool is made ends the start before any
extension is applied (`Service.start_exact`).

A service that has started answers calls, and may be asked what a registry can be asked
(`Service.Request`).  `Service.Running` is what such a service has come to.  No request changes its
registry, which is frozen, so that its gate goes on to know exactly the tools that are registered
(`Service.Running.IsClosed`), and whatever it allows is found.
-/

namespace GuardedTools

namespace Registry

/-- A registry that is frozen stays as it is, whatever it is asked. -/
theorem perform_of_isFrozen {r : Registry} (frozen : r.isFrozen = true) (o : Operation) :
    (r.perform o).2 = r := by
  cases o with
  | register d f =>
    have refused := register_of_isFrozen frozen d f
    rw [perform, refused]
  | freeze => exact congrArg (fun isFrozen => { r with isFrozen }) frozen.symm
  | lookup name => rfl
  | list => rfl
  | names => rfl

end Registry

namespace Service

variable {κ σ τ ω : Type} {table : ExtensionTable κ τ} {declarations : List Declaration}
  {configs : List (ExtensionConfig κ)} {policy : Policy} {serviceId : Text} {isTracing : Bool}
  {sink : Option (AuditSink σ)}

/-! ### Starting -/

/-- Without a registry no extension is applied. -/
theorem startIn_of_error {e : RegisterError} (failed : Registry.build declarations false = .error e)
    (apply : Applier κ τ ω) (world : ω) :
    startIn apply table declarations configs policy serviceId isTracing sink world
      = ({ result := .error (.registration e) }, world) := by
  rw [startIn, failed]

/-! ### Running -/

/-- What a service that has started can be asked: to answer a call, or what its registry can be. -/
inductive Request where
  | call (c : Call)
  | ask (o : Registry.Operation)

/-- A service at work: what answers calls, the journal, and the world in which tools are run. -/
structure Running (σ ω : Type) where
  dispatcher : Dispatcher σ
  journal : Journal σ
  world : ω

namespace Running

variable {s : Running σ ω}

/-- Serves a request. -/
def serve (enter : Entry ω) (s : Running σ ω) : Request → Running σ ω
  | .call c =>
    let result := s.dispatcher.dispatchIn enter s.journal s.world c.caller c.tool c.given
    { s with journal := result.1.journal, world := result.2 }
  | .ask o => { s with dispatcher := { s.dispatcher with registry := (s.dispatcher.registry.perform o).2 } }

/-- Serves requests in order. -/
def run (enter : Entry ω) (s : Running σ ω) (requests : List Request) : Running σ ω :=
  requests.foldl (serve enter) s

/-- The registry is frozen, and the gate knows the names of its tools. -/
structure IsClosed (s : Running σ ω) : Prop where
  isFrozen : s.dispatcher.registry.isFrozen = true
  names_eq : s.dispatcher.gate.names = some s.dispatcher.registry.names

theorem IsClosed.serve (h : s.IsClosed) (enter : Entry ω) (r : Request) :
    (s.serve enter r).IsClosed := by
  cases r with
  | call c => exact ⟨h.isFrozen, h.names_eq⟩
  | ask o =>
    have same := Registry.perform_of_isFrozen h.isFrozen o
    constructor
    · exact (congrArg Registry.isFrozen same).trans h.isFrozen
    · exact h.names_eq.trans (congrArg (fun r => some r.names) same.symm)

theorem IsClosed.run (h : s.IsClosed) (enter : Entry ω) (requests : List Request) :
    (s.run enter requests).IsClosed := by
  induction requests generalizing s with
  | nil => exact h
  | cons r requests ih => exact ih (h.serve enter r)

/-- What the gate allows is found in the registry. -/
theorem IsClosed.exists_tool (h : s.IsClosed) {caller : Option Identity} {tool : Text}
    (allowed : s.dispatcher.gate.decide caller tool = .allow) :
    ∃ t, s.dispatcher.registry.find? tool = some t :=
  Dispatcher.exists_tool_of_allowed h.names_eq allowed

end Running

/-- **When a service starts, and what stays true of it.**  It starts just when a tool is made of every
declaration, the names of all tools differ, and the bootstrap succeeds.  If no tool is made of some
declaration, the world in which extensions would be applied is left alone, whatever applying one would
do to it.  A service that started keeps a frozen registry and a gate that knows its names, whatever it
is asked, so that every tool the gate allows is found. -/
theorem start_exact (table : ExtensionTable κ τ) (declarations : List Declaration)
    (configs : List (ExtensionConfig κ)) (policy : Policy) (serviceId : Text) (isTracing : Bool)
    (sink : Option (AuditSink σ)) :
    ((∃ s, (start table declarations configs policy serviceId isTracing sink).result = .ok s) ↔
      (∃ tools, List.Forall₂ Declaration.Makes declarations tools ∧ (tools.map Tool.name).Nodup) ∧
        (bootstrap table serviceId configs).failure = none) ∧
    ((∃ d ∈ declarations, ∀ t, ¬ d.Makes t) → ∀ (ω : Type) (apply : Applier κ τ ω) (world : ω),
      (startIn apply table declarations configs policy serviceId isTracing sink world).2 = world) ∧
    ∀ s, (start table declarations configs policy serviceId isTracing sink).result = .ok s →
      ∀ (ω : Type) (enter : Entry ω) (journal : Journal σ) (world : ω) (requests : List Request),
        let now := Running.run enter { dispatcher := s.dispatcher, journal, world } requests
        now.dispatcher.registry.isFrozen = true ∧
        now.dispatcher.gate.names = some now.dispatcher.registry.names ∧
        ∀ caller tool, now.dispatcher.gate.decide caller tool = .allow →
          ∃ t, now.dispatcher.registry.find? tool = some t := by
  refine ⟨⟨?_, ?_⟩, ?_, ?_⟩
  · rintro ⟨s, started⟩
    obtain ⟨r, built, succeeded, -⟩ := startIn_eq_ok.mp started
    obtain ⟨tools, made, distinct, -⟩ := Registry.build_eq_ok.mp built
    exact ⟨⟨tools, made, distinct⟩, succeeded⟩
  · rintro ⟨⟨tools, made, distinct⟩, succeeded⟩
    have built : Registry.build declarations false = .ok { tools } :=
      Registry.build_eq_ok.mpr ⟨tools, made, distinct, rfl⟩
    exact ⟨_, startIn_eq_ok.mpr ⟨_, built, succeeded, rfl⟩⟩
  · rintro ⟨d, declared, unmade⟩ ω apply world
    cases built : Registry.build declarations false with
    | error e => rw [startIn_of_error built]
    | ok r =>
      obtain ⟨tools, made, -⟩ := Registry.build_eq_ok.mp built
      obtain ⟨t, -, makes⟩ := exists_right_of_mem made declared
      exact absurd makes (unmade t)
  · intro s _ ω enter journal world requests now
    have closed : now.IsClosed := Running.IsClosed.run ⟨s.isFrozen, s.names_eq⟩ enter requests
    exact ⟨closed.isFrozen, closed.names_eq, fun _ _ => closed.exists_tool⟩

end Service

end GuardedTools
