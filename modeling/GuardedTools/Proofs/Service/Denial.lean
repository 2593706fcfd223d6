import GuardedTools.Http.App
import GuardedTools.Proofs.Service.Dispatch

/-!
# Denials are alike

What can be seen of a denied call is the same for every call, every service and every reason to deny
it (`denials_alike`): what the caller is told, the reply of the endpoint of calls, and how much the
counters of decisions and of tools grow, each under all labels.  So from a denial nobody learns whether
a tool exists, whether there is a rule for it, or what was given.

Both halves come from one fact about each of the two ways in: what is seen of a denied call is a
constant (`seen_of_denied`, `App.seen_of_denied`).
-/

namespace GuardedTools

/-! ### Growth of counters -/

/-- How much counters of decisions and of tools grew, under each combination of labels. -/
structure Growth where
  decisions : List Text → Int
  calls : List Text → Int
  callTimes : List Text → Int

/-- How much each count of a counter grew. -/
def Counter.growth (before after : Counter) (labels : List Text) : Int :=
  (after.count labels : Int) - before.count labels

/-- How much the counters of decisions and of tools grew. -/
def Metrics.growth (before after : Metrics) : Growth where
  decisions := before.decisions.growth after.decisions
  calls := before.calls.growth after.calls
  callTimes := before.callTimes.growth after.callTimes

/-- One decision more, which is a denial. -/
def Growth.denial : Growth where
  decisions labels := if labels = [("deny" : Text)] then 1 else 0
  calls _ := 0
  callTimes _ := 0

theorem Counter.growth_self (c : Counter) : c.growth c = fun _ => 0 := by
  funext labels
  exact Int.sub_self _

theorem Counter.growth_increment (c : Counter) (labels : List Text) :
    c.growth (c.increment labels) = fun others => if others = labels then 1 else 0 := by
  funext others
  rw [growth, count_increment]
  by_cases same : labels = others
  · rw [if_pos same, if_pos same.symm]
    omega
  · rw [if_neg same, if_neg (Ne.symm same)]
    omega

/-! ### Calls -/

/-- What can be seen of a call: what the caller is told, and how counters grew. -/
structure Seen where
  told : Except CallFailure Json
  growth : Growth

namespace Dispatcher

variable {σ τ ω : Type}

/-- What can be seen of a call. -/
def seen (enter : Entry ω) (d : Dispatcher σ) (j : Journal σ) (world : ω) (call : Call) : Seen :=
  let a := d.answer enter j world call
  { told := a.done.outcome.map CallOutcome.toJson
    growth := j.metrics.growth a.done.journal.metrics }

/-- A decision to deny is counted, and nothing else. -/
theorem growth_decided {d : Dispatcher σ} {call : Call} (j : Journal σ)
    (denied : d.gate.decide call.caller call.tool ≠ .allow) :
    j.metrics.growth (d.decided j call).metrics = Growth.denial := by
  cases decision : d.gate.decide call.caller call.tool with
  | allow => exact absurd decision denied
  | deny reason =>
    have metrics : (d.decided j call).metrics = j.metrics.decided "deny" := by
      show j.metrics.decided (d.gate.decide call.caller call.tool).word = _
      rw [decision]
      rfl
    rw [metrics, Metrics.growth, Growth.denial]
    congr 1
    · exact Counter.growth_increment _ _
    · exact Counter.growth_self _
    · exact Counter.growth_self _

theorem seen_of_denied (enter : Entry ω) (d : Dispatcher σ) (j : Journal σ) (world : ω) {call : Call}
    (denied : d.gate.decide call.caller call.tool ≠ .allow) :
    d.seen enter j world call
      = { told := .ok CallOutcome.accessDenied.toJson, growth := Growth.denial } := by
  rw [seen]
  dsimp only [answer]
  rw [dispatchIn_of_denied enter d j world call denied]
  dsimp only
  rw [growth_decided j denied]
  rfl

end Dispatcher

/-! ### Requests -/

/-- What can be seen of a request: the reply, and how counters grew. -/
structure Http.Seen where
  reply : Reply
  growth : Growth

namespace Http.App

variable {σ : Type}

/-- What can be seen of a request. -/
def seen (app : App σ) (j : Journal σ) (r : Request) : Http.Seen where
  reply := (app.handle j r).1
  growth := j.metrics.growth (app.handle j r).2.metrics

/-- A path leads to calls of a tool, at once or after slashes at its end were dealt with. -/
def Leads (app : App σ) (path tool : Text) : Prop :=
  app.route? path = some (.call tool) ∨
    app.route? path = none ∧
      ∃ other, app.redirect? path = some other ∧ app.route? other = some (.call tool)

/-- A request comes to a call. -/
structure Calls (app : App σ) (r : Request) (call : Call) : Prop where
  method : r.method = (Route.call call.tool).method
  path : app.Leads r.target.path call.tool
  content : ∃ caller, call.caller = some caller ∧ app.callOf r = .ok (caller, call.given)

/-- The reply to a denied call. -/
def denialReply : Reply := { status := 403, content := .json CallOutcome.accessDenied.toJson }

theorem ofJson_accessDenied :
    Reply.ofJson (statusOf .accessDenied) CallOutcome.accessDenied.toJson = .ok denialReply := by
  rfl

/-- Requests are not among what is seen to grow. -/
theorem growth_count (app : App σ) (m : Metrics) (j : Journal σ) (label method : Text)
    (status : Nat) : m.growth (app.count j label method status).metrics = m.growth j.metrics := by
  unfold count
  split
  · rfl
  · rfl

theorem count_growth (app : App σ) (m : Metrics) (j : Journal σ) (label method : Text)
    (status : Nat) : (app.count j label method status).metrics.growth m = j.metrics.growth m := by
  unfold count
  split
  · rfl
  · rfl

theorem callTool_of_denied (app : App σ) (j : Journal σ) {r : Request} {call : Call}
    (content : ∃ caller, call.caller = some caller ∧ app.callOf r = .ok (caller, call.given))
    (denied : app.service.dispatcher.gate.decide call.caller call.tool ≠ .allow) :
    app.callTool j call.tool r = (.ok denialReply, app.service.dispatcher.decided j call) := by
  obtain ⟨caller, identified, content⟩ := content
  have done := Dispatcher.dispatchIn_of_denied Entry.pure _ j () call denied
  rw [identified] at done
  rw [callTool, content]
  dsimp only [Dispatcher.dispatch]
  rw [done]
  dsimp only [replyOf]
  rw [ofJson_accessDenied]

/-- A denied call is replied to at its route, whatever is counted meanwhile. -/
theorem handleAt_of_denied (app : App σ) (j : Journal σ) {r : Request} {call : Call}
    (calls : app.Calls r call)
    (denied : app.service.dispatcher.gate.decide call.caller call.tool ≠ .allow) :
    (app.handleAt j (.call call.tool) r).1 = denialReply ∧
      ∀ m : Metrics, m.growth (app.handleAt j (.call call.tool) r).2.metrics
        = m.growth (app.service.dispatcher.decided j call).metrics := by
  unfold handleAt
  rw [if_pos calls.method.symm]
  dsimp only [answer]
  rw [callTool_of_denied app j calls.content denied]
  exact ⟨rfl, fun m => growth_count app m _ _ _ _⟩

theorem seen_of_denied (app : App σ) (j : Journal σ) {r : Request} {call : Call}
    (calls : app.Calls r call)
    (denied : app.service.dispatcher.gate.decide call.caller call.tool ≠ .allow) :
    app.seen j r = { reply := denialReply, growth := Growth.denial } := by
  rcases calls.path with direct | ⟨nowhere, other, redirected, there⟩
  · have handled : app.handle j r = app.handleAt j (.call call.tool) r := by
      rw [handle, direct]
    obtain ⟨reply, growth⟩ := handleAt_of_denied app j calls denied
    rw [seen, handled, reply, growth, Dispatcher.growth_decided j denied]
  · -- the request that is redirected is counted on its own, but not as a call
    have calls' : app.Calls { r with target := { r.target with path := other } } call :=
      ⟨calls.method, Or.inl there, calls.content⟩
    have handled : app.handle j r
        = app.handleAt (app.count j (Endpoint.trimmed r.target.path) r.method 307) (.call call.tool)
          { r with target := { r.target with path := other } } := by
      rw [handle, nowhere]
      dsimp only
      rw [redirected]
      dsimp only
      rw [there]
    obtain ⟨reply, growth⟩ := handleAt_of_denied app
      (app.count j (Endpoint.trimmed r.target.path) r.method 307) calls' denied
    rw [seen, handled, reply, growth, ← count_growth app _ j (Endpoint.trimmed r.target.path)
      r.method 307, Dispatcher.growth_decided _ denied]

end Http.App

/-! ### Two denials -/

/-- **Denials are alike**: of two denied calls, of whatever services, the same can be seen, and so it
can of two requests that come to denied calls; their reply has the status 403. -/
theorem denials_alike (σ₁ σ₂ τ₁ τ₂ ω₁ ω₂ : Type) :
    (∀ (s₁ : Service σ₁ τ₁) (s₂ : Service σ₂ τ₂) (enter₁ : Entry ω₁) (enter₂ : Entry ω₂)
      (j₁ : Journal σ₁) (j₂ : Journal σ₂) (world₁ : ω₁) (world₂ : ω₂) (call₁ call₂ : Call),
      s₁.dispatcher.gate.decide call₁.caller call₁.tool ≠ .allow →
      s₂.dispatcher.gate.decide call₂.caller call₂.tool ≠ .allow →
      s₁.dispatcher.seen enter₁ j₁ world₁ call₁ = s₂.dispatcher.seen enter₂ j₂ world₂ call₂) ∧
    (∀ (app₁ : Http.App σ₁) (app₂ : Http.App σ₂) (j₁ : Journal σ₁) (j₂ : Journal σ₂)
      (r₁ r₂ : Http.Request) (call₁ call₂ : Call), app₁.Calls r₁ call₁ → app₂.Calls r₂ call₂ →
      app₁.service.dispatcher.gate.decide call₁.caller call₁.tool ≠ .allow →
      app₂.service.dispatcher.gate.decide call₂.caller call₂.tool ≠ .allow →
      app₁.seen j₁ r₁ = app₂.seen j₂ r₂ ∧ (app₁.seen j₁ r₁).reply.status = 403) := by
  constructor
  · intro s₁ s₂ enter₁ enter₂ j₁ j₂ world₁ world₂ call₁ call₂ denied₁ denied₂
    rw [Dispatcher.seen_of_denied enter₁ _ j₁ world₁ denied₁,
      Dispatcher.seen_of_denied enter₂ _ j₂ world₂ denied₂]
  · intro app₁ app₂ j₁ j₂ r₁ r₂ call₁ call₂ calls₁ calls₂ denied₁ denied₂
    rw [Http.App.seen_of_denied app₁ j₁ calls₁ denied₁, Http.App.seen_of_denied app₂ j₂ calls₂ denied₂]
    exact ⟨rfl, rfl⟩

/-- The echo behind HTTP. -/
def Http.App.echo (s : Service Unit Shim) : Http.App Unit where
  service := s
  filtersDiscovery := false
  hasAudit := false
  hasMetrics := true
  keys := none
  now := 0
  trail _ := .empty
  moment _ := Text.empty

/-- A request to call a tool, without arguments and by nobody in particular. -/
def Http.Request.calling (tool : Text) : Http.Request where
  method := "POST"
  target := { path := "/tools/" ++ tool ++ "/call" }

theorem Http.App.calls_calling (s : Service Unit Shim) {tool : Text}
    (path : Route.ofPath? ("/tools/" ++ tool ++ "/call") = some (.call tool)) :
    (Http.App.echo s).Calls (.calling tool)
      { caller := some .anonymous, tool, given := .null } where
  method := rfl
  path := by
    left
    show (Route.ofPath? ("/tools/" ++ tool ++ "/call")).filter _ = _
    rw [path]
    rfl
  content := ⟨.anonymous, rfl, rfl⟩

/-- A tool that is not there, and one that there is no rule for, are denied alike. -/
theorem denials_alike_echo :
    ∃ s₁ s₂, (Service.echoStart Service.echoPolicy).result = .ok s₁ ∧
      (Service.echoStart {}).result = .ok s₂ ∧
      s₁.dispatcher.seen Entry.pure { kept := () } ()
          { caller := none, tool := "fetch", given := .null }
        = s₂.dispatcher.seen Entry.pure { kept := () } ()
          { caller := some { principal := some "A" }, tool := "echo", given := .text "[" } ∧
      (Http.App.echo s₁).seen { kept := () } (.calling "fetch")
        = (Http.App.echo s₂).seen { kept := () } (.calling "echo") ∧
      ((Http.App.echo s₁).seen { kept := () } (.calling "fetch")).reply.status = 403 := by
  obtain ⟨s₁, started₁, seen₁⟩ := Service.exists_of_any
    (fun s => s.dispatcher.gate.decide none "fetch" != .allow &&
      s.dispatcher.gate.decide (some .anonymous) "fetch" != .allow)
    (by decide +kernel : (Service.echoStart Service.echoPolicy).result.toOption.any _ = true)
  obtain ⟨s₂, started₂, seen₂⟩ := Service.exists_of_any
    (fun s => s.dispatcher.gate.decide (some { principal := some "A" }) "echo" != .allow &&
      s.dispatcher.gate.decide (some .anonymous) "echo" != .allow)
    (by decide +kernel : (Service.echoStart {}).result.toOption.any _ = true)
  rw [Bool.and_eq_true, bne_iff_ne, bne_iff_ne] at seen₁ seen₂
  obtain ⟨calls_alike, requests_alike⟩ := denials_alike Unit Unit Shim Shim Unit Unit
  refine ⟨s₁, s₂, started₁, started₂, calls_alike _ _ _ _ _ _ _ _ _ _ seen₁.1 seen₂.1, ?_⟩
  exact requests_alike _ _ _ _ _ _ _ _ (Http.App.calls_calling s₁ (by decide +kernel))
    (Http.App.calls_calling s₂ (by decide +kernel)) seen₁.2 seen₂.2

end GuardedTools
