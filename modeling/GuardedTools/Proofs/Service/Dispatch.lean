import GuardedTools.Proofs.Access.Decision
import GuardedTools.Proofs.Basic
import GuardedTools.Proofs.Json.Members
import GuardedTools.Proofs.Tool.Registry
import GuardedTools.Service
import GuardedTools.Tool.Sample

/-!
# What a call comes to

A service that starts is the one over the registry of its declarations (`Service.start_eq_assemble`).  Its
gate decides by the policy it was started with, over the names of its registry
(`Service.decide_of_start`), so that what the gate allows is registered (`Service.exists_tool_of_allowed`).

A service answers a call in one of three ways (`Answers`, `answers_dispatchIn`): it is denied, it is
allowed and stopped at its arguments, or it is allowed and a tool is run.  Everything else that is
known of answers is read off these three, and never off the dispatcher itself.

`Dispatcher.run` answers calls one after the other, each in the world and with the journal that the one
before it left; what holds of every answer holds of all answers of a run (`forall_mem_run`).
-/

namespace GuardedTools

/-- What a gate allows that knows the names of a registry is registered. -/
theorem Dispatcher.exists_tool_of_allowed {σ : Type} {d : Dispatcher σ} {caller : Option Identity}
    {tool : Text} (names_eq : d.gate.names = some d.registry.names)
    (allowed : d.gate.decide caller tool = .allow) : ∃ t, d.registry.find? tool = some t := by
  rw [Gate.decide, names_eq, PolicyOf.decide_eq_iff] at allowed
  exact (Registry.mem_names_iff _ tool).mp (allowed.1 _ rfl)

/-! ### Starting -/

namespace Service

variable {κ σ τ : Type} {table : ExtensionTable κ τ} {declarations : List Declaration}
  {configs : List (ExtensionConfig κ)} {policy : Policy} {serviceId : Text} {isTracing : Bool}
  {sink : Option (AuditSink σ)} {s : Service σ τ}

/-- In every world, a service starts just when its registry is built and its extensions are brought
up. -/
theorem startIn_eq_ok {ω : Type} {apply : Applier κ τ ω} {world : ω} {s : Service σ τ} :
    (startIn apply table declarations configs policy serviceId isTracing sink world).1.result = .ok s ↔
      ∃ r, Registry.build declarations false = .ok r ∧
        (bootstrapIn apply table serviceId configs world).1.failure = none ∧
        assemble r (bootstrapIn apply table serviceId configs world).1.ready policy isTracing sink
          = s := by
  unfold startIn
  cases Registry.build declarations false with
  | error e => simp
  | ok r =>
    dsimp only
    cases (bootstrapIn apply table serviceId configs world).1.failure with
    | some e => simp
    | none => simp

/-- A service that starts is the one over the registry of its declarations. -/
theorem start_eq_assemble
    (started : (start table declarations configs policy serviceId isTracing sink).result = .ok s) :
    ∃ r, Registry.build declarations false = .ok r ∧
      s = assemble r (bootstrap table serviceId configs).ready policy isTracing sink := by
  obtain ⟨r, built, -, same⟩ := startIn_eq_ok.mp started
  exact ⟨r, built, same.symm⟩

/-- The gate of a service that starts decides by its policy over the names of the registry. -/
theorem decide_of_start
    (started : (start table declarations configs policy serviceId isTracing sink).result = .ok s)
    (caller : Option Identity) (tool : Text) :
    s.dispatcher.gate.decide caller tool = policy.decide caller tool (some s.registry.names) := by
  obtain ⟨r, _, rfl⟩ := start_eq_assemble started
  rfl

/-- What the gate of a service allows is registered. -/
theorem exists_tool_of_allowed (s : Service σ τ) {caller : Option Identity} {tool : Text}
    (allowed : s.dispatcher.gate.decide caller tool = .allow) :
    ∃ t, s.dispatcher.registry.find? tool = some t :=
  Dispatcher.exists_tool_of_allowed s.names_eq allowed

/-! ### A small service -/

/-- The declaration of a tool that gives back its argument. -/
def echoDeclaration : Declaration :=
  { candidate := .function Sample.echo none none, description := .text "Echoes input", name := none }

/-- The policy that lets everybody call the echo, and nobody another tool. -/
def echoPolicy : Policy := { rules := [("echo", "use")], anonymous := ["use"] }

/-- The start of a service whose only tool is the echo. -/
def echoStart (policy : Policy) : Start (Service Unit Shim) :=
  start standardExtensions [echoDeclaration] [] policy standardId false none

/-- What is seen of the services of a start that succeeded is true of the one that it led to. -/
theorem exists_of_any {start : Start (Service σ τ)} (seen : Service σ τ → Bool)
    (h : (start.result.toOption.any seen) = true) :
    ∃ s, start.result = .ok s ∧ seen s = true :=
  ok_of_any h

end Service

variable {σ τ ω : Type}

/-- A call as it comes in: who calls, which tool, and what is given. -/
structure Call where
  caller : Option Identity
  tool : Text
  given : Value

/-! ### Arguments -/

namespace Dispatcher

/-- What is given decodes into arguments that the tool of the call accepts. -/
def Accepts (d : Dispatcher σ) (call : Call) (c : ResolvedCall) : Prop :=
  d.registry.find? call.tool = some c.tool ∧
    ∃ v, decodeArguments call.given = .ok v ∧ c.tool.accept v = .ok c.arguments

/-- Decoding what is given ends in an error, or the tool of the call does not accept what it is. -/
def Stops (d : Dispatcher σ) (call : Call) (e : ArgumentsError) : Prop :=
  ∃ t, d.registry.find? call.tool = some t ∧
    (decodeArguments call.given = .error e ∨
      ∃ v, decodeArguments call.given = .ok v ∧ t.accept v = .error e)

theorem Accepts.unique {d : Dispatcher σ} {call : Call} {c c' : ResolvedCall}
    (h : d.Accepts call c) (h' : d.Accepts call c') : c = c' := by
  obtain ⟨found, v, decoded, accepted⟩ := h
  obtain ⟨found', v', decoded', accepted'⟩ := h'
  obtain ⟨t, as⟩ := c
  obtain ⟨t', as'⟩ := c'
  dsimp only at *
  obtain rfl : t = t' := Option.some.inj (found.symm.trans found')
  obtain rfl : v = v' := Except.ok.inj (decoded.symm.trans decoded')
  obtain rfl : as = as' := Except.ok.inj (accepted.symm.trans accepted')
  rfl

theorem Stops.unique {d : Dispatcher σ} {call : Call} {e e' : ArgumentsError}
    (h : d.Stops call e) (h' : d.Stops call e') : e = e' := by
  obtain ⟨t, found, stopped⟩ := h
  obtain ⟨t', found', stopped'⟩ := h'
  obtain rfl : t = t' := Option.some.inj (found.symm.trans found')
  rcases stopped with hd | ⟨v, hd, ha⟩ <;> rcases stopped' with hd' | ⟨v', hd', ha'⟩
  · exact Except.error.inj (hd.symm.trans hd')
  · cases hd.symm.trans hd'
  · cases hd.symm.trans hd'
  · obtain rfl : v = v' := Except.ok.inj (hd.symm.trans hd')
    exact Except.error.inj (ha.symm.trans ha')

/-- A call of which the arguments do not decode stops there. -/
theorem Stops.of_undecoded {d : Dispatcher σ} {call : Call} {e e' : ArgumentsError}
    (h : d.Stops call e') (failed : decodeArguments call.given = .error e) : d.Stops call e := by
  obtain ⟨t, found, _⟩ := h
  exact ⟨t, found, Or.inl failed⟩

theorem Accepts.not_stops {d : Dispatcher σ} {call : Call} {c : ResolvedCall} {e : ArgumentsError}
    (h : d.Accepts call c) : ¬ d.Stops call e := by
  obtain ⟨found, v, decoded, accepted⟩ := h
  rintro ⟨t, found', stopped⟩
  obtain rfl : c.tool = t := Option.some.inj (found.symm.trans found')
  rcases stopped with hd | ⟨v', hd, ha⟩
  · cases decoded.symm.trans hd
  · obtain rfl : v = v' := Except.ok.inj (decoded.symm.trans hd)
    cases accepted.symm.trans ha

/-- The call of a tool that is registered is accepted or stopped. -/
theorem callOf_cases (d : Dispatcher σ) (call : Call) {t : Tool}
    (found : d.registry.find? call.tool = some t) :
    (∃ c, d.Accepts call c ∧ d.callOf call.tool call.given = .ok c) ∨
    (∃ e, d.Stops call e ∧ d.callOf call.tool call.given = .error (.arguments e)) := by
  rw [callOf, found]
  cases decoded : decodeArguments call.given with
  | error e => exact Or.inr ⟨e, ⟨t, found, Or.inl decoded⟩, rfl⟩
  | ok v =>
    cases accepted : t.accept v with
    | error e =>
      refine Or.inr ⟨e, ⟨t, found, Or.inr ⟨v, decoded, accepted⟩⟩, ?_⟩
      simp only [accepted]
    | ok as =>
      refine Or.inl ⟨{ tool := t, arguments := as }, ⟨found, v, decoded, accepted⟩, ?_⟩
      simp only [accepted]

/-- An error in the arguments has an outcome only if they were refused. -/
theorem outcome_arguments_eq_ok {tool : Text} {e : ArgumentsError} {o : CallOutcome}
    (h : (CallRefusal.arguments e).outcome tool = .ok o) :
    ∃ fault, e = .refused fault ∧ o = .invalidArguments tool fault.message := by
  cases e with
  | refused fault => exact ⟨fault, rfl, (Except.ok.inj h).symm⟩
  | tooManyDigits n => cases h
  | tooDeep => cases h
  | inapplicable message => cases h

/-! ### Three answers -/

/-- The journal after a decision. -/
def decided (d : Dispatcher σ) (j : Journal σ) (call : Call) : Journal σ :=
  (d.gate.authorize j call.caller call.tool).2

/-- The three ways in which a call is answered. -/
inductive Answers (enter : Entry ω) (d : Dispatcher σ) (j : Journal σ) (world : ω) (call : Call) :
    Dispatched σ × ω → Prop
  | denied (denied : d.gate.decide call.caller call.tool ≠ .allow) :
    Answers enter d j world call
      ({ outcome := .ok .accessDenied, entered := none, journal := d.decided j call }, world)
  | stopped (e : ArgumentsError) (allowed : d.gate.decide call.caller call.tool = .allow)
      (stops : d.Stops call e) :
    Answers enter d j world call
      ({ outcome := (CallRefusal.arguments e).outcome call.tool, entered := none,
         journal := d.decided j call }, world)
  | run (c : ResolvedCall) (allowed : d.gate.decide call.caller call.tool = .allow)
      (accepts : d.Accepts call c) :
    Answers enter d j world call
      ({ outcome := .ok (conclude c.tool (enter c world).1).1, entered := some c,
         journal := (d.record (d.decided j call) c (enter c world).1).2 }, (enter c world).2)

theorem resolve_of_denied (d : Dispatcher σ) (j : Journal σ) (call : Call)
    (denied : d.gate.decide call.caller call.tool ≠ .allow) :
    d.resolve j call.caller call.tool call.given = (.error .accessDenied, d.decided j call) := by
  unfold resolve
  have hd : (d.gate.authorize j call.caller call.tool).1 = d.gate.decide call.caller call.tool := rfl
  simp only [hd]
  cases h : d.gate.decide call.caller call.tool with
  | allow => exact absurd h denied
  | deny reason => rfl

/-- A denied call has the outcome of all denied calls, and leaves the world alone. -/
theorem dispatchIn_of_denied (enter : Entry ω) (d : Dispatcher σ) (j : Journal σ) (world : ω)
    (call : Call) (denied : d.gate.decide call.caller call.tool ≠ .allow) :
    d.dispatchIn enter j world call.caller call.tool call.given
      = ({ outcome := .ok .accessDenied, entered := none, journal := d.decided j call }, world) := by
  rw [dispatchIn, resolve_of_denied d j call denied]
  rfl

theorem resolve_of_allowed (d : Dispatcher σ) (j : Journal σ) (call : Call)
    (allowed : d.gate.decide call.caller call.tool = .allow) :
    d.resolve j call.caller call.tool call.given
      = (d.callOf call.tool call.given, d.decided j call) := by
  unfold resolve
  have hd : (d.gate.authorize j call.caller call.tool).1 = d.gate.decide call.caller call.tool := rfl
  simp only [hd, allowed]
  rfl

/-- An allowed call whose arguments are accepted runs the tool. -/
theorem dispatchIn_of_accepts (enter : Entry ω) (d : Dispatcher σ) (j : Journal σ) (world : ω) {call : Call}
    {c : ResolvedCall} (allowed : d.gate.decide call.caller call.tool = .allow) (accepts : d.Accepts call c) :
    d.dispatchIn enter j world call.caller call.tool call.given
      = ({ outcome := .ok (conclude c.tool (enter c world).1).1, entered := some c,
           journal := (d.record (d.decided j call) c (enter c world).1).2 }, (enter c world).2) := by
  have resolved : d.callOf call.tool call.given = .ok c := by
    obtain ⟨found, v, decoded, accepted⟩ := accepts
    rw [callOf, found]
    dsimp only
    rw [decoded]
    dsimp only
    rw [accepted]
  rw [dispatchIn, resolve_of_allowed d j call allowed, resolved]
  rfl

/-- **What a call comes to**: a service answers it in one of the three ways. -/
theorem answers_dispatchIn (s : Service σ τ) (enter : Entry ω) (j : Journal σ) (world : ω)
    (call : Call) :
    Answers enter s.dispatcher j world call
      (s.dispatcher.dispatchIn enter j world call.caller call.tool call.given) := by
  by_cases allowed : s.dispatcher.gate.decide call.caller call.tool = .allow
  · rw [dispatchIn, resolve_of_allowed _ j call allowed]
    obtain ⟨t, found⟩ := s.exists_tool_of_allowed allowed
    rcases callOf_cases s.dispatcher call found with ⟨c, accepts, hc⟩ | ⟨e, stops, he⟩
    · rw [hc]
      exact .run c allowed accepts
    · rw [he]
      exact .stopped e allowed stops
  · rw [dispatchIn_of_denied enter _ j world call allowed]
    exact .denied allowed

/-! ### Runs -/

end Dispatcher

/-- A call that was answered: the world it came in, what it came to, and the world after it. -/
structure Answered (σ ω : Type) where
  call : Call
  before : ω
  done : Dispatcher.Dispatched σ
  after : ω

namespace Dispatcher

/-- Answers a call. -/
def answer (enter : Entry ω) (d : Dispatcher σ) (j : Journal σ) (world : ω) (call : Call) :
    Answered σ ω :=
  let result := d.dispatchIn enter j world call.caller call.tool call.given
  { call, before := world, done := result.1, after := result.2 }

/-- A call that the gate allows does not end as a denied one. -/
theorem outcome_ne_accessDenied {s : Service σ τ} {enter : Entry ω} {j : Journal σ} {world : ω} {call : Call}
    (allowed : s.dispatcher.gate.decide call.caller call.tool = .allow) :
    (s.dispatcher.answer enter j world call).done.outcome ≠ .ok .accessDenied := by
  have answers := answers_dispatchIn s enter j world call
  rw [answer]
  dsimp only
  generalize s.dispatcher.dispatchIn enter j world call.caller call.tool call.given = answered at answers ⊢
  cases answers with
  | denied denied => exact absurd allowed denied
  | stopped e _ _ =>
    intro same
    obtain ⟨fault, -, refused⟩ := outcome_arguments_eq_ok same
    cases refused
  | run c _ _ =>
    intro same
    have concluded := Except.ok.inj same
    unfold conclude at concluded
    split at concluded
    · cases concluded
    · cases concluded
    · split at concluded
      · cases concluded
      · cases concluded

/-- Answers calls in order, each in the world and with the journal that the one before it left. -/
def run (enter : Entry ω) (d : Dispatcher σ) (j : Journal σ) (world : ω) :
    List Call → List (Answered σ ω)
  | [] => []
  | call :: calls =>
    let a := d.answer enter j world call
    a :: d.run enter a.done.journal a.after calls

/-- What holds of every answer holds of all answers of a run. -/
theorem forall_mem_run {P : Answered σ ω → Prop} (enter : Entry ω) (d : Dispatcher σ)
    (step : ∀ j world call, P (d.answer enter j world call)) (j : Journal σ) (world : ω)
    (calls : List Call) : ∀ a ∈ d.run enter j world calls, P a := by
  induction calls generalizing j world with
  | nil => exact fun a ha => absurd ha List.not_mem_nil
  | cons call calls ih =>
    intro a ha
    rcases List.mem_cons.mp ha with rfl | ha
    · exact step j world call
    · exact ih _ _ a ha

end Dispatcher

/-! ### What callers are told -/

namespace Json

@[simp] theorem text?_text (t : Text) : (text t).text? = some t := rfl

end Json

namespace CallOutcome

/-- The category of the error that is told, if an error is told. -/
def category? (o : CallOutcome) : Option Text :=
  ((o.toJson.get? "error").bind fun error => error.get? "category").bind Json.text?

/-- A result is told. -/
def IsResult (o : CallOutcome) : Prop := ∃ json, o.toJson = Json.record [("result", json)]

@[simp] theorem category?_result (json : Json) : (result json).category? = none := by
  simp [category?, toJson]

@[simp] theorem category?_accessDenied :
    accessDenied.category? = some (Text.ofString "access_denied") := by
  simp [category?, toJson, errorJson]

@[simp] theorem category?_invalidArguments (tool hint : Text) :
    (invalidArguments tool hint).category? = some (Text.ofString "validation_error") := by
  simp [category?, toJson, errorJson]

@[simp] theorem category?_toolError (tool message : Text) :
    (toolError tool message).category? = some (Text.ofString "tool_error") := by
  simp [category?, toJson, errorJson]

theorem isResult_result (json : Json) : (result json).IsResult := ⟨json, rfl⟩

/-- A result has no category. -/
theorem IsResult.category? {o : CallOutcome} (h : o.IsResult) : o.category? = none := by
  obtain ⟨json, h⟩ := h
  simp [CallOutcome.category?, h]

/-- Every outcome is a result or an error of one of the three categories. -/
theorem isResult_or_category? (o : CallOutcome) :
    o.IsResult ∨ o.category? = some (Text.ofString "access_denied") ∨
      o.category? = some (Text.ofString "validation_error") ∨
      o.category? = some (Text.ofString "tool_error") := by
  cases o with
  | result json => exact Or.inl (isResult_result json)
  | accessDenied => simp
  | invalidArguments tool hint => simp
  | toolError tool message => simp

end CallOutcome

/-- A tool that was run leads to a result or an error of the tool. -/
theorem Dispatcher.conclude_isResult_or_toolError (t : Tool) (run : Outcome) :
    (conclude t run).1.IsResult ∨
      (conclude t run).1.category? = some (Text.ofString "tool_error") := by
  rcases run with v | (message | ⟨className, message⟩)
  · cases h : t.finish v with
    | none => simp [conclude, h]
    | some json =>
      left
      simp only [conclude, h]
      exact CallOutcome.isResult_result json
  · simp [conclude]
  · simp [conclude]

end GuardedTools
