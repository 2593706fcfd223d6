import GuardedTools.Proofs.Service.Denial
import GuardedTools.Proofs.Service.Discovery
import GuardedTools.Proofs.Text
import GuardedTools.Proofs.Tool.Name

/-!
# Filtered discovery and calls

Where discovery is filtered, a caller is shown a tool exactly if a call of it by the same caller is not
answered with a denial, whatever the arguments are (`Http.App.handle_tools_filtered`).  The two are decided
apart: the listing asks the policy about the names of the registry and records nothing, and a call asks the
gate, which has names of its own, and looks the tool up afterwards.

On the way, the path of a call leads to the tool, whatever the tool is called (`Http.App.leads_of_isValid`),
and of all replies to a call only that to a denied one is `Http.App.denialReply`
(`Http.App.handle_eq_denialReply_iff`).

The tools are listed all at once, or not at all: with one among them that cannot be sent the request crashes,
and a caller who may call the tool is not shown any (`Http.App.unlisted_allowed`).
-/

namespace GuardedTools

/-! ### Paths of calls -/

namespace Http.Route

/-- The path of calls of a tool. -/
def callPath (tool : Text) : Text := "/tools/" ++ tool ++ "/call"

theorem points_callPath (tool : Text) : (callPath tool).points
    = [] ++ CodePoint.scalar '/' :: (("tools" : Text).points
        ++ CodePoint.scalar '/' :: (tool.points ++ CodePoint.scalar '/' :: ("call" : Text).points)) := by
  show (("/tools/" : Text).points ++ tool.points) ++ ("/call" : Text).points = _
  rw [List.append_assoc]
  rfl

theorem toolOf?_callPath {tool : Text} (named : tool.isEmpty = false)
    (free : ∀ p ∈ tool.points, p.is '/' = false) : toolOf? (callPath tool) = some tool := by
  have pieces : (callPath tool).splitOn '/' = [Text.empty, ("tools" : Text), tool, ("call" : Text)] := by
    rw [Text.splitOn, Text.splitBy, points_callPath,
      Text.splitPointsBy_append (fun _ none => absurd none List.not_mem_nil),
      Text.splitPointsBy_append (by decide), Text.splitPointsBy_append free,
      Text.splitPointsBy_of_free (by decide)]
    rfl
  rw [toolOf?, pieces]
  simp only [named]
  rfl

/-- The path of calls of a tool leads there, whatever it is called, unless its name has slashes or is empty. -/
theorem ofPath?_callPath {tool : Text} (named : tool.isEmpty = false)
    (free : ∀ p ∈ tool.points, p.is '/' = false) : ofPath? (callPath tool) = some (.call tool) := by
  have ends : ∃ before, (callPath tool).points = before ++ ("/call" : Text).points :=
    ⟨("/tools/" : Text).points ++ tool.points, rfl⟩
  obtain ⟨before, points⟩ := ends
  have unbroken : (callPath tool).endsWith "\n" = false := by
    rw [Bool.eq_false_iff]
    intro broken
    obtain ⟨rest, ended⟩ := List.isSuffixOf_iff_suffix.mp broken
    rw [points, show ("/call" : Text).points = ("/cal" : Text).points ++ ("l" : Text).points from rfl,
      ← List.append_assoc] at ended
    exact absurd (List.append_inj' ended rfl).2 (by decide)
  have other : plain.find? (fun r => r.template == callPath tool) = none := by
    have short : ∀ r ∈ plain, r.template.endsWith "/call" = false := by decide
    refine List.find?_eq_none.mpr fun r member same => ?_
    have long : (callPath tool).endsWith "/call" = true :=
      List.isSuffixOf_iff_suffix.mpr ⟨before, points.symm⟩
    rw [← eq_of_beq same, short r member] at long
    cases long
  unfold ofPath?
  rw [unbroken]
  dsimp only
  rw [if_neg Bool.false_ne_true, other]
  show (toolOf? (callPath tool)).map call = _
  rw [toolOf?_callPath named free]
  rfl

end Http.Route

/-! ### Tools of services -/

/-- A number among the data of the arguments that is not finite keeps the descriptor from being sent. -/
theorem Declaration.Makes.strictBytes?_of_infinite {d : Declaration} {t : Tool} {keys : List Text}
    (h : d.Makes t) (infinite : t.arguments.schema.toOption.any (Json.isInfiniteAt keys) = true) :
    t.descriptor.toJson.strictBytes? = none := by
  obtain ⟨schema, published, infinite⟩ := ok_of_any infinite
  obtain ⟨arguments, result, published', written, -⟩ := h.schemas
  obtain rfl : schema = arguments := Except.ok.inj (published.symm.trans published')
  have unsendable := Bool.eq_false_iff.mpr (Json.not_isSendable_of_isInfiniteAt infinite)
  rw [← Option.not_isSome_iff_eq_none, Json.strictBytes?_isSome, Descriptor.isSendable_toJson,
    Descriptor.readSchema_eq written, unsendable, Bool.false_and, Bool.false_and]
  exact Bool.false_ne_true

namespace Service

variable {κ σ τ : Type} {table : ExtensionTable κ τ} {declarations : List Declaration}
  {configs : List (ExtensionConfig κ)} {policy : Policy} {serviceId : Text} {isTracing : Bool}
  {sink : Option (AuditSink σ)} {s : Service σ τ} {t : Tool}

/-- A tool of a service that was started is made of one of its declarations. -/
theorem made_of_start
    (started : (start table declarations configs policy serviceId isTracing sink).result = .ok s)
    (registered : t ∈ s.registry.tools) : ∃ d ∈ declarations, d.Makes t := by
  obtain ⟨r, built, assembled⟩ := start_eq_assemble started
  have among : t ∈ r.tools := by
    rw [assembled] at registered
    exact registered
  exact Registry.made_of_mem built among

theorem isValid_name_of_start
    (started : (start table declarations configs policy serviceId isTracing sink).result = .ok s)
    (registered : t ∈ s.registry.tools) : ToolName.isValid t.name = true := by
  obtain ⟨d, -, made⟩ := made_of_start started registered
  exact Descriptor.isValid_of_nameOf (Descriptor.ofFunction_eq_ok made.ofFunction).1

end Service

namespace Http.App

variable {σ : Type} {app : App σ}

/-- The path of calls of a tool leads to its calls, whatever the tool is called. -/
theorem leads_of_isValid {tool : Text} (valid : ToolName.isValid tool = true) :
    app.Leads (Route.callPath tool) tool := by
  left
  have named := (ToolName.isPart_of_isValid valid).1
  rw [route?, Route.ofPath?_callPath named (ToolName.slash_not_mem valid)]
  rfl

/-! ### Replies to calls -/

/-- Of the replies to calls only that to a denied one has the status of denials. -/
theorem eq_accessDenied_of_status {outcome : Except CallFailure CallOutcome}
    (status : (concluded (replyOf outcome)).1.status = 403) : outcome = .ok .accessDenied := by
  cases outcome with
  | error failure => cases status
  | ok outcome =>
    have sent : statusOf outcome = 403 := by
      unfold replyOf Reply.ofJson at status
      dsimp only at status
      split at status
      · exact status
      · cases status
    cases outcome with
    | accessDenied => rfl
    | result json => cases sent
    | invalidArguments tool hint => cases sent
    | toolError tool message => cases sent

/-- A request that comes to a call is answered at the route of the call, perhaps after it was redirected. -/
theorem exists_handleAt {r : Request} {call : Call} (calls : app.Calls r call) (j : Journal σ) :
    ∃ j' r', app.Calls r' call ∧ app.handle j r = app.handleAt j' (.call call.tool) r' := by
  rcases calls.path with direct | ⟨nowhere, other, redirected, there⟩
  · refine ⟨j, r, calls, ?_⟩
    rw [handle, direct]
  · refine ⟨app.count j (Endpoint.trimmed r.target.path) r.method 307,
      { r with target := { r.target with path := other } },
      ⟨calls.method, Or.inl there, calls.content⟩, ?_⟩
    rw [handle, nowhere]
    dsimp only
    rw [redirected]
    dsimp only
    rw [there]

/-- A call is answered with a denial exactly if the gate denies it. -/
theorem handle_eq_denialReply_iff {r : Request} {call : Call} (calls : app.Calls r call) (j : Journal σ) :
    (app.handle j r).1 = denialReply ↔
      app.service.dispatcher.gate.decide call.caller call.tool ≠ .allow := by
  obtain ⟨j', r', calls', handled⟩ := exists_handleAt calls j
  rw [handled]
  constructor
  · intro reply allowed
    obtain ⟨caller, identified, content⟩ := calls'.content
    have answered : (app.handleAt j' (.call call.tool) r').1
        = (concluded (replyOf (app.service.dispatcher.answer Entry.pure j' () call).done.outcome)).1 := by
      rw [handleAt, if_pos calls'.method.symm]
      dsimp only [answer]
      rw [callTool, content, Dispatcher.answer, identified]
      rfl
    have status : (concluded (replyOf
        (app.service.dispatcher.answer Entry.pure j' () call).done.outcome)).1.status = 403 := by
      rw [← answered, reply]
      rfl
    exact Dispatcher.outcome_ne_accessDenied allowed (eq_accessDenied_of_status status)
  · intro denied
    exact (handleAt_of_denied app j' calls' denied).1

/-! ### Listing -/

/-- The reply that lists tools, if all of them can be sent. -/
def listing (tools : List Tool) : Reply :=
  if tools.all fun t => t.descriptor.toJson.strictBytes?.isSome then
    { status := 200
      content := .json (Json.record [("tools", .array (tools.map fun t => t.descriptor.toJson))]) }
  else Reply.crashed

theorem concluded_ofJson_tools (tools : List Tool) :
    (concluded (Reply.ofJson 200
      (Json.record [("tools", .array (tools.map fun t => t.descriptor.toJson))]))).1 = listing tools := by
  set listed := Json.record [("tools", .array (tools.map fun t => t.descriptor.toJson))] with record
  have sent : (listed.isSendable && listed.isScalar)
      = tools.all fun t => t.descriptor.toJson.strictBytes?.isSome := by
    rw [← Json.strictBytes?_isSome, Bool.eq_iff_iff, record, isSome_strictBytes?_tools, List.forall_mem_map,
      List.all_eq_true]
  rw [Reply.ofJson, sent, listing]
  split
  · rfl
  · rfl

/-- Listing the tools changes the counters of requests only. -/
theorem handle_tools_eq {r : Request} (asks : r.method = "GET") (path : r.target.path = "/tools")
    (j : Journal σ) : app.handle j r
      = ((concluded (app.listTools r)).1,
          app.count j Route.tools.template r.method (concluded (app.listTools r)).2) := by
  have route : app.route? r.target.path = some .tools := by
    rw [path]
    rfl
  have method : Route.tools.method = r.method := asks.symm
  rw [handle, route]
  dsimp only
  rw [handleAt, if_pos method]
  rfl

/-- A journal keeps all that it holds but for the counters of requests. -/
structure KeepsDecisions (before after : Journal σ) : Prop where
  kept : after.kept = before.kept
  log : after.log = before.log
  spans : after.spans = before.spans
  decisions : after.metrics.decisions = before.metrics.decisions
  calls : after.metrics.calls = before.metrics.calls

theorem keepsDecisions_count (j : Journal σ) (label method : Text) (status : Nat) :
    KeepsDecisions j (app.count j label method status) := by
  unfold count
  split
  · exact ⟨rfl, rfl, rfl, rfl, rfl⟩
  · exact ⟨rfl, rfl, rfl, rfl, rfl⟩

/-- The tools that a caller is shown. -/
def shown (app : App σ) (caller : Identity) : List Tool :=
  app.service.registry.tools.filter fun t => app.shows caller t.name

variable {r : Request} {caller : Identity}

theorem mem_shown_iff {t : Tool} (filters : app.filtersDiscovery = true)
    (registered : t ∈ app.service.registry.tools) :
    t ∈ app.shown caller ↔ app.service.dispatcher.gate.decide (some caller) t.name = .allow := by
  have allowed (d : Decision) : d.isAllowed = true ↔ d = .allow := by
    cases d with
    | allow => exact iff_of_true rfl rfl
    | deny reason => exact iff_of_false Bool.false_ne_true (by intro h; cases h)
  rw [shown, List.mem_filter, shows, filters, Bool.not_true, Bool.false_or, allowed]
  exact and_iff_right registered

/-- A caller who is known is told of the tools that are shown. -/
theorem listTools_listing (known : app.caller r = .ok caller) (serving : app.isServing = true) :
    (concluded (app.listTools r)).1 = listing (app.shown caller) := by
  have descriptors : (app.service.registry.descriptors.filter fun d => app.shows caller d.name).map
      Descriptor.toJson = (app.shown caller).map fun t => t.descriptor.toJson := by
    rw [Registry.descriptors, List.filter_map, List.map_map, shown]
    rfl
  rw [listTools_eq known serving, descriptors, concluded_ofJson_tools]

/-- One tool that cannot be sent keeps all others from being listed. -/
theorem listing_of_unsendable {tools : List Tool} {t : Tool} (member : t ∈ tools)
    (unsendable : t.descriptor.toJson.strictBytes? = none) : listing tools = Reply.crashed := by
  have failed : (tools.all fun t => t.descriptor.toJson.strictBytes?.isSome) = false := by
    refine List.all_eq_false.mpr ⟨t, member, ?_⟩
    rw [unsendable]
    exact Bool.false_ne_true
  rw [listing, failed]
  rfl

variable {κ : Type} {table : ExtensionTable κ Shim} {declarations : List Declaration}
  {configs : List (ExtensionConfig κ)} {policy : Policy} {serviceId : Text} {isTracing : Bool}
  {sink : Option (AuditSink σ)}

variable (app r) in
/-- **Filtered discovery**: a caller who asks a service that was started for its tools is shown, in the order
of registration, exactly the tools of which a call by the same caller is not answered with a denial, whatever
the arguments and whatever happened before.  They are listed if all of them can be sent, and else the request
crashes; either way nothing is recorded of a decision. -/
theorem handle_tools_filtered
    (started : (Service.start table declarations configs policy serviceId isTracing sink).result
      = .ok app.service)
    (filters : app.filtersDiscovery = true) (serving : app.isServing = true)
    (asks : r.method = "GET") (path : r.target.path = "/tools") (known : app.caller r = .ok caller)
    (j : Journal σ) :
    ∃ tools, tools.Sublist app.service.registry.tools ∧ (app.handle j r).1 = listing tools ∧
      KeepsDecisions j (app.handle j r).2 ∧
      ∀ t ∈ app.service.registry.tools, ∀ (j' : Journal σ) (call : Request) (arguments : Value),
        call.method = "POST" → call.target.path = Route.callPath t.name →
        app.callOf call = .ok (caller, arguments) →
        (t ∈ tools ↔ (app.handle j' call).1 ≠ denialReply) := by
  refine ⟨app.shown caller, List.filter_sublist, ?_, ?_, ?_⟩
  · rw [handle_tools_eq asks path]
    exact listTools_listing known serving
  · rw [handle_tools_eq asks path]
    exact keepsDecisions_count j _ _ _
  · intro t registered j' call arguments posts leads content
    have valid : ToolName.isValid t.name = true := Service.isValid_name_of_start started registered
    have calls : app.Calls call { caller := some caller, tool := t.name, given := arguments } := {
      method := posts
      path := leads ▸ leads_of_isValid valid
      content := ⟨caller, rfl, content⟩ }
    rw [mem_shown_iff filters registered, Ne, handle_eq_denialReply_iff calls j', not_not]

/-- A request to call a tool that nobody signed comes to a call of the anonymous caller. -/
theorem filtering_calls {s : Service Unit Shim} {tool : Text} (valid : ToolName.isValid tool = true) :
    (filtering s).Calls (.calling tool) { caller := some .anonymous, tool, given := .null } where
  method := rfl
  path := leads_of_isValid valid
  content := ⟨.anonymous, rfl, rfl⟩

/-- Everybody is shown the echo, and may call it. -/
theorem handle_tools_filtered_echo :
    ∃ s t, (Service.echoStart Service.echoPolicy).result = .ok s ∧ t ∈ s.registry.tools ∧
      ∃ tools, t ∈ tools ∧ ((filtering s).handle { kept := () } toolsRequest).1 = listing tools := by
  obtain ⟨s, started, seen⟩ := Service.exists_of_any
    (fun s => s.registry.tools.any fun t =>
      s.dispatcher.gate.decide (some .anonymous) t.name == .allow)
    (by decide +kernel : (Service.echoStart Service.echoPolicy).result.toOption.any _ = true)
  obtain ⟨t, registered, allowed⟩ := List.any_eq_true.mp seen
  obtain ⟨tools, -, listed, -, agree⟩ := handle_tools_filtered (filtering s) toolsRequest started rfl rfl rfl
    rfl rfl { kept := () }
  have calling := agree t registered { kept := () } (.calling t.name) .null rfl rfl rfl
  have calls := filtering_calls (s := s) (Service.isValid_name_of_start started registered)
  refine ⟨s, t, started, registered, tools, calling.mpr fun denied => ?_, listed⟩
  exact (handle_eq_denialReply_iff calls _).mp denied (eq_of_beq allowed)

/-- The start of a service whose only tool takes an infinite number by default, and may be called by
everybody. -/
def infiniteStart : Start (Service Unit Shim) :=
  Service.start Service.standardExtensions [infiniteDeclaration] []
    { rules := [("f", "use")], anonymous := ["use"] } Service.standardId false none

/-- A tool that a caller may call is not listed for the caller if it cannot be sent: the request crashes. -/
theorem unlisted_allowed :
    ∃ s t, infiniteStart.result = .ok s ∧ t ∈ s.registry.tools ∧
      ((filtering s).handle { kept := () } (.calling t.name)).1 ≠ denialReply ∧
      ((filtering s).handle { kept := () } toolsRequest).1 = Reply.crashed := by
  obtain ⟨s, started, seen⟩ := Service.exists_of_any
    (fun s => s.registry.tools.any fun t =>
      s.dispatcher.gate.decide (some .anonymous) t.name == .allow &&
        t.arguments.schema.toOption.any (Json.isInfiniteAt ["properties", "a", "default"]))
    (by decide +kernel : infiniteStart.result.toOption.any _ = true)
  obtain ⟨t, registered, seen⟩ := List.any_eq_true.mp seen
  obtain ⟨allowed, infinite⟩ := Bool.and_eq_true_iff.mp seen
  have permitted := eq_of_beq allowed
  have calls := filtering_calls (s := s) (Service.isValid_name_of_start started registered)
  refine ⟨s, t, started, registered, ?_, ?_⟩
  · intro denied
    exact (handle_eq_denialReply_iff calls _).mp denied permitted
  · have shown : t ∈ (filtering s).shown .anonymous := (mem_shown_iff rfl registered).mpr permitted
    obtain ⟨d, -, made⟩ := Service.made_of_start started registered
    have unsendable := made.strictBytes?_of_infinite infinite
    rw [handle_tools_eq rfl rfl]
    exact (listTools_listing rfl rfl).trans (listing_of_unsendable shown unsendable)

end Http.App

end GuardedTools
