import GuardedTools.Access.Identity
import GuardedTools.Http.Message
import GuardedTools.Logging.File
import GuardedTools.Service
import GuardedTools.Service.Endpoint
import GuardedTools.Token.Validity
import GuardedTools.Tool.Notation

/-!
# The application

A service behind HTTP: the tools, calls, the newest decisions for auditors, the counters and a word
on how the service is.  Each path that is answered leads to a `Route`, which is asked by one method and
counted under one template.  `App.handle` answers a request and counts it.  A path that leads to a route
but for slashes at its end is sent there, and both requests are counted.

The caller of a request is the one that its token names, and the anonymous one without a token.
-/

namespace GuardedTools.Http

/-! ### Routes -/

/-- What a path leads to. -/
inductive Route where
  | tools
  | call (tool : Text)
  | recentDecisions
  | metrics
  | health
deriving DecidableEq, Inhabited, Repr

namespace Route

def template : Route → Text
  | tools => "/tools"
  | call _ => "/tools/\x7bname\x7d/call"
  | recentDecisions => "/audit/recent"
  | metrics => "/metrics"
  | health => "/health"

def method : Route → Text
  | call _ => "POST"
  | _ => "GET"

/-- The routes of which the path is the template. -/
def plain : List Route := [tools, recentDecisions, metrics, health]

/-- The tool that a path calls, if it is the path of a call. -/
def toolOf? (path : Text) : Option Text :=
  match path.splitOn '/' with
  | [root, first, name, last] =>
    if root.isEmpty && first == "tools" && !name.isEmpty && last == "call" then some name else none
  | _ => none

/-- What a path leads to, if to anything; one line break at the end does not count. -/
def ofPath? (path : Text) : Option Route :=
  let path : Text := if path.endsWith "\n" then ⟨path.points.dropLast⟩ else path
  match plain.find? fun r => r.template == path with
  | some r => some r
  | none => (toolOf? path).map call

end Route

/-! ### Applications -/

/-- What tokens are verified with. -/
structure TokenKeys where
  /-- The secret; without one no token can be verified. -/
  secret : Option Text
  algorithms : List Text
deriving DecidableEq, Inhabited, Repr

/-- A service behind HTTP. -/
structure App (σ : Type) where
  service : Service σ Shim
  /-- Whether tools can be listed and called. -/
  isServing : Bool := true
  filtersDiscovery : Bool
  /-- Whether the audit trail can be asked for. -/
  hasAudit : Bool
  hasMetrics : Bool
  /-- What tokens are verified with, unless that cannot be found out. -/
  keys : Option TokenKeys
  /-- The moment in seconds. -/
  now : Int
  /-- The audit trail among what is kept. -/
  trail : σ → AuditTrail
  /-- When an entry of the audit trail was made. -/
  moment : AuditEntry → Text

/-- Why there is no application. -/
inductive CreateError where
  | logging (fault : SetUpFault)
  | start (e : StartError)

namespace App

variable {σ : Type}

/-- The version that is told. -/
def version : Text := "0.1.0"

/-- Where logging is set up from if the settings do not say. -/
def loggingPath : Path := Path.ofText "src/config/logging.yaml"

/-- The application that settings describe. -/
def ofSettings (fs : Files) (ms : Modules) (s : Settings) (keys : Option TokenKeys)
    (sink : AuditSink σ) (now : Int) (trail : σ → AuditTrail) (moment : AuditEntry → Text) :
    Except CreateError (App σ) :=
  match (Loggers.standard.setUp fs (s.loggingPath.getD loggingPath)).fault with
  | some fault => .error (.logging fault)
  | none => match (Service.ofSettings fs ms s sink).result with
    | .error e => .error (.start e)
    | .ok service => .ok {
        service, filtersDiscovery := s.filtersDiscovery, hasAudit := s.keepsAuditTrail,
        hasMetrics := s.hasMetrics, keys, now, trail, moment }

/-- The keys that settings give. -/
def keysOf (s : Settings) : TokenKeys :=
  { secret := s.tokenSecret
    algorithms := if s.tokenAlgorithms.isEmpty then ["HS256"] else s.tokenAlgorithms }

/-! ### Callers -/

/-- What a token that is not verified comes to. -/
def refusalOf : VerifyError → Refusal
  | .refused fault => .told 401 (.text fault.message)
  | _ => .crash

/-- The caller of a request. -/
def caller (app : App σ) (r : Request) : Except Refusal Identity :=
  match Bearer.token? r.headers with
  | none => .ok .anonymous
  | some token => match app.keys with
    | none => .error .crash
    | some { secret := none, .. } => .error (.told 500 (.str "Auth misconfigured"))
    | some { secret := some secret, algorithms } => do
      let claims ← (Token.verify app.now token secret algorithms).mapError refusalOf
      (Identity.ofClaims (Value.ofJson (.object claims))).mapError fun e =>
        .told 401 (.text e.message)

/-- The refusal of every caller who may not do something. -/
def denied : Refusal := .told 403 (.text CallOutcome.deniedMessage)

/-- Whether the service can be asked. -/
def checkServing (app : App σ) : Except Refusal Unit :=
  if app.isServing then .ok () else .error (.told 503 (.str "Service not initialized"))

/-! ### Answers -/

/-- The descriptors of the tools; if discovery is filtered, of those that the caller may call.  What
may be called is decided here by the policy over the names of the registry, past the gate, which would
record it. -/
def listTools (app : App σ) (r : Request) : Except Refusal Reply := do
  let caller ← app.caller r
  app.checkServing
  let d := app.service.dispatcher
  let shown := d.registry.descriptors.filter fun t => !app.filtersDiscovery ||
    (d.gate.policy.decide (some caller) t.name (some d.registry.names)).isAllowed
  Reply.ofJson 200 (Json.record [("tools", .array (shown.map Descriptor.toJson))])

/-- The status of an outcome. -/
def statusOf : CallOutcome → Nat
  | .result _ => 200
  | .accessDenied => 403
  | .invalidArguments _ _ => 422
  | .toolError _ _ => 500

/-- Who calls, and with which arguments. -/
def callOf (app : App σ) (r : Request) : Except Refusal (Identity × Value) := do
  let body ← r.body
  let caller ← app.caller r
  let arguments ← body.arguments
  app.checkServing
  return (caller, arguments)

/-- The reply to a call. -/
def replyOf : Except CallFailure CallOutcome → Except Refusal Reply
  | .error _ => .error .crash
  | .ok outcome => Reply.ofJson (statusOf outcome) outcome.toJson

/-- Calls a tool. -/
def callTool (app : App σ) (j : Journal σ) (tool : Text) (r : Request) :
    Except Refusal Reply × Journal σ :=
  match app.callOf r with
  | .error e => (.error e, j)
  | .ok (caller, arguments) =>
    let done := app.service.dispatcher.dispatch j (some caller) tool arguments
    (replyOf done.outcome, done.journal)

/-- The role of callers who may see decisions. -/
def auditorRole : Text := "auditor"

/-- The number of entries that is asked for, from one to five hundred. -/
def limitOf (t : Target) : Except Refusal Nat :=
  match ((t.value? "limit").getD "50").toInt? with
  | none => .error (.told 400 (.str "limit must be an integer"))
  | some n =>
    if n < 1 ∨ 500 < n then .error (.told 400 (.str "limit must be between 1 and 500"))
    else .ok n.toNat

/-- An entry of the audit trail as it is told. -/
def entryJson (app : App σ) (e : AuditEntry) : Json :=
  let metadata := match e.metadata with
    | .null => Json.object []
    | m => m
  Json.record [
    ("id", .int e.id), ("timestamp", .text (app.moment e)), ("subject", .text e.subject),
    ("action", .text e.action), ("resource", .text e.resource),
    ("decision", (e.decision.map Json.text).getD .null),
    ("metadata", metadata)]

/-- The newest decisions, for auditors. -/
def recentDecisions (app : App σ) (j : Journal σ) (r : Request) : Except Refusal Reply := do
  let caller ← app.caller r
  if caller.isAnonymous || !caller.roles.contains auditorRole then throw denied
  let limit ← limitOf r.target
  let stated (name : Text) : Option Text := (r.target.value? name).filter (!·.isEmpty)
  let entries := (app.trail j.kept).recent
    { limit, subject := stated "subject", action := stated "action" }
  Reply.ofJson 200 (Json.record [
    ("items", .array (entries.map app.entryJson)), ("limit", .int limit)])

/-- How the service is. -/
def health (app : App σ) : Reply where
  status := 200
  content := .json (Json.record [
    ("status", .str "ok"), ("version", .text version),
    ("tools", .int app.service.registry.size)])

/-- The counters as they stand. -/
def countsOf (m : Metrics) : Reply where
  status := 200
  content := .counts (m.published.map fun (name, n) => name ++ " " ++ Text.ofNat n ++ ".0")

/-- The answer of a route. -/
def answer (app : App σ) (j : Journal σ) (route : Route) (r : Request) :
    Except Refusal Reply × Journal σ :=
  match route with
  | .tools => (app.listTools r, j)
  | .call tool => app.callTool j tool r
  | .recentDecisions => (app.recentDecisions j r, j)
  | .metrics => (.ok (countsOf j.metrics), j)
  | .health => (.ok app.health, j)

/-! ### Requests -/

/-- The route of a path, if it is one of those that are there. -/
def route? (app : App σ) (path : Text) : Option Route :=
  (Route.ofPath? path).filter fun
    | .recentDecisions => app.hasAudit
    | .metrics => app.hasMetrics
    | _ => true

/-- Where a path that leads to no route is sent: to the same one without the slashes at its end, or
with one, if that leads to a route. -/
def redirect? (app : App σ) (path : Text) : Option Text :=
  if path = "/" then none
  else
    let other := if path.endsWith "/" then path.trimEndBy (·.is '/') else path ++ "/"
    if (app.route? other).isSome then some other else none

/-- Counts a request under a label, if requests are counted. -/
def count (app : App σ) (j : Journal σ) (label method : Text) (status : Nat) : Journal σ :=
  if app.hasMetrics then
    { j with metrics := j.metrics.requested label method (Text.ofNat status) }
  else j

/-- The reply that a result is, with the status that it is counted under. -/
def concluded : Except Refusal Reply → Reply × Nat
  | .ok reply => (reply, reply.status)
  | .error (.told status detail) => (Reply.told status detail, status)
  | .error .crash => (Reply.crashed, 0)

/-- Answers a request whose path leads to a route. -/
def handleAt (app : App σ) (j : Journal σ) (route : Route) (r : Request) : Reply × Journal σ :=
  let (result, j) :=
    if route.method = r.method then app.answer j route r
    else (.error (.told 405 (.str "Method Not Allowed")), j)
  let (reply, status) := concluded result
  (reply, app.count j route.template r.method status)

/-- Answers a request whose path leads nowhere. -/
def handleNowhere (app : App σ) (j : Journal σ) (r : Request) : Reply × Journal σ :=
  (Reply.told 404 (.str "Not Found"), app.count j Endpoint.unmatched r.method 404)

/-- Answers a request. -/
def handle (app : App σ) (j : Journal σ) (r : Request) : Reply × Journal σ :=
  match app.route? r.target.path with
  | some route => app.handleAt j route r
  | none => match app.redirect? r.target.path with
    | none => app.handleNowhere j r
    | some path =>
      let j := app.count j (Endpoint.trimmed r.target.path) r.method 307
      match app.route? path with
      | some route => app.handleAt j route { r with target := { r.target with path } }
      | none => app.handleNowhere j r

/-- Answers requests in order. -/
def handleAll (app : App σ) (j : Journal σ) : List Request → List Reply × Journal σ
  | [] => ([], j)
  | r :: rs =>
    let (reply, j) := app.handle j r
    let (replies, j) := handleAll app j rs
    (reply :: replies, j)

end App

end GuardedTools.Http
