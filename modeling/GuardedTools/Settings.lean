import GuardedTools.Check.Form
import GuardedTools.Extension.Shim
import GuardedTools.Files

/-!
# Settings

What a service is told before it starts.  The settings are a form (`Settings.form`); a production
service must be given a policy, which is a law of the type.
-/

namespace GuardedTools

/-- What a service runs for. -/
inductive Deployment where
  | development
  | production
deriving DecidableEq, Inhabited, Repr

def Deployment.word : Deployment → Text
  | development => "dev"
  | production => "prod"

/-- The settings of a service. -/
structure Settings where
  deployment : Deployment := .development
  serviceId : Text := "toolgate"
  toolModules : List Text := ["toolgate.sample_tools"]
  policyPath : Option Path := none
  /-- Whether tools that a caller may not call are left out of listings. -/
  filtersDiscovery : Bool := false
  extensions : List Text := []
  shimEnvironment : List (Text × Text) := []
  shimMemory : Int × Int := (200, 210)
  shimRequired : List Text := []
  databaseAddress : Text := "sqlite:///./data/toolgate.db"
  keepsAuditTrail : Bool := true
  loggingPath : Option Path := some (Path.ofText "src/config/logging.yaml")
  isTracing : Bool := false
  hasMetrics : Bool := true
  tokenSecret : Option Text := none
  tokenAlgorithms : List Text := ["HS256"]
  policy_of_production : deployment = .production → policyPath.isSome := by decide

namespace Settings

def className : Text := "AppSettings"

/-- Names without the blanks around them, and without the blank ones. -/
def nameRule : Value → Except Problem Value
  | .list xs => .ok (.list (((Value.texts xs).map Text.trim).filter (!·.isEmpty) |>.map .text))
  | v => .ok v

def addressRule (v : Value) : Except Problem Value :=
  if v.isTruthy then .ok v else .error (.rule "database_url must not be empty")

/-- A blank secret is none. -/
def secretRule : Value → Except Problem Value
  | .text t => .ok (if t.trim.isEmpty then .null else .text t.trim)
  | v => .ok v

/-- A path, or the absent value. -/
def pathRule : Value → Except Problem Value
  | .null => .ok .null
  | .text t => .ok (.text (Path.ofText t).toText)
  | .bytes bs => match Utf8.decode bs with
    | .ok t => .ok (.text (Path.ofText t).toText)
    | .error _ => .error .pathType
  | _ => .error .pathType

/-- A list of texts. -/
def texts (ts : List Text) : Value := .list (ts.map .text)

/-- The fields, with the values they have if they are not given. -/
def form : Form where
  title := className
  extra := .ignore
  fields := [
    ("environment", .default (.text "dev"), .literal [.text "dev", .text "prod"]),
    ("service_id", .default (.text "toolgate"), .str {} none),
    ("tool_modules", .default (texts ["toolgate.sample_tools"]), .list (.str {} none) {}),
    ("policy_path", .default .null, .any),
    ("discovery_filtered", .default (.bool false), .bool),
    ("extensions", .default (.list []), .list (.str {} none) {}),
    ("posix_shim_env", .default (.dict []), .dict (.str {} none) (.str {} none) {}),
    ("posix_shim_memory_range", .default (.tuple [.int 200, .int 210]),
      .tuple [.int {}, .int {}] {}),
    ("posix_shim_required_env", .default (.list []), .list (.str {} none) {}),
    ("database_url", .default (.text "sqlite:///./data/toolgate.db"), .str {} none),
    ("audit_log_enabled", .default (.bool true), .bool),
    ("logging_config_path", .default (.text "src/config/logging.yaml"), .any),
    ("enable_tracing", .default (.bool false), .bool),
    ("enable_metrics", .default (.bool true), .bool),
    ("jwt_secret", .default .null, .nullable (.str {} none)),
    ("jwt_algorithms", .default (texts ["HS256"]), .list (.str {} none) {})]
  rules := [("tool_modules", nameRule), ("extensions", nameRule), ("policy_path", pathRule),
    ("logging_config_path", pathRule), ("database_url", addressRule), ("jwt_secret", secretRule)]

/-- The fields whose values are written as JSON where only texts can be given. -/
def structuredFields : List String := [
  "tool_modules", "extensions", "posix_shim_env", "posix_shim_memory_range",
  "posix_shim_required_env", "jwt_algorithms"]

/-- The fields in order. -/
def fieldNames : List Text := form.fields.map (·.1)

/-- The settings of the values of the form. -/
def ofValues (values : List (Text × Value)) : Except Problem Settings :=
  let value := Form.valueOf values
  let textsOf (v : Value) := Value.texts (v.items?.getD [])
  let pathOf : Value → Option Path
    | .text t => some (Path.ofText t)
    | _ => none
  let textOf : Value → Option Text
    | .text t => some t
    | _ => none
  let deployment : Deployment :=
    if textOf (value "environment") = some "prod" then .production else .development
  let policyPath := pathOf (value "policy_path")
  if h : deployment = .production → policyPath.isSome then .ok {
    deployment, policyPath
    serviceId := (value "service_id").plain
    toolModules := textsOf (value "tool_modules")
    filtersDiscovery := (value "discovery_filtered").isTruthy
    extensions := textsOf (value "extensions")
    shimEnvironment := ShimConfig.pairs (value "posix_shim_env")
    shimMemory := ShimConfig.bounds (value "posix_shim_memory_range")
    shimRequired := textsOf (value "posix_shim_required_env")
    databaseAddress := (value "database_url").plain
    keepsAuditTrail := (value "audit_log_enabled").isTruthy
    loggingPath := pathOf (value "logging_config_path")
    isTracing := (value "enable_tracing").isTruthy
    hasMetrics := (value "enable_metrics").isTruthy
    tokenSecret := textOf (value "jwt_secret")
    tokenAlgorithms := textsOf (value "jwt_algorithms")
    policy_of_production := h }
  else .error (.rule "policy_path is required when environment is 'prod'")

/-- The settings that a map gives, or what is wrong with it. -/
def ofEntries (entries : List (Value × Value)) : Except (List Issue) Settings := do
  let values ← form.fill entries
  (ofValues values).mapError fun p => [.here p]

/-- The configuration of the shim that settings describe. -/
def shimConfig (s : Settings) : Except (List Issue) ShimConfig :=
  ShimConfig.ofEntries [
    (.text "env_vars", Value.ofMembers (s.shimEnvironment.map fun e => (e.1, .text e.2))),
    (.text "memory_range", .tuple [.int s.shimMemory.1, .int s.shimMemory.2]),
    (.text "required_env_vars", .tuple (s.shimRequired.map .text))]

/-- The configurations of the extensions that settings list, in order. -/
def extensionConfigs (s : Settings) : List Text → Except InitError (List ShimConfig)
  | [] => .ok []
  | name :: names =>
    if name = ShimConfig.extensionName then
      match s.shimConfig with
      | .ok c => (extensionConfigs s names).map (c :: ·)
      | .error issues => .error { kind := .invalidConfiguration, extension := name,
                                  detail := ShimConfig.form.report issues }
    else .error { kind := .dependencyMissing, extension := name, detail := "no such extension" }

end Settings

end GuardedTools
