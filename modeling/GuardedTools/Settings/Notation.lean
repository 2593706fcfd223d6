import GuardedTools.Access.Notation
import GuardedTools.Extension.Shim
import GuardedTools.Settings

/-!
# Written settings

The settings in JSON, under the names of their fields, and the shim, its configuration and failures of
extensions.
-/

namespace GuardedTools

def InitError.toJson (e : InitError) : Json := Json.record [
  ("error", .str "ExtensionInitError"), ("message", .text e.message),
  ("kind", .text e.kind.word), ("extension", .text e.extension)]

/-- The kind of a word. -/
def InitErrorKind.ofWord (t : Text) : InitErrorKind :=
  ([dependencyMissing, invalidConfiguration, resourceUnavailable].find? (·.word == t)).getD
    initializationFailed

def MemoryRange.toJson (r : MemoryRange) : Json := .array [.int r.start, .int r.stop]

namespace ShimConfig

/-- The fields of a configuration, with its lists written as said. -/
def members (c : ShimConfig) (list : Json → Json) : List (String × Json) := [
  ("seed", (c.seed.map fun s => Json.record [("bytes", .text (hexText s.bytes))]).getD .null),
  ("env_vars", Json.textMap c.environment),
  ("memory_range", list c.memory.toJson),
  ("required_env_vars", list (Json.texts c.required))]

def toJson (c : ShimConfig) : Json := Json.record (c.members id)

/-- A configuration as a record of its class. -/
def toNotation (c : ShimConfig) : Json := Json.record [
  ("model", .text className),
  ("fields", Json.record (c.members fun j => Json.record [("tuple", j)]))]

end ShimConfig

def Shim.toJson (s : Shim) : Json := Json.record [
  ("seed", .text (hexText s.seed.bytes)), ("env", Json.textMap s.environment),
  ("memory_ids", s.memory.toJson)]

/-- The text of a path, or the absent value. -/
def Path.optJson (p : Option Path) : Json := Json.optText (p.map Path.toText)

def Settings.toJson (s : Settings) : Json := Json.record [
  ("environment", .text s.deployment.word),
  ("service_id", .text s.serviceId),
  ("tool_modules", Json.texts s.toolModules),
  ("policy_path", Path.optJson s.policyPath),
  ("discovery_filtered", .bool s.filtersDiscovery),
  ("extensions", Json.texts s.extensions),
  ("posix_shim_env", Json.textMap s.shimEnvironment),
  ("posix_shim_memory_range",
    Json.record [("tuple", .array [.int s.shimMemory.1, .int s.shimMemory.2])]),
  ("posix_shim_required_env", Json.texts s.shimRequired),
  ("database_url", .text s.databaseAddress),
  ("audit_log_enabled", .bool s.keepsAuditTrail),
  ("logging_config_path", Path.optJson s.loggingPath),
  ("enable_tracing", .bool s.isTracing),
  ("enable_metrics", .bool s.hasMetrics),
  ("jwt_secret", Json.optText s.tokenSecret),
  ("jwt_algorithms", Json.texts s.tokenAlgorithms)]

end GuardedTools
