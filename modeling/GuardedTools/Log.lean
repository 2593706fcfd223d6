import GuardedTools.Text

/-!
# Log events

What the program tells its operators while it runs.  Events of the audit channel are told in full;
of the others the topic is what tools that watch the log go by.
-/

namespace GuardedTools

/-- How urgent an event is. -/
inductive LogLevel where
  | info
  | warning
  | error
deriving DecidableEq, Inhabited, Repr

def LogLevel.word : LogLevel → Text
  | info => "INFO"
  | warning => "WARNING"
  | error => "ERROR"

/-- An event that is logged. -/
inductive LogEvent where
  | registryBuilt
  | serviceReady
  | policyUnset
  | callAllowed (subject tool : Text)
  | callDenied (subject tool reason : Text)
  | sinkFailed
  | toolExecuted
  | toolFailed
  | toolCrashed
  | resultRefused
  | extensionApplied
  | extensionFailed
  | shimReady
  | applicationReady
  | loggingRejected
  | exporterFailed
deriving DecidableEq, Inhabited, Repr

namespace LogEvent

def level : LogEvent → LogLevel
  | policyUnset => .warning
  | callDenied _ _ _ => .warning
  | loggingRejected => .warning
  | exporterFailed => .warning
  | sinkFailed => .error
  | toolCrashed => .error
  | resultRefused => .error
  | extensionFailed => .error
  | _ => .info

/-- What an event is about. -/
def topic : LogEvent → Text
  | registryBuilt => "tool.registry.built"
  | serviceReady => "service.ready"
  | policyUnset => "policy.unset"
  | callAllowed _ _ => "authz.allow"
  | callDenied _ _ _ => "authz.deny"
  | sinkFailed => "audit.sink.error"
  | toolExecuted => "tool.execute"
  | toolFailed => "tool.execute.tool_error"
  | toolCrashed => "tool.execute.error"
  | resultRefused => "tool.execute.bad_result"
  | extensionApplied => "extension.applied"
  | extensionFailed => "extension.apply.failed"
  | shimReady => "posix_shim.ready"
  | applicationReady => "app.ready"
  | loggingRejected => "logging config %s rejected, using fallback"
  | exporterFailed => "Failed to initialize OTLP exporter; tracing will be local-only"

/-- What is told of an event: of decisions everything, of other events the topic. -/
def told : LogEvent → Text
  | callAllowed subject tool => "authz.allow: subject=" ++ subject ++ " tool=" ++ tool
  | callDenied subject tool reason =>
    "authz.deny: subject=" ++ subject ++ " tool=" ++ tool ++ " reason=" ++ reason
  | e => e.topic

/-- The line of an event. -/
def line (e : LogEvent) : Text := e.level.word ++ " " ++ e.told

end LogEvent

end GuardedTools
