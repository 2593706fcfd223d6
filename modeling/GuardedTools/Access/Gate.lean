import GuardedTools.Access.Policy
import GuardedTools.Service.Journal

/-!
# Gate

The gate stands in front of every call.  It decides anew each time, and records each decision three
times: in the log, in the counters and in the audit trail.  A failing audit sink changes neither
the decision nor the other two.
-/

namespace GuardedTools

/-- A policy with the names of the tools there are, if they count, and the sink of audit events. -/
structure Gate (σ : Type) where
  policy : Policy
  names : Option (List Text)
  sink : Option (AuditSink σ)

namespace Gate

variable {σ : Type}

/-- What the audit trail calls a caller, also one who does not present an identity. -/
def subjectOf (caller : Option Identity) : Text := (caller.getD .anonymous).auditSubject

/-- The audit event of a decision. -/
def auditEvent (caller : Option Identity) (tool : Text) (d : Decision) : AuditEvent :=
  { subject := subjectOf caller,
    action := "authz." ++ d.word,
    resource := "tool:" ++ tool,
    decision := some d.word,
    metadata := match d with
      | .allow => .dict []
      | .deny reason => .ofMembers [("reason", .text reason.word)] }

/-- The log event of a decision. -/
def logEvent (caller : Option Identity) (tool : Text) : Decision → LogEvent
  | .allow => .callAllowed (subjectOf caller) tool
  | .deny reason => .callDenied (subjectOf caller) tool reason.word

/-- Decides on a call. -/
def decide (g : Gate σ) (caller : Option Identity) (tool : Text) : Decision :=
  g.policy.decide caller tool g.names

/-- Decides on a call and records the decision. -/
def authorize (g : Gate σ) (j : Journal σ) (caller : Option Identity) (tool : Text) :
    Decision × Journal σ :=
  let decision := g.decide caller tool
  let (kept, failures) := AuditSink.emit g.sink j.kept (auditEvent caller tool decision)
  (decision,
    { j with
      log := j.log ++ logEvent caller tool decision :: failures
      metrics := j.metrics.decided decision.word
      kept := kept })

end Gate

end GuardedTools
