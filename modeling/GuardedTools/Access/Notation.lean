import GuardedTools.Access.Audit
import GuardedTools.Access.PolicyTables
import GuardedTools.Value.Notation

/-!
# Written access

Callers, policies, decisions and entries of the audit trail in JSON.  What has no order is written
in the order of its texts.
-/

namespace GuardedTools

namespace Json

/-- A list of texts. -/
def texts (ts : List Text) : Json := array (ts.map text)

/-- The texts of a set in order. -/
def textSet (ts : List Text) : Json := texts (Text.sort ts.eraseDups)

/-- A text, or the absent value. -/
def optText (t : Option Text) : Json := (t.map text).getD null

/-- A map of texts to texts. -/
def textMap (vs : List (Text × Text)) : Json := object (vs.map fun v => (v.1, text v.2))

end Json

/-- A caller, with what follows from it. -/
def Identity.toJson (i : Identity) : Json := Json.record [
  ("principal", Json.optText i.principal),
  ("roles", Json.textSet i.roles),
  ("anonymous", .bool i.isAnonymous),
  ("audit_subject", .text i.auditSubject)]

def Table.toJson (t : Table Text) : Json := .object (t.map fun r => (r.1, Json.textSet r.2))

def Policy.toJson (p : Policy) : Json := Json.record [
  ("rules", Json.textMap p.rules),
  ("grants", Table.toJson p.grants),
  ("role_grants", Table.toJson p.roleGrants),
  ("role_inherits", Table.toJson p.roleInherits),
  ("anonymous", Json.textSet p.anonymous)]

namespace PolicyTables

/-- A value as JSON, or its notation if it has no form there. -/
def jsonOf (v : Value) : Json := ((v.toJson false).toOption).getD v.toNotation

/-- Values as JSON. -/
def listed (vs : List Value) : Json := .array (vs.map jsonOf)

/-- The rows of a table, each in its order. -/
def rowsJson (table : Table Value) : Except TableFault Json := do
  return .object (← table.mapM fun r => do return (r.1, listed (← ordered r.2)))

def toJson (t : PolicyTables) : Except TableFault Json := do
  return Json.record [
    ("rules", jsonOf (.dict t.rules)),
    ("grants", ← rowsJson t.policy.grants),
    ("role_grants", ← rowsJson t.policy.roleGrants),
    ("role_inherits", Table.toJson t.policy.roleInherits),
    ("anonymous", listed (← ordered t.policy.anonymous))]

end PolicyTables

/-- A decision, with the reason if it denies. -/
def Decision.toJson : Decision → Json
  | .allow => Json.record [("decision", .str "allow")]
  | .deny r => Json.record [("decision", .str "deny"), ("reason", .text r.word)]

namespace AuditEvent

def toJson (e : AuditEvent) : Json :=
  Json.record [
    ("subject", .text e.subject), ("action", .text e.action), ("resource", .text e.resource),
    ("decision", Json.optText e.decision), ("metadata", e.metadata.toNotation)]

/-- A value as a text of the trail. -/
def textOf? : Value → Option Text
  | .null => none
  | .bool b => some (if b then "1" else "0")
  | v => some v.plain

/-- The event of a notation, in which nothing need be given. -/
def ofNotation (j : Json) : AuditEvent where
  subject := (Value.ofNotation (j.at "subject")).plain
  action := (Value.ofNotation (j.at "action")).plain
  resource := (Value.ofNotation (j.at "resource")).plain
  decision := textOf? (Value.ofNotation (j.at "decision"))
  metadata := (j.at? "metadata").elim (.dict []) Value.ofNotation

/-- The event of a notation, in which its subject, action and resource must be given. -/
def ofWhole (j : Json) : Except AuditFault AuditEvent :=
  match ["subject", "action", "resource"].filter fun key => (j.at? key).isNone with
  | [] => .ok (ofNotation j)
  | first :: others => .error (.missing first (others.map Text.ofString))

end AuditEvent

/-- An entry. -/
def AuditEntry.toJson (e : AuditEntry) : Json :=
  Json.record [
    ("id", .int e.id), ("subject", .text e.subject), ("action", .text e.action),
    ("resource", .text e.resource), ("decision", Json.optText e.decision),
    ("metadata", e.metadata.toNotation), ("repr", .text e.summary)]

/-- The query of a notation. -/
def AuditQuery.ofNotation (j : Json) : Except AuditFault AuditQuery := do
  let limit ← match j.at? "limit" with
    | some v => (Value.ofNotation v).toInteger.mapError .limit
    | none => pure 50
  let stated (key : String) : Option Text := AuditEvent.textOf? (Value.ofNotation (j.at key))
  return { limit, subject := stated "subject", action := stated "action" }

/-- The entries that the query of a notation asks for. -/
def AuditTrail.asked (t : AuditTrail) (j : Json) : Except AuditFault Json := do
  return .array ((← t.ask (← AuditQuery.ofNotation j)).map AuditEntry.toJson)

end GuardedTools
