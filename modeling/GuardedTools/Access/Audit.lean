import GuardedTools.Json.Reader
import GuardedTools.Log
import GuardedTools.Text.Utf8
import GuardedTools.Value.Canonical
import GuardedTools.Value.Integer
import GuardedTools.Value.Items

/-!
# Audit trail

Every decision is an audit event, which is offered to a sink.  A sink that fails is logged and
otherwise ignored: it has no way to reach the caller.

`AuditTrail` is the sink that keeps events: its entries stand in the order of their numbers, and a new
one comes behind them under the next number.  `AuditTrail.recent` lists those that are asked for,
newest first.  What cannot be kept or asked for is an `AuditFault`.
-/

namespace GuardedTools

/-- Something that happened, for the audit trail. -/
structure AuditEvent where
  subject : Text
  action : Text
  resource : Text
  decision : Option Text := none
  /-- What else is known, by name. -/
  metadata : Value := .dict []
deriving Inhabited, Repr

namespace AuditEvent

/-- The texts of an event. -/
def texts (e : AuditEvent) : List Text := [e.subject, e.action, e.resource] ++ e.decision.toList

end AuditEvent

/-- Where audit events go: a function of what has been kept so far, which may fail. -/
structure AuditSink (σ : Type) where
  deliver : σ → AuditEvent → Option σ
  /-- What is kept after an event on which the sink failed; it may have kept a part of it. -/
  leave : σ → AuditEvent → σ := fun kept _ => kept

namespace AuditSink

variable {σ : Type}

/-- Offers an event to a sink, if there is one; a failure is logged and otherwise ignored. -/
def emit (sink : Option (AuditSink σ)) (kept : σ) (e : AuditEvent) : σ × List LogEvent :=
  match sink with
  | none => (kept, [])
  | some s => match s.deliver kept e with
    | some kept => (kept, [])
    | none => (s.leave kept e, [.sinkFailed])

end AuditSink

/-- What the audit trail has of an event. -/
structure AuditEntry where
  id : Nat
  subject : Text
  action : Text
  resource : Text
  decision : Option Text
  /-- What else is known, as JSON; the absent value if nothing is. -/
  metadata : Json := .null
deriving Inhabited, Repr

namespace AuditEntry

/-- A text in quotes, or the word for an absent one. -/
def quotedOrNone : Option Text → Text
  | some t => t.quoted
  | none => "None"

/-- An entry in one line. -/
def summary (e : AuditEntry) : Text :=
  "AuditLog(id=" ++ Text.ofNat e.id ++ ", subject=" ++ e.subject.quoted ++ ", action="
    ++ e.action.quoted ++ ", resource=" ++ e.resource.quoted ++ ", decision="
    ++ quotedOrNone e.decision ++ ")"

end AuditEntry

/-- Why something is not kept, or not found out. -/
inductive AuditFault where
  | notUnicode (text : Utf8.Unencodable)
  /-- What else is known has no JSON form. -/
  | noForm (fault : CanonicalError)
  /-- The number of entries that is asked for is none. -/
  | limit (fault : IntegerFault)
  /-- The number of entries that is asked for is too large. -/
  | tooLarge
  /-- Parts of an event are not given. -/
  | missing (first : Text) (others : List Text)
deriving DecidableEq, Repr

namespace AuditFault

/-- The word that names a kind of fault. -/
def kind : AuditFault → Text
  | notUnicode _ => "UnicodeEncodeError"
  | limit f => f.kind
  | tooLarge => "OverflowError"
  | noForm f => f.kind
  | missing _ _ => "TypeError"

def message : AuditFault → Text
  | notUnicode u => u.message
  | noForm f => f.message
  | limit f => f.message
  | tooLarge => "Python int too large to convert to SQLite INTEGER"
  | missing first others =>
    "AuditEvent.__init__() missing " ++ Text.ofNat (others.length + 1)
      ++ " required positional argument" ++ (if others.isEmpty then Text.empty else "s") ++ ": "
      ++ Text.quotedList (first :: others)

/-- Texts that can be kept must be Unicode. -/
def ofTexts (ts : List Text) : Except AuditFault Unit :=
  match ts.findSome? Utf8.unencodable? with
  | some u => .error (.notUnicode u)
  | none => .ok ()

end AuditFault

/-- The audit trail, oldest entry first. -/
structure AuditTrail where
  entries : List AuditEntry := []
  ordered : (entries.map (·.id)).Pairwise (· < ·) := by exact List.Pairwise.nil
deriving Repr

/-- Which entries are asked for. -/
structure AuditQuery where
  limit : Int := 50
  subject : Option Text := none
  action : Option Text := none
deriving Inhabited, Repr

namespace AuditQuery

/-- Whether an entry is asked for. -/
def selects (q : AuditQuery) (e : AuditEntry) : Bool :=
  q.subject.all (· == e.subject) && q.action.all (· == e.action)

/-- The number of entries that are returned at most: at least one. -/
def count (q : AuditQuery) : Nat := max 1 q.limit.toNat

/-- The least number of entries that is too large to be asked for. -/
def countBound : Nat := 9223372036854775808

end AuditQuery

namespace AuditTrail

def empty : AuditTrail := {}

instance : Inhabited AuditTrail := ⟨empty⟩

/-- The number of the next entry: one more than the largest. -/
def nextId (t : AuditTrail) : Nat := (t.entries.map (·.id)).max?.getD 0 + 1

theorem lt_nextId {t : AuditTrail} {e : AuditEntry} (kept : e ∈ t.entries) : e.id < t.nextId :=
  Nat.lt_succ_of_le (List.le_max?_getD_of_mem (List.mem_map_of_mem kept))

/-- JSON as it is kept: it is written as text, and what is told of it is read there. -/
def kept (j : Json) : Json := (Json.read .standard j.compact).toOption.getD .null

/-- Adds an event, with JSON for whatever else is known. -/
def record (t : AuditTrail) (e : AuditEvent) (metadata : Json) : AuditTrail where
  entries := t.entries ++ [{
    id := t.nextId, subject := e.subject, action := e.action, resource := e.resource,
    decision := e.decision, metadata := kept metadata }]
  ordered := by
    rw [List.map_append, List.pairwise_append]
    refine ⟨t.ordered, List.pairwise_singleton _ _, fun id among id' last => ?_⟩
    obtain ⟨e, kept, rfl⟩ := List.mem_map.mp among
    obtain rfl := List.mem_singleton.mp last
    exact lt_nextId kept

/-- Adds an event with whatever else is known of it, unless that counts as nothing. -/
def recordWith (t : AuditTrail) (e : AuditEvent) : Except AuditFault AuditTrail := do
  let metadata ← if e.metadata.isTruthy then (e.metadata.toJson false).mapError .noForm
    else pure .null
  AuditFault.ofTexts e.texts
  return t.record e metadata

/-- The newest entries that are asked for, newest first. -/
def recent (t : AuditTrail) (q : AuditQuery) : List AuditEntry :=
  ((t.entries.filter q.selects).mergeSort fun a b => decide (b.id ≤ a.id)).take q.count

/-- The newest entries that are asked for, if the trail can be asked. -/
def ask (t : AuditTrail) (q : AuditQuery) : Except AuditFault (List AuditEntry) := do
  AuditFault.ofTexts (q.subject.toList ++ q.action.toList)
  if AuditQuery.countBound ≤ q.count then throw .tooLarge
  return t.recent q

/-- The sink that adds events to a trail, with what else is known of them as a map. -/
def sink : AuditSink AuditTrail where
  deliver t e := match e.metadata.entries with
    | .ok es => (t.recordWith { e with metadata := .dict es }).toOption
    | .error _ => none

end AuditTrail

end GuardedTools
