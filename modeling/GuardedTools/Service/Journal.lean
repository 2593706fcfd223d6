import GuardedTools.Access.Audit
import GuardedTools.Tool.Candidate

/-!
# Journal

What a service has recorded about the calls it answered: the log, the counters, the spans of a
trace, and what its audit sink keeps.

The counters are kept apart for every combination of their labels, in the order in which the
combinations first occurred.
-/

namespace GuardedTools

/-! ### Counters -/

/-- A count for each combination of label values. -/
abbrev Counter := List (List Text × Nat)

namespace Counter

/-- Counts one more of a combination. -/
def increment (labels : List Text) : Counter → Counter
  | [] => [(labels, 1)]
  | (ls, n) :: c => if ls = labels then (ls, n + 1) :: c else (ls, n) :: increment labels c

/-- The count of a combination. -/
def count (c : Counter) (labels : List Text) : Nat :=
  ((c.find? (·.1 == labels)).map (·.2)).getD 0

/-- The combinations that occurred. -/
def labels (c : Counter) : List (List Text) := c.map (·.1)

theorem count_increment (c : Counter) (labels others : List Text) :
    (c.increment labels).count others = c.count others + if labels = others then 1 else 0 := by
  induction c with
  | nil =>
    by_cases same : labels = others
    · subst same
      simp [increment, count]
    · simp [increment, count, same]
  | cons entry c ih =>
    obtain ⟨ls, n⟩ := entry
    unfold increment
    split
    · next here =>
      subst here
      by_cases same : ls = others
      · subst same
        simp [count]
      · simp [count, same]
    · next elsewhere =>
      by_cases found : ls = others
      · subst found
        simp [count, Ne.symm elsewhere]
      · simpa [count, found] using ih

theorem mem_labels_increment {c : Counter} {labels others : List Text} :
    others ∈ (c.increment labels).labels ↔ others = labels ∨ others ∈ c.labels := by
  induction c with
  | nil => simp [increment, Counter.labels]
  | cons entry c ih =>
    obtain ⟨ls, n⟩ := entry
    unfold increment
    split
    · next here =>
      subst here
      simp [Counter.labels]
    · simp only [Counter.labels, List.map_cons, List.mem_cons] at ih ⊢
      rw [ih]
      exact or_left_comm

end Counter

/-- The counters of a service. -/
structure Metrics where
  /-- Requests by endpoint, method and status. -/
  requests : Counter := []
  /-- Timed requests by endpoint and method. -/
  requestTimes : Counter := []
  /-- Calls that reached a tool, by its name. -/
  calls : Counter := []
  /-- Timed calls by the name of the tool. -/
  callTimes : Counter := []
  /-- Decisions by their word. -/
  decisions : Counter := []
deriving Inhabited, Repr

namespace Metrics

def decided (m : Metrics) (word : Text) : Metrics :=
  { m with decisions := m.decisions.increment [word] }

def called (m : Metrics) (tool : Text) : Metrics :=
  { m with calls := m.calls.increment [tool], callTimes := m.callTimes.increment [tool] }

def requested (m : Metrics) (endpoint method status : Text) : Metrics :=
  { m with
    requests := m.requests.increment [endpoint, method, status]
    requestTimes := m.requestTimes.increment [endpoint, method] }

/-- A label value inside quotes: backslashes, quotes and line breaks are escaped. -/
def escaped (t : Text) : Text :=
  ((t.replaceChar '\\' "\\\\").replaceChar '"' "\\\"").replaceChar '\n' "\\n"

/-- The labels of a counter with their values, in braces. -/
def labelText (names : List Text) (values : List Text) : Text :=
  "\x7b" ++ Text.intercalate "," ((names.zip values).map fun (n, v) =>
    n ++ "=\"" ++ escaped v ++ "\"") ++ "\x7d"

/-- The counts of a counter under their names with labels. -/
def counts (name : Text) (labels : List Text) (c : Counter) : List (Text × Nat) :=
  c.map fun (values, n) => (name ++ labelText labels values, n)

/-- The counts that are published, in order. -/
def published (m : Metrics) : List (Text × Nat) :=
  counts "request_count_total" ["endpoint", "method", "status"] m.requests
    ++ counts "request_latency_seconds_count" ["endpoint", "method"] m.requestTimes
    ++ counts "tool_call_count_total" ["tool_name"] m.calls
    ++ counts "tool_latency_seconds_count" ["tool_name"] m.callTimes
    ++ counts "authz_decision_count_total" ["decision"] m.decisions

end Metrics

/-! ### Records -/

/-- A span of a trace: the running of a tool, with the error that ended it. -/
structure Span where
  tool : Text
  error : Option Raised
deriving Inhabited, Repr

/-- The name of the spans of tools. -/
def Span.name : Text := "tool.call"

/-- What is recorded, beside what an audit sink keeps. -/
structure Journal (σ : Type) where
  log : List LogEvent := []
  metrics : Metrics := {}
  spans : List Span := []
  kept : σ

namespace Journal

variable {σ : Type}

/-- Adds events to the log. -/
def logged (j : Journal σ) (events : List LogEvent) : Journal σ := { j with log := j.log ++ events }

end Journal

end GuardedTools
