import GuardedTools.Http.App
import GuardedTools.Proofs.Json.Strict
import GuardedTools.Proofs.Service.Dispatch
import GuardedTools.Proofs.Tool.Name

/-!
# Outcomes on the wire

Whatever is called, and whatever the body of a tool does, the numbers of an outcome can be sent: a
result is only told if they can, and an error holds none.  So an outcome is sent if and only if its texts
are Unicode (`run_sendable`).  Nothing in the dispatcher asks this of them, and a caller who hands a lone
surrogate to a tool that gives it back gets no outcome but a crash (`crashed_echo`).
-/

namespace GuardedTools

/-! ### Outcomes -/

/-- What a tool finishes with can be sent but for its texts. -/
theorem Tool.isSendable_of_finish {t : Tool} {returned : Value} {j : Json}
    (h : t.finish returned = some j) : j.isSendable = true := by
  unfold Tool.finish at h
  split at h
  · cases h
  split at h
  · cases h
  split at h
  · next sendable => exact Option.some.inj h ▸ sendable
  · cases h

namespace CallOutcome

/-- The texts that an outcome takes from the call or from the tool are Unicode. -/
def IsUnicode : CallOutcome → Prop
  | result j => j.isScalar = true
  | accessDenied => True
  | invalidArguments _ hint => hint.isScalar = true
  | toolError _ message => message.isScalar = true

/-- An outcome that comes of a call: the tool that it names has a Unicode name, and if it is a result its
numbers can be sent. -/
inductive Comes : CallOutcome → Prop
  | result (j : Json) (sendable : j.isSendable = true) : Comes (result j)
  | accessDenied : Comes accessDenied
  | invalidArguments (tool hint : Text) (named : tool.isScalar = true) :
    Comes (invalidArguments tool hint)
  | toolError (tool message : Text) (named : tool.isScalar = true) : Comes (toolError tool message)

variable {o : CallOutcome}

/-- The numbers of an outcome can be sent. -/
theorem Comes.isSendable (h : o.Comes) : o.toJson.isSendable = true := by
  cases h with
  | result j sendable => exact (Bool.and_true _).trans sendable
  | accessDenied => rfl
  | invalidArguments tool hint => rfl
  | toolError tool message => rfl

/-- The texts of an outcome are Unicode if those are that it takes over. -/
theorem Comes.isScalar_iff (h : o.Comes) : o.toJson.isScalar = true ↔ o.IsUnicode := by
  cases h with
  | result j sendable =>
    simp [toJson, Json.record, Json.members, Json.isScalar, Json.areScalarMembers, IsUnicode]
  | accessDenied => exact ⟨fun _ => trivial, fun _ => by decide⟩
  | invalidArguments tool hint named =>
    simp [toJson, errorJson, Json.record, Json.members, Json.isScalar, Json.areScalarMembers,
      IsUnicode, named]
  | toolError tool message named =>
    simp [toJson, errorJson, Json.record, Json.members, Json.isScalar, Json.areScalarMembers,
      IsUnicode, named]

/-- An outcome that comes of a call is sent if the texts are Unicode that it takes over. -/
theorem Comes.strictBytes?_isSome_iff (h : o.Comes) : o.toJson.strictBytes?.isSome ↔ o.IsUnicode := by
  rw [Json.strictBytes?_isSome, h.isSendable, Bool.true_and]
  exact h.isScalar_iff

end CallOutcome

namespace Dispatcher

variable {κ σ τ ω : Type}

/-- What running a tool comes to. -/
theorem conclude_comes {t : Tool} (named : t.name.isScalar = true) (run : Outcome) :
    (conclude t run).1.Comes := by
  unfold conclude
  split
  · exact .toolError _ _ named
  · exact .toolError _ _ named
  · split
    · next finished => exact .result _ (Tool.isSendable_of_finish finished)
    · exact .toolError _ _ named

/-- What an answer tells, where the names of all tools are Unicode. -/
theorem Answers.comes {enter : Entry ω} {d : Dispatcher σ} {j : Journal σ} {world : ω} {call : Call}
    {result : Dispatched σ × ω} (answers : Answers enter d j world call result)
    (named : ∀ t ∈ d.registry.tools, t.name.isScalar = true) {o : CallOutcome}
    (told : result.1.outcome = .ok o) : o.Comes := by
  cases answers with
  | denied denied =>
    obtain rfl := Except.ok.inj told
    exact .accessDenied
  | stopped e allowed stops =>
    obtain ⟨fault, -, rfl⟩ := outcome_arguments_eq_ok told
    obtain ⟨t, found, -⟩ := stops
    refine .invalidArguments _ _ ?_
    rw [← Registry.name_of_find? found]
    exact named t (List.mem_of_find?_eq_some found)
  | run c allowed accepts =>
    obtain rfl := Except.ok.inj told
    exact conclude_comes (named c.tool (List.mem_of_find?_eq_some accepts.1)) _

variable {table : ExtensionTable κ τ} {declarations : List Declaration}
  {configs : List (ExtensionConfig κ)} {policy : Policy} {serviceId : Text} {isTracing : Bool}
  {sink : Option (AuditSink σ)} {s : Service σ τ}

/-- The names of all tools of a service that was started are Unicode. -/
theorem isScalar_names
    (started : (Service.start table declarations configs policy serviceId isTracing sink).result
      = .ok s) : ∀ t ∈ s.dispatcher.registry.tools, t.name.isScalar = true := by
  obtain ⟨r, built, rfl⟩ := Service.start_eq_assemble started
  intro t member
  obtain ⟨d, -, made⟩ := Registry.made_of_mem built member
  exact made.isScalar_name

/-- **What can be sent**: whatever bodies of tools do, the numbers of all outcomes of a service that was
started can be sent, and an outcome as a whole is sent, as the reply to a request, exactly if the texts that
it takes over are Unicode. -/
theorem run_sendable
    (started : (Service.start table declarations configs policy serviceId isTracing sink).result
      = .ok s)
    (enter : Entry ω) (j : Journal σ) (world : ω) (calls : List Call) :
    ∀ a ∈ s.dispatcher.run enter j world calls, ∀ o, a.done.outcome = .ok o →
      o.toJson.isSendable = true ∧
      (o.toJson.strictBytes?.isSome ↔ o.IsUnicode) ∧
      ((∃ reply, Http.App.replyOf a.done.outcome = .ok reply) ↔ o.IsUnicode) := by
  refine forall_mem_run enter s.dispatcher (fun j world call o told => ?_) j world calls
  have comes : o.Comes :=
    (answers_dispatchIn s enter j world call).comes (isScalar_names started) told
  refine ⟨comes.isSendable, comes.strictBytes?_isSome_iff, ?_⟩
  rw [told, Http.App.replyOf, Http.Reply.exists_ofJson_iff]
  exact comes.strictBytes?_isSome_iff

/-- A call of the echo with a message. -/
def echoCall (message : Text) : Call :=
  { caller := none, tool := "echo", given := .dict [(.text "msg", .text message)] }

/-- Half of a surrogate pair. -/
def loneSurrogate : Text := ⟨[.surrogate 0]⟩

/-- The value of an outcome that is a result. -/
def resultOf? : Except CallFailure CallOutcome → Option Json
  | .ok (.result j) => some j
  | _ => none

theorem resultOf?_eq_some {outcome : Except CallFailure CallOutcome} {j : Json}
    (h : resultOf? outcome = some j) : outcome = .ok (.result j) := by
  unfold resultOf? at h
  split at h
  · rw [Option.some.inj h]
  · cases h

/-- The reply to a call of the echo is sent. -/
theorem run_sendable_echo :
    ∃ s, (Service.echoStart Service.echoPolicy).result = .ok s ∧
      ∀ a ∈ s.dispatcher.run Entry.pure { kept := () } () [echoCall "hello"],
        ∃ reply, Http.App.replyOf a.done.outcome = .ok reply := by
  obtain ⟨s, started, seen⟩ := Service.exists_of_any
    (fun s => (s.dispatcher.run Entry.pure { kept := () } () [echoCall "hello"]).all fun a =>
      (resultOf? a.done.outcome).any Json.isScalar)
    (by decide +kernel : (Service.echoStart Service.echoPolicy).result.toOption.any _ = true)
  refine ⟨s, started, fun a member => ?_⟩
  have seen := List.all_eq_true.mp seen a member
  obtain ⟨j, result, unicode⟩ := (Option.any_eq_true _ _).mp seen
  exact (run_sendable started _ _ _ _ a member _ (resultOf?_eq_some result)).2.2.mpr unicode

/-- Half of a surrogate pair comes back from the echo as a result, of which the reply is a crash. -/
theorem crashed_echo :
    ∃ s, (Service.echoStart Service.echoPolicy).result = .ok s ∧
      ∃ a ∈ s.dispatcher.run Entry.pure { kept := () } () [echoCall loneSurrogate],
        ∃ o, a.done.outcome = .ok o ∧ o.IsResult ∧ o.toJson.strictBytes? = none := by
  obtain ⟨s, started, seen⟩ := Service.exists_of_any
    (fun s => (s.dispatcher.run Entry.pure { kept := () } () [echoCall loneSurrogate]).any fun a =>
      (resultOf? a.done.outcome).any fun j => (Json.record [("result", j)]).strictBytes?.isNone)
    (by decide +kernel : (Service.echoStart Service.echoPolicy).result.toOption.any _ = true)
  obtain ⟨a, member, seen⟩ := List.any_eq_true.mp seen
  obtain ⟨j, result, unsendable⟩ := (Option.any_eq_true _ _).mp seen
  exact ⟨s, started, a, member, _, resultOf?_eq_some result, ⟨j, rfl⟩, Option.isNone_iff_eq_none.mp unsendable⟩

end Dispatcher

end GuardedTools
