import GuardedTools.Proofs.Json.ReadLimits
import GuardedTools.Proofs.Service.Dispatch

/-!
# Calls without an outcome

Whatever a caller sends, and whatever the body of a tool does, a call has an outcome, with two
exceptions, both after the call was allowed (`answered_iff`).  The text that is given can be too much
for the reader of JSON (`Overwhelms`), which takes a number of more than 4300 digits or more than 990
opening brackets and braces (`Overwhelms.cause`).  And the tool can declare a limit that makes no sense
for what is given (`Inapplicable`).  All other arguments that do not decode are told to be invalid.
-/

namespace GuardedTools

/-! ### Arguments that are too much -/

/-- A value is decoded by reading a text. -/
def Value.ReadsAs (v : Value) (t : Text) : Prop :=
  v = .text t ∨ ∃ bs, v = .bytes bs ∧ Utf8.decode bs = .ok t

/-- A text of arguments is too much for the reader. -/
def TooMuch (t : Text) : Prop :=
  t.isBlank = false ∧ ((∃ n, Json.read .standard t = .error (.tooManyDigits n)) ∨
    Json.read .standard t = .error .tooDeep)

/-- What is given is read, and is too much for the reader. -/
def Overwhelms (given : Value) : Prop := ∃ t, given.ReadsAs t ∧ TooMuch t

theorem Text.not_isBlank_replicate (n : Nat) {p : CodePoint} (h : p.isBlank = false) :
    ¬ Text.isBlank ⟨List.replicate (n + 1) p⟩ = true := by
  rw [Text.isBlank, List.replicate_succ, List.all_cons, h]
  exact Bool.false_ne_true

/-- Arguments are refused, and the caller can be told so. -/
def ArgumentsError.IsRefusal (e : ArgumentsError) : Prop := ∃ fault, e = .refused fault

@[simp] theorem ArgumentsError.isRefusal_refused (fault : ArgumentsFault) :
    (refused fault).IsRefusal := ⟨fault, rfl⟩

@[simp] theorem ArgumentsError.not_isRefusal_tooManyDigits (n : Nat) :
    ¬ (tooManyDigits n).IsRefusal := nofun

@[simp] theorem ArgumentsError.not_isRefusal_tooDeep : ¬ tooDeep.IsRefusal := nofun

@[simp] theorem ArgumentsError.not_isRefusal_inapplicable (message : Text) :
    ¬ (inapplicable message).IsRefusal := nofun

/-- A text that is too much has a run of more than 4300 digits, or more than 990 brackets and braces
open in it. -/
theorem TooMuch.cause {t : Text} (h : TooMuch t) :
    (∃ n, 4300 < n ∧ Json.HasDigits n t.points) ∨ 990 < t.points.countP Json.opens := by
  obtain ⟨_, ⟨n, digits⟩ | deep⟩ := h
  · exact Or.inl ⟨n, Json.read_eq_tooManyDigits digits⟩
  · exact Or.inr (Json.read_eq_tooDeep deep)

theorem requireMap_eq_error {v : Value} {e : ArgumentsError} (h : requireMap v = .error e) :
    e.IsRefusal := by
  unfold requireMap at h
  split at h
  · cases h
  · exact ⟨_, (Except.error.inj h).symm⟩

theorem readArguments_of_tooMuch {t : Text} (h : TooMuch t) :
    ∃ e, readArguments t = .error e ∧ ¬ e.IsRefusal := by
  obtain ⟨solid, ⟨n, digits⟩ | deep⟩ := h
  · refine ⟨.tooManyDigits n, ?_, ArgumentsError.not_isRefusal_tooManyDigits n⟩
    rw [readArguments, if_neg (by rw [solid]; exact Bool.false_ne_true), digits]
  · refine ⟨.tooDeep, ?_, ArgumentsError.not_isRefusal_tooDeep⟩
    rw [readArguments, if_neg (by rw [solid]; exact Bool.false_ne_true), deep]

theorem readArguments_of_not_tooMuch {t : Text} {e : ArgumentsError} (h : ¬ TooMuch t)
    (failed : readArguments t = .error e) : e.IsRefusal := by
  unfold readArguments at failed
  split at failed
  · cases failed
  · next solid =>
    rw [Bool.not_eq_true] at solid
    split at failed
    · cases failed
    · next n digits => exact absurd ⟨solid, Or.inl ⟨n, digits⟩⟩ h
    · next deep => exact absurd ⟨solid, Or.inr deep⟩ h
    · exact ⟨_, (Except.error.inj failed).symm⟩

theorem decodeArguments_of_overwhelms {given : Value} (h : Overwhelms given) :
    ∃ e, decodeArguments given = .error e ∧ ¬ e.IsRefusal := by
  obtain ⟨t, reads, much⟩ := h
  obtain ⟨e, failed, unrefused⟩ := readArguments_of_tooMuch much
  refine ⟨e, ?_, unrefused⟩
  rcases reads with rfl | ⟨bs, rfl, decoded⟩
  · rw [decodeArguments, failed]
    rfl
  · unfold decodeArguments
    dsimp only
    rw [decoded]
    dsimp only
    rw [failed]
    rfl

theorem decodeArguments_of_not_overwhelms {given : Value} {e : ArgumentsError}
    (h : ¬ Overwhelms given) (failed : decodeArguments given = .error e) : e.IsRefusal := by
  have read : ∀ t, given.ReadsAs t → (readArguments t).bind requireMap = .error e →
      e.IsRefusal := by
    intro t reads failed
    cases hr : readArguments t with
    | error e' =>
      rw [hr] at failed
      obtain rfl : e' = e := Except.error.inj failed
      exact readArguments_of_not_tooMuch (fun much => h ⟨t, reads, much⟩) hr
    | ok v =>
      rw [hr] at failed
      exact requireMap_eq_error failed
  unfold decodeArguments at failed
  split at failed
  · cases failed
  · next bs =>
    split at failed
    · next t decoded => exact read t (Or.inr ⟨bs, rfl, decoded⟩) failed
    · exact ⟨_, (Except.error.inj failed).symm⟩
  · next t => exact read t (Or.inl rfl) failed
  · exact requireMap_eq_error failed

theorem decodeArguments_ones {n : Nat} (many : 4300 < n) :
    decodeArguments (.text ⟨List.replicate n (CodePoint.scalar '1')⟩) = .error (.tooManyDigits n) := by
  obtain ⟨m, rfl⟩ : ∃ m, n = m + 1 := ⟨n - 1, by omega⟩
  have digits : ∀ p ∈ List.replicate (m + 1) (CodePoint.scalar '1'), p.isDigit = true := by
    intro p hp
    rw [List.eq_of_mem_replicate hp]
    rfl
  have read := Json.read_digits .standard digits rfl
    (by rw [← List.replicate_succ, List.length_replicate]; exact many)
  rw [← List.replicate_succ, List.length_replicate] at read
  rw [decodeArguments, readArguments, if_neg (Text.not_isBlank_replicate m (by decide +kernel)), read]
  rfl

theorem decodeArguments_brackets {n : Nat} (deep : 990 < n) :
    decodeArguments (.text ⟨List.replicate n (CodePoint.scalar '[')⟩) = .error .tooDeep := by
  obtain ⟨m, rfl⟩ : ∃ m, n = m + 1 := ⟨n - 1, by omega⟩
  have read := Json.read_brackets .standard deep
  rw [decodeArguments, readArguments, if_neg (Text.not_isBlank_replicate m (by decide +kernel)), read]
  rfl

/-! ### Limits that make no sense -/

theorem Tool.accept_eq_error {t : Tool} {v : Value} {e : ArgumentsError}
    (h : t.accept v = .error e) : e.IsRefusal ∨ ∃ message, e = .inapplicable message := by
  unfold Tool.accept at h
  split at h
  · cases h
  · split at h
    · exact Or.inr ⟨_, (Except.error.inj h).symm⟩
    · exact Or.inl ⟨_, (Except.error.inj h).symm⟩

namespace Dispatcher

variable {κ σ τ ω : Type}

/-- The tool of a call declares a limit that makes no sense for what is given. -/
def Inapplicable (d : Dispatcher σ) (call : Call) : Prop :=
  ∃ t v message, d.registry.find? call.tool = some t ∧ decodeArguments call.given = .ok v ∧
    t.accept v = .error (.inapplicable message)

/-- A call that stops is refused, unless what is given is too much or a limit makes no sense for
it. -/
theorem Stops.isRefusal_iff {d : Dispatcher σ} {call : Call} {e : ArgumentsError}
    (h : d.Stops call e) : e.IsRefusal ↔ ¬ (Overwhelms call.given ∨ d.Inapplicable call) := by
  constructor
  · rintro refused (overwhelmed | ⟨t, v, message, found, decoded, unfit⟩)
    · -- a call stops with one error only
      obtain ⟨e', failed, unrefused⟩ := decodeArguments_of_overwhelms overwhelmed
      obtain rfl := h.unique (h.of_undecoded failed)
      exact unrefused refused
    · obtain rfl := h.unique ⟨t, found, Or.inr ⟨v, decoded, unfit⟩⟩
      exact ArgumentsError.not_isRefusal_inapplicable message refused
  · intro answerable
    obtain ⟨t, found, failed | ⟨v, decoded, refused⟩⟩ := h
    · exact decodeArguments_of_not_overwhelms (fun much => answerable (Or.inl much)) failed
    · rcases Tool.accept_eq_error refused with refusal | ⟨message, rfl⟩
      · exact refusal
      · exact absurd (Or.inr ⟨t, v, message, found, decoded, refused⟩) answerable

/-! ### Answers -/

theorem exists_outcome_arguments_iff (tool : Text) (e : ArgumentsError) :
    (∃ o, (CallRefusal.arguments e).outcome tool = .ok o) ↔ e.IsRefusal := by
  constructor
  · rintro ⟨o, ho⟩
    obtain ⟨fault, refused, _⟩ := outcome_arguments_eq_ok ho
    exact ⟨fault, refused⟩
  · rintro ⟨fault, rfl⟩
    exact ⟨_, rfl⟩

/-- A call has an outcome exactly if it is denied, or nothing about it is too much or makes no
sense. -/
theorem Answers.exists_outcome_iff {enter : Entry ω} {d : Dispatcher σ} {j : Journal σ} {world : ω}
    {call : Call} {result : Dispatched σ × ω} (answers : Answers enter d j world call result) :
    (∃ o, result.1.outcome = .ok o) ↔
      ¬ (d.gate.decide call.caller call.tool = .allow ∧
        (Overwhelms call.given ∨ d.Inapplicable call)) := by
  cases answers with
  | denied denied => exact ⟨fun _ h => denied h.1, fun _ => ⟨_, rfl⟩⟩
  | stopped e allowed stops =>
    rw [exists_outcome_arguments_iff, stops.isRefusal_iff, not_iff_not]
    exact ⟨fun h => ⟨allowed, h⟩, fun h => h.2⟩
  | run c allowed accepts =>
    refine ⟨?_, fun _ => ⟨_, rfl⟩⟩
    rintro _ ⟨_, much | ⟨t, v, message, found, decoded, unfit⟩⟩
    · obtain ⟨e, failed, _⟩ := decodeArguments_of_overwhelms much
      exact accepts.not_stops ⟨c.tool, accepts.1, Or.inl failed⟩
    · exact accepts.not_stops ⟨t, found, Or.inr ⟨v, decoded, unfit⟩⟩

/-- What is told of a call that is allowed, but of which the arguments do not decode. -/
theorem Answers.outcome_of_undecoded {enter : Entry ω} {d : Dispatcher σ} {j : Journal σ}
    {world : ω} {call : Call} {result : Dispatched σ × ω}
    (answers : Answers enter d j world call result)
    (allowed : d.gate.decide call.caller call.tool = .allow) {e : ArgumentsError}
    (failed : decodeArguments call.given = .error e) :
    result.1.outcome = (CallRefusal.arguments e).outcome call.tool := by
  cases answers with
  | denied denied => exact absurd allowed denied
  | stopped e' allowed stops =>
    obtain rfl := stops.unique (stops.of_undecoded failed)
    rfl
  | run c allowed accepts => exact absurd ⟨c.tool, accepts.1, Or.inl failed⟩ accepts.not_stops

variable {table : ExtensionTable κ τ} {declarations : List Declaration}
  {configs : List (ExtensionConfig κ)} {policy : Policy} {serviceId : Text} {isTracing : Bool}
  {sink : Option (AuditSink σ)} {s : Service σ τ}

/-- **When a call has an outcome**, in a service that was started with a policy: exactly if the policy
denies it, or neither is what is given too much for the reader of JSON, nor does a limit of the tool
make no sense for it.  The outcome is a result or an error of one of the three categories; and all that
does not decode, and is not too much, is told to be invalid. -/
theorem answered_iff
    (started : (Service.start table declarations configs policy serviceId isTracing sink).result
      = .ok s)
    (enter : Entry ω) (j : Journal σ) (world : ω) (call : Call) :
    ((∃ o, (s.dispatcher.answer enter j world call).done.outcome = .ok o ∧
        (o.IsResult ∨ o.category? = some (Text.ofString "access_denied") ∨
          o.category? = some (Text.ofString "validation_error") ∨
          o.category? = some (Text.ofString "tool_error"))) ↔
      ¬ (policy.decide call.caller call.tool (some s.registry.names) = .allow ∧
        (Overwhelms call.given ∨ s.dispatcher.Inapplicable call))) ∧
    (policy.decide call.caller call.tool (some s.registry.names) = .allow →
      ∀ e, decodeArguments call.given = .error e → ¬ Overwhelms call.given →
        ∃ o, (s.dispatcher.answer enter j world call).done.outcome = .ok o ∧
          o.category? = some (Text.ofString "validation_error")) ∧
    (Overwhelms call.given → ∃ t, call.given.ReadsAs t ∧
      ((∃ n, 4300 < n ∧ Json.HasDigits n t.points) ∨ 990 < t.points.countP Json.opens)) := by
  have decides := Service.decide_of_start started call.caller call.tool
  have answers := answers_dispatchIn s enter j world call
  refine ⟨?_, ?_, ?_⟩
  · rw [← decides, ← answers.exists_outcome_iff]
    refine exists_congr fun o => ?_
    exact and_iff_left (CallOutcome.isResult_or_category? o)
  · intro allowed e failed fits
    rw [← decides] at allowed
    have told := answers.outcome_of_undecoded allowed failed
    obtain ⟨fault, rfl⟩ := decodeArguments_of_not_overwhelms fits failed
    exact ⟨_, told, CallOutcome.category?_invalidArguments _ _⟩
  · rintro ⟨t, reads, much⟩
    exact ⟨t, reads, much.cause⟩

/-- A call of the echo with a byte that is no text is told to be invalid. -/
theorem answered_iff_echo :
    ∃ s, (Service.echoStart Service.echoPolicy).result = .ok s ∧
      ∃ o, (s.dispatcher.answer Entry.pure { kept := () } ()
          { caller := none, tool := "echo", given := .bytes [255] }).done.outcome = .ok o ∧
        o.category? = some (Text.ofString "validation_error") := by
  obtain ⟨s, started, seen⟩ := Service.exists_of_any
    (fun s => Service.echoPolicy.decide none "echo" (some s.registry.names) == .allow)
    (by decide +kernel : (Service.echoStart Service.echoPolicy).result.toOption.any _ = true)
  have failed : decodeArguments (.bytes [255]) = .error (.refused .notUtf8) := by rfl
  refine ⟨s, started, (answered_iff started _ _ _ _).2.1 (eq_of_beq seen) _ failed ?_⟩
  intro much
  obtain ⟨e, failed', unrefused⟩ := decodeArguments_of_overwhelms much
  obtain rfl := Except.error.inj (failed.symm.trans failed')
  exact unrefused (ArgumentsError.isRefusal_refused _)

/-- A number of 4301 digits is no JSON object, nor are 991 brackets, but who gives the echo one of them
is told nothing. -/
theorem dispatch_echo_overwhelmed :
    ∃ s, (Service.echoStart Service.echoPolicy).result = .ok s ∧
      (s.dispatcher.dispatch { kept := () } none "echo"
        (.text ⟨List.replicate 4301 (CodePoint.scalar '1')⟩)).outcome
          = .error (.tooManyDigits 4301) ∧
      (s.dispatcher.dispatch { kept := () } none "echo"
        (.text ⟨List.replicate 991 (CodePoint.scalar '[')⟩)).outcome = .error .tooDeep := by
  obtain ⟨s, started, seen⟩ := Service.exists_of_any
    (fun s => s.dispatcher.gate.decide none "echo" == .allow)
    (by decide +kernel : (Service.echoStart Service.echoPolicy).result.toOption.any _ = true)
  have told : ∀ given e, decodeArguments given = .error e →
      (s.dispatcher.dispatch { kept := () } none "echo" given).outcome
        = (CallRefusal.arguments e).outcome "echo" := by
    intro given e failed
    have answers := answers_dispatchIn s Entry.pure { kept := () } ()
      { caller := none, tool := "echo", given }
    exact answers.outcome_of_undecoded (eq_of_beq seen) failed
  exact ⟨s, started, told _ _ (decodeArguments_ones (by decide)),
    told _ _ (decodeArguments_brackets (by decide))⟩

end Dispatcher

end GuardedTools
