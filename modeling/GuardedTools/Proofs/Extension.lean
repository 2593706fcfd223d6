import GuardedTools.Extension
import Mathlib.Data.List.Basic

/-!
# What a bootstrap brings up

A configuration can be applied after others if its extension is known, was not applied, and has all that
it requires (`Bootstrap.MayFollow`); what it is refused with otherwise is the first of these that fails
(`Bootstrap.IsRefused`).  A list of configurations brings up states (`Bootstrap.Brings`) if each one can
be applied after those at earlier positions, and applying it to their states comes to its own.

A bootstrap ends in one of three ways (`Bootstrap.Comes`, `comes_bootstrapIn`): all configurations bring
up states, or those before some position do, and the one there is refused, or applying it fails.  The
invariant of the loop is that the configurations behind it brought up what is ready, and that exactly
they were applied.  What a bootstrap comes to as a whole is read off these three (`bootstrap_exact`).
-/

namespace GuardedTools.Bootstrap

variable {κ σ : Type} {table : ExtensionTable κ σ} {serviceId : Text}
  {configs before after : List (ExtensionConfig κ)} {ready : List (Text × σ)} {c : ExtensionConfig κ}

/-! ### One configuration -/

/-- An extension can be applied after those of some names. -/
structure MayFollow (table : ExtensionTable κ σ) (names : List Text) (c : ExtensionConfig κ)
    (x : Extension κ σ) : Prop where
  found : table.find? c.name = some x
  new : c.name ∉ names
  required : ∀ r ∈ x.requires, r ∈ names

/-- What is told of a configuration that cannot be applied after the extensions of some names: that
there is no such extension; else that it was applied; else the first of what it requires that was not. -/
inductive IsRefused (table : ExtensionTable κ σ) (names : List Text) (c : ExtensionConfig κ) :
    InitError → Prop
  | unknown (absent : table.find? c.name = none) : IsRefused table names c
      { kind := .dependencyMissing, extension := if c.name.isEmpty then c.className else c.name,
        detail := "no such extension" }
  | repeated (x : Extension κ σ) (found : table.find? c.name = some x) (earlier : c.name ∈ names) :
    IsRefused table names c
      { kind := .invalidConfiguration, extension := c.name, detail := "configured more than once" }
  | unmet (x : Extension κ σ) (found : table.find? c.name = some x) (new : c.name ∉ names)
      (met : List Text) (r : Text) (others : List Text) (split : x.requires = met ++ r :: others)
      (applied : ∀ r ∈ met, r ∈ names) (missing : r ∉ names) : IsRefused table names c
      { kind := .dependencyMissing, extension := c.name,
        detail := "requires " ++ r.quoted ++ " to be applied first" }

/-- What is told of an extension that fails: its own error as it is, any other as one of the
extension. -/
inductive Fails (x : Extension κ σ) (c : ExtensionConfig κ) (context : BootstrapContext σ) :
    InitError → Prop
  | own (e : InitError) (failed : (x.apply c context).state = .error (.refused e)) :
    Fails x c context e
  | wrapped (message : Text) (failed : (x.apply c context).state = .error (.crashed message)) :
    Fails x c context { kind := .initializationFailed, extension := c.name, detail := message }

theorem isReady_iff {name : Text} : isReady ready name = true ↔ name ∈ ready.map (·.1) := by
  simp [isReady]

/-- The extension of a configuration, or what it is refused with. -/
theorem extensionFor_cases (table : ExtensionTable κ σ) (ready : List (Text × σ))
    (c : ExtensionConfig κ) :
    (∃ x, MayFollow table (ready.map (·.1)) c x ∧ extensionFor table ready c = .ok x) ∨
      ∃ e, IsRefused table (ready.map (·.1)) c e ∧ extensionFor table ready c = .error e := by
  unfold extensionFor
  cases found : table.find? c.name with
  | none => exact Or.inr ⟨_, .unknown found, rfl⟩
  | some x =>
    dsimp only
    by_cases earlier : isReady ready c.name = true
    · rw [if_pos earlier]
      exact Or.inr ⟨_, .repeated x found (isReady_iff.mp earlier), rfl⟩
    · have new : c.name ∉ ready.map (·.1) := fun among => earlier (isReady_iff.mpr among)
      rw [if_neg earlier]
      cases first : x.requires.find? fun r => !isReady ready r with
      | none =>
        refine Or.inl ⟨x, ⟨found, new, fun r among => ?_⟩, rfl⟩
        have applied := List.find?_eq_none.mp first r among
        exact isReady_iff.mp (by simpa using applied)
      | some r =>
        obtain ⟨missing, met, others, split, applied⟩ := List.find?_eq_some_iff_append.mp first
        refine Or.inr ⟨_, .unmet x found new met r others split (fun r' among => ?_) ?_, rfl⟩
        · exact isReady_iff.mp (by simpa using applied r' among)
        · intro among
          rw [isReady_iff.mpr among] at missing
          cases missing

/-- What is told of an extension that failed. -/
theorem fails_initError {x : Extension κ σ} {context : BootstrapContext σ} {f : ApplyFailure}
    (failed : (x.apply c context).state = .error f) : Fails x c context (initError c.name f) := by
  cases f with
  | refused e => exact .own e failed
  | crashed message => exact .wrapped message failed

/-! ### All configurations -/

/-- Configurations bring up states: at every position there is a known extension, which is not at an
earlier position, requires only such as are, and comes to its state when it is applied to the states
before. -/
structure Brings (table : ExtensionTable κ σ) (serviceId : Text) (configs : List (ExtensionConfig κ))
    (ready : List (Text × σ)) : Prop where
  length_eq : ready.length = configs.length
  at_position : ∀ i c, configs[i]? = some c → ∃ x state,
    MayFollow table ((configs.take i).map (·.name)) c x ∧
    (x.apply c { serviceId, ready := ready.take i }).state = .ok state ∧
    ready[i]? = some (c.name, state)

/-- The calls in which configurations are applied that bring up states: each with the states before. -/
def calls (serviceId : Text) (configs : List (ExtensionConfig κ)) (ready : List (Text × σ)) :
    List (ExtensionConfig κ × BootstrapContext σ) :=
  configs.mapIdx fun i c => (c, { serviceId, ready := ready.take i })

namespace Brings

theorem nil : Brings table serviceId [] [] :=
  ⟨rfl, nofun⟩

theorem names_eq (h : Brings table serviceId configs ready) :
    ready.map (·.1) = configs.map (·.name) := by
  refine List.ext_getElem? fun i => ?_
  rw [List.getElem?_map, List.getElem?_map]
  cases at_i : configs[i]? with
  | none =>
    have beyond := List.getElem?_eq_none_iff.mp at_i
    rw [List.getElem?_eq_none (h.length_eq ▸ beyond)]
    rfl
  | some c =>
    obtain ⟨x, state, -, -, stands⟩ := h.at_position i c at_i
    rw [stands]
    rfl

/-- One more configuration that can follow. -/
theorem concat (h : Brings table serviceId before ready) {x : Extension κ σ} {state : σ}
    (follows : MayFollow table (ready.map (·.1)) c x)
    (applied : (x.apply c { serviceId, ready }).state = .ok state) :
    Brings table serviceId (before ++ [c]) (ready ++ [(c.name, state)]) := by
  have length_eq := h.length_eq
  refine ⟨by simp [length_eq], fun i c' at_i => ?_⟩
  rcases Nat.lt_or_ge i before.length with inside | beyond
  · rw [List.getElem?_append_left inside] at at_i
    have within : i < ready.length := length_eq ▸ inside
    rw [List.take_append_of_le_length (Nat.le_of_lt inside),
      List.take_append_of_le_length (Nat.le_of_lt within), List.getElem?_append_left within]
    exact h.at_position i c' at_i
  · -- The position is the last one, and all that came before is ready.
    rw [List.getElem?_append_right beyond, List.getElem?_singleton] at at_i
    split at at_i
    next last =>
      obtain rfl := Option.some.inj at_i
      obtain rfl : i = before.length := by omega
      refine ⟨x, state, ?_, ?_, ?_⟩
      · rw [List.take_left, ← h.names_eq]
        exact follows
      · rw [← length_eq, List.take_left]
        exact applied
      · rw [← length_eq, List.getElem?_concat_length]
    next => cases at_i

/-- What is brought up before a position does not depend on what comes there and later. -/
theorem take_eq {later : List (ExtensionConfig κ)} {ready' : List (Text × σ)}
    (h : Brings table serviceId before ready)
    (h' : Brings table serviceId (before ++ later) ready') :
    ready'.take before.length = ready := by
  have upTo : ∀ i ≤ before.length, ready'.take i = ready.take i := by
    intro i
    induction i with
    | zero => exact fun _ => rfl
    | succ i ih =>
      intro inside
      have same := ih (by omega)
      have at_i : before[i]? = some before[i] := List.getElem?_eq_getElem inside
      have at_i' : (before ++ later)[i]? = some before[i] := by
        rw [List.getElem?_append_left inside, at_i]
      obtain ⟨x, state, follows, applied, stands⟩ := h.at_position i _ at_i
      obtain ⟨x', state', follows', applied', stands'⟩ := h'.at_position i _ at_i'
      obtain rfl : x = x' := Option.some.inj (follows.found.symm.trans follows'.found)
      rw [same, applied] at applied'
      obtain rfl : state = state' := Except.ok.inj applied'
      rw [List.take_add_one, List.take_add_one, same, stands, stands']
  have all := upTo before.length (Nat.le_refl _)
  rwa [← h.length_eq, List.take_length, h.length_eq] at all

/-- What follows what was brought up. -/
theorem follows {ready' : List (Text × σ)} (h : Brings table serviceId before ready)
    (h' : Brings table serviceId (before ++ c :: after) ready') :
    ∃ x state, MayFollow table (ready.map (·.1)) c x ∧
      (x.apply c { serviceId, ready }).state = .ok state := by
  have at_c : (before ++ c :: after)[before.length]? = some c := by simp
  obtain ⟨x, state, follows, applied, -⟩ := h'.at_position _ c at_c
  rw [List.take_left, ← h.names_eq] at follows
  rw [h.take_eq h'] at applied
  exact ⟨x, state, follows, applied⟩

end Brings

theorem calls_concat (length_eq : ready.length = before.length) (state : σ) :
    calls serviceId (before ++ [c]) (ready ++ [(c.name, state)])
      = calls serviceId before ready ++ [(c, ({ serviceId, ready } : BootstrapContext σ))] := by
  unfold calls
  rw [List.mapIdx_concat, ← length_eq, List.take_left]
  congr 1
  refine List.mapIdx_eq_mapIdx_iff.mpr fun i inside => ?_
  rw [List.take_append_of_le_length (by omega)]

/-! ### The loop -/

/-- Applying extensions, with a trace of the calls. -/
def recording : Applier κ σ (List (ExtensionConfig κ × BootstrapContext σ)) :=
  fun x c context trace => (x.apply c context, trace ++ [(c, context)])

/-- The three ways in which a bootstrap ends, each with the calls that were made. -/
inductive Comes (table : ExtensionTable κ σ) (serviceId : Text) (configs : List (ExtensionConfig κ)) :
    Bootstrap σ × List (ExtensionConfig κ × BootstrapContext σ) → Prop
  | succeeded (b : Bootstrap σ) (brings : Brings table serviceId configs b.ready)
      (succeeded : b.failure = none) :
    Comes table serviceId configs (b, calls serviceId configs b.ready)
  | refused (b : Bootstrap σ) (before : List (ExtensionConfig κ)) (c : ExtensionConfig κ)
      (after : List (ExtensionConfig κ)) (split : configs = before ++ c :: after)
      (brings : Brings table serviceId before b.ready) (e : InitError)
      (refused : IsRefused table (before.map (·.name)) c e) (failed : b.failure = some e) :
    Comes table serviceId configs (b, calls serviceId before b.ready)
  | failed (b : Bootstrap σ) (before : List (ExtensionConfig κ)) (c : ExtensionConfig κ)
      (after : List (ExtensionConfig κ)) (split : configs = before ++ c :: after)
      (brings : Brings table serviceId before b.ready) (x : Extension κ σ)
      (follows : MayFollow table (before.map (·.name)) c x) (e : InitError)
      (fails : Fails x c { serviceId, ready := b.ready } e) (failed : b.failure = some e) :
    Comes table serviceId configs
      (b, calls serviceId before b.ready ++ [(c, { serviceId, ready := b.ready })])

/-- What is logged does not matter for the way in which a bootstrap ends. -/
theorem Comes.withLog {b : Bootstrap σ} {trace : List (ExtensionConfig κ × BootstrapContext σ)}
    (h : Comes table serviceId configs (b, trace)) (log : List LogEvent) :
    Comes table serviceId configs ({ b with log }, trace) := by
  cases h with
  | succeeded _ brings succeeded => exact .succeeded { b with log } brings succeeded
  | refused _ before c after split brings e refused failed =>
    exact .refused { b with log } before c after split brings e refused failed
  | failed _ before c after split brings x follows e fails failed =>
    exact .failed { b with log } before c after split brings x follows e fails failed

/-- The loop, after configurations that brought up what is ready and were applied. -/
theorem comes_runIn (brings : Brings table serviceId before ready) (after : List (ExtensionConfig κ)) :
    Comes table serviceId (before ++ after)
      (runIn recording table serviceId ready (calls serviceId before ready) after) := by
  induction after generalizing before ready with
  | nil =>
    rw [List.append_nil]
    exact .succeeded { ready, log := [], failure := none } brings rfl
  | cons c after ih =>
    rw [runIn]
    rcases extensionFor_cases table ready c with ⟨x, follows, chosen⟩ | ⟨e, refused, chosen⟩
    · rw [chosen]
      dsimp only [recording]
      cases applied : (x.apply c { serviceId, ready }).state with
      | error f =>
        dsimp only
        refine .failed _ before c after rfl brings x ?_ _ (fails_initError applied) rfl
        exact brings.names_eq ▸ follows
      | ok state =>
        -- One more is ready, and the invariant holds of it.
        have further := ih (brings.concat follows applied)
        rw [calls_concat brings.length_eq, List.append_assoc] at further
        exact further.withLog _
    · rw [chosen]
      exact .refused _ before c after rfl brings e (brings.names_eq ▸ refused) rfl

theorem comes_bootstrapIn (table : ExtensionTable κ σ) (serviceId : Text)
    (configs : List (ExtensionConfig κ)) :
    Comes table serviceId configs (bootstrapIn recording table serviceId configs []) :=
  comes_runIn Brings.nil configs

/-! ### What a bootstrap comes to -/

theorem MayFollow.not_isRefused {names : List Text} {x : Extension κ σ} {e : InitError}
    (h : MayFollow table names c x) : ¬ IsRefused table names c e := by
  intro refused
  cases refused with
  | unknown absent => cases absent.symm.trans h.found
  | repeated _ _ earlier => exact h.new earlier
  | unmet x' found _ met r others split _ missing =>
    obtain rfl : x = x' := Option.some.inj (h.found.symm.trans found)
    have required : r ∈ x.requires := by simp [split]
    exact missing (h.required r required)

theorem Fails.not_ok {x : Extension κ σ} {context : BootstrapContext σ} {e : InitError} {state : σ}
    (h : Fails x c context e) : (x.apply c context).state ≠ .ok state := by
  intro applied
  cases h with
  | own _ failed => cases failed.symm.trans applied
  | wrapped _ failed => cases failed.symm.trans applied

/-- Configurations that bring up states are not stopped. -/
theorem Comes.failure_eq_none {b : Bootstrap σ} {ready' : List (Text × σ)}
    {trace : List (ExtensionConfig κ × BootstrapContext σ)}
    (h : Comes table serviceId configs (b, trace)) (brings : Brings table serviceId configs ready') :
    b.failure = none := by
  cases h with
  | succeeded _ _ succeeded => exact succeeded
  | refused _ before c after split earlier e refused failed =>
    subst split
    obtain ⟨x, state, follows, -⟩ := earlier.follows brings
    rw [earlier.names_eq] at follows
    exact absurd refused follows.not_isRefused
  | failed _ before c after split earlier x follows e fails failed =>
    subst split
    obtain ⟨x', state, follows', applied⟩ := earlier.follows brings
    obtain rfl : x = x' := Option.some.inj (follows.found.symm.trans follows'.found)
    exact absurd applied fails.not_ok

/-- What comes of a bootstrap is the same in every world in which extensions come to what they do. -/
theorem runIn_of_applies {ω : Type} {apply : Applier κ σ ω}
    (applies : ∀ x c context world, (apply x c context world).1 = x.apply c context)
    (ready : List (Text × σ)) (world : ω) (configs : List (ExtensionConfig κ)) :
    (runIn apply table serviceId ready world configs).1
      = (runIn Applier.pure table serviceId ready () configs).1 := by
  induction configs generalizing ready world with
  | nil => rfl
  | cons c cs ih =>
    rw [runIn, runIn]
    cases extensionFor table ready c with
    | error e => rfl
    | ok x =>
      dsimp only [Applier.pure]
      rw [applies]
      cases (x.apply c { serviceId, ready }).state with
      | error f => rfl
      | ok state =>
        dsimp only
        rw [ih]

/-- **What a bootstrap comes to**: it succeeds just when the configurations bring up states, and these are
then what is ready, under their names in the order given.  Otherwise it ends at one position with the
error for it, which is why the configuration there is refused or how its extension failed, and what the
configurations before brought up is ready.  The calls that are made are those of the positions before
the end, in order, and that of an extension that failed itself. -/
theorem bootstrap_exact (table : ExtensionTable κ σ) (serviceId : Text)
    (configs : List (ExtensionConfig κ)) :
    let b := bootstrap table serviceId configs
    let (traced, trace) := bootstrapIn recording table serviceId configs []
    traced = b ∧
    (b.failure = none ↔ ∃ ready, Brings table serviceId configs ready) ∧
    (b.failure = none → Brings table serviceId configs b.ready ∧ b.names = configs.map (·.name) ∧
      trace = calls serviceId configs b.ready) ∧
    ∀ e, b.failure = some e → ∃ before c after, configs = before ++ c :: after ∧
      Brings table serviceId before b.ready ∧
      (IsRefused table (before.map (·.name)) c e ∧ trace = calls serviceId before b.ready ∨
        ∃ x, MayFollow table (before.map (·.name)) c x ∧
          Fails x c { serviceId, ready := b.ready } e ∧
          trace = calls serviceId before b.ready ++ [(c, { serviceId, ready := b.ready })]) := by
  intro b
  have recorded : (bootstrapIn recording table serviceId configs []).1 = b :=
    runIn_of_applies (fun _ _ _ _ => rfl) [] [] configs
  have comes := comes_bootstrapIn table serviceId configs
  generalize bootstrapIn recording table serviceId configs [] = result at recorded comes
  obtain ⟨traced, trace⟩ := result
  obtain rfl : traced = b := recorded
  refine ⟨rfl, ⟨fun none => ?_, fun ⟨ready, brings⟩ => comes.failure_eq_none brings⟩, fun none => ?_,
    fun e ended => ?_⟩
  · cases comes with
    | succeeded _ brings => exact ⟨_, brings⟩
    | refused _ _ _ _ _ _ _ _ failed => cases none.symm.trans failed
    | failed _ _ _ _ _ _ _ _ _ _ failed => cases none.symm.trans failed
  · cases comes with
    | succeeded _ brings => exact ⟨brings, brings.names_eq, rfl⟩
    | refused _ _ _ _ _ _ _ _ failed => cases none.symm.trans failed
    | failed _ _ _ _ _ _ _ _ _ _ failed => cases none.symm.trans failed
  · cases comes with
    | succeeded _ _ succeeded => cases succeeded.symm.trans ended
    | refused _ before c after split brings e' refused failed =>
      obtain rfl : e' = e := Option.some.inj (failed.symm.trans ended)
      exact ⟨before, c, after, split, brings, Or.inl ⟨refused, rfl⟩⟩
    | failed _ before c after split brings x follows e' fails failed =>
      obtain rfl : e' = e := Option.some.inj (failed.symm.trans ended)
      exact ⟨before, c, after, split, brings, Or.inr ⟨x, follows, fails, rfl⟩⟩

/-- Configurations are not put in order: what is required must come first. -/
example :
    let ready : Extension Unit Text := { apply := fun c _ => { state := .ok c.name } }
    let table : ExtensionTable Unit Text := [("first", ready), ("second", { ready with requires := ["first"] })]
    let config (name : Text) : ExtensionConfig Unit := { name, className := "", settings := () }
    (bootstrap table "s" [config "first", config "second"]).names = ["first", "second"] ∧
    (bootstrap table "s" [config "second", config "first"]).failure
      = some { kind := .dependencyMissing, extension := "second",
               detail := "requires " ++ Text.quoted "first" ++ " to be applied first" } := by
  decide +kernel

end GuardedTools.Bootstrap
