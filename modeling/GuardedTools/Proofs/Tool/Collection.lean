import GuardedTools.Proofs.Tool.Loading

/-!
# What is collected of a module

Run on tokens, each of which is the place of a definition and nothing else, modules show where what a name
is bound to was defined (`Modules.origins`).  The declarations of a module are those of its own tools, one
for each name that is bound to one, in the order of the names (`Modules.collected`): a tool with two names
is collected twice, and one whose name was bound before takes the place of the tool it replaces.
-/

namespace GuardedTools

namespace Modules

variable {f : Candidate → Candidate} {P : Candidate → Prop} {sources : List (Text × List ModuleStep)}
  {bound bound' : Bindings} {steps : List ModuleStep} {name : Text} {c : Candidate}

/-! ### Where candidates are defined -/

/-- The place of a definition: a module, and a step of it. -/
structure Place where
  module : Text
  step : Nat
deriving DecidableEq

/-- A candidate that is the place of a definition and nothing else. -/
def token (p : Place) : Candidate := .value (.tuple [.text p.module, .int p.step])

/-- The place that a token is. -/
def place? : Candidate → Option Place
  | .value (.tuple [.text module, .int (.ofNat step)]) => some ⟨module, step⟩
  | _ => none

/-- The candidate that a step defines. -/
def made? : ModuleStep → Option Candidate
  | .define _ (.ok c) => some c
  | _ => none

/-- A step that defines a token instead of a candidate. -/
def tokenStep (p : Place) (step : ModuleStep) : ModuleStep :=
  if (made? step).isSome then .define step.name? (.ok (token p)) else step

/-- The steps of a module with tokens, numbered from some number on. -/
def tokenSteps (module : Text) : Nat → List ModuleStep → List ModuleStep
  | _, [] => []
  | k, step :: steps => tokenStep ⟨module, k⟩ step :: tokenSteps module (k + 1) steps

/-- Modules whose definitions are tokens. -/
def tokenSources (sources : List (Text × List ModuleStep)) : List (Text × List ModuleStep) :=
  sources.map fun s => (s.1, tokenSteps s.1 0 s.2)

/-- The candidate that is defined at a place. -/
def definedAt? (sources : List (Text × List ModuleStep)) (p : Place) : Option Candidate :=
  ((lookup? p.module sources).bind (·[p.step]?)).bind made?

/-- The candidate that a token stands for. -/
def resolve (sources : List (Text × List ModuleStep)) (c : Candidate) : Candidate :=
  ((place? c).bind (definedAt? sources)).getD c

theorem place?_token (p : Place) : place? (token p) = some p := rfl

theorem resolve_token {p : Place} (defined : definedAt? sources p = some c) : resolve sources (token p) = c := by
  rw [resolve, place?_token, Option.bind_some, defined]
  rfl

theorem map_tokenStep {p : Place} {step : ModuleStep} (same : ∀ c, made? step = some c → f (token p) = c) :
    (tokenStep p step).map f = step := by
  cases step with
  | define name made =>
    cases made with
    | error failure => rfl
    | ok c => exact congrArg (fun c => ModuleStep.define name (.ok c)) (same c rfl)
  | importFrom name source item => rfl

theorem map_tokenSteps {k : Nat}
    (same : ∀ i c, (steps[i]?).bind made? = some c → f (token ⟨name, k + i⟩) = c) :
    (tokenSteps name k steps).map (ModuleStep.map f) = steps := by
  induction steps generalizing k with
  | nil => rfl
  | cons step steps ih =>
    have later : ∀ i c, (steps[i]?).bind made? = some c → f (token ⟨name, k + 1 + i⟩) = c := by
      intro i c defined
      rw [Nat.add_assoc, Nat.add_comm 1 i]
      exact same (i + 1) c defined
    have first : ∀ c, made? step = some c → f (token ⟨name, k⟩) = c := same 0
    rw [tokenSteps, List.map_cons, map_tokenStep first, ih later]

theorem lookup?_of_mem {α : Type} {xs : List (Text × α)} (distinct : (xs.map (·.1)).Nodup) {x : Text × α}
    (member : x ∈ xs) : lookup? x.1 xs = some x.2 := by
  induction xs with
  | nil => cases member
  | cons y xs ih =>
    rw [List.map_cons, List.nodup_cons] at distinct
    rw [lookup?]
    rcases List.mem_cons.mp member with rfl | later
    · exact if_pos rfl
    · have other : y.1 ≠ x.1 := fun same => distinct.1 (same ▸ List.mem_map_of_mem later)
      rw [if_neg other, ih distinct.2 later]

/-- Modules are those of tokens, with the candidates that these stand for. -/
theorem map_tokenSources (distinct : (sources.map (·.1)).Nodup) :
    (⟨tokenSources sources, []⟩ : Modules).map (resolve sources) = ⟨sources, []⟩ := by
  have each : ∀ s ∈ sources, (s.1, (tokenSteps s.1 0 s.2).map (ModuleStep.map (resolve sources))) = s := by
    intro s member
    refine Prod.ext rfl (map_tokenSteps fun i c defined => resolve_token ?_)
    rw [definedAt?, lookup?_of_mem distinct member, Nat.zero_add]
    exact defined
  have all : (tokenSources sources).map (fun s => (s.1, s.2.map (ModuleStep.map (resolve sources)))) = sources := by
    rw [tokenSources, List.map_map]
    exact (List.map_congr_left each).trans (List.map_id' sources)
  exact congrArg (fun sources => (⟨sources, []⟩ : Modules)) all

/-- A token stands for a definition. -/
def IsToken (sources : List (Text × List ModuleStep)) (c : Candidate) : Prop :=
  ∃ p, c = token p ∧ (definedAt? sources p).isSome = true

theorem exists_of_mem_tokenSteps {k : Nat} {n : Option Text}
    (member : .define n (.ok c) ∈ tokenSteps name k steps) :
    ∃ i, c = token ⟨name, k + i⟩ ∧ ((steps[i]?).bind made?).isSome = true := by
  induction steps generalizing k with
  | nil => cases member
  | cons step steps ih =>
    rcases List.mem_cons.mp member with first | later
    · refine ⟨0, ?_⟩
      rw [tokenStep] at first
      split at first
      next made => exact ⟨by cases first; rfl, made⟩
      next unmade => exact absurd (by rw [← first]; rfl) unmade
    · obtain ⟨i, same, made⟩ := ih later
      exact ⟨i + 1, by rw [same, Nat.add_assoc, Nat.add_comm 1 i], made⟩

theorem allDefined_tokenSources (distinct : (sources.map (·.1)).Nodup) :
    ∀ s ∈ tokenSources sources, AllDefined (IsToken sources) s.2 := by
  intro s member n c defined
  obtain ⟨source, listed, rfl⟩ := List.mem_map.mp member
  obtain ⟨i, same, made⟩ := exists_of_mem_tokenSteps defined
  refine ⟨_, same, ?_⟩
  rw [definedAt?, lookup?_of_mem distinct listed, Nat.zero_add]
  exact made

/-! ### What is collected -/

/-- What the names of a module are bound to, where modules with tokens are loaded: each name with the place
of the definition that it is bound to. -/
def placesOf (bound : Bindings) : List (Text × Place) := bound.filterMap fun b => (place? b.2).map fun p => (b.1, p)

/-- Where what a module binds was defined, each name with the place, after modules were loaded. -/
def origins (sources : List (Text × List ModuleStep)) (names : List Text) (name : Text) : List (Text × Place) :=
  placesOf ((lookup? name (load ⟨tokenSources sources, []⟩ names).1.loaded).getD [])

/-- The step of a definition, if it is one of a module. -/
def Place.stepOf? (name : Text) (p : Place) : Option Nat := if p.module = name then some p.step else none

/-- The steps of a module whose definitions names of it are bound to, in the order of the names. -/
def boundSteps (sources : List (Text × List ModuleStep)) (names : List Text) (name : Text) : List Nat :=
  (origins sources names name).filterMap fun o => o.2.stepOf? name

/-- The declaration of the tool that a step of a module defines. -/
def declaredAt? (sources : List (Text × List ModuleStep)) (name : Text) (step : Nat) : Option Declaration :=
  (definedAt? sources ⟨name, step⟩).bind Candidate.declared?

/-- The steps of a module that define the tools collected of it, in the order of collection. -/
def collectedSteps (sources : List (Text × List ModuleStep)) (names : List Text) (name : Text) : List Nat :=
  (boundSteps sources names name).filter fun k => (declaredAt? sources name k).isSome

/-- The steps of a module that define tools which a name of it is bound to still, in the order of definition. -/
def survivingSteps (sources : List (Text × List ModuleStep)) (names : List Text) (name : Text) : List Nat :=
  (List.range ((lookup? name sources).getD []).length).filter fun k =>
    (declaredAt? sources name k).isSome && (boundSteps sources names name).contains k

/-- Tools that modules define say that they belong to the modules that define them. -/
def Authentic (sources : List (Text × List ModuleStep)) : Prop :=
  ∀ s ∈ sources, ∀ step ∈ s.2, ∀ c ∈ made? step, c.declared?.isSome = true → c.module? = some s.1

instance (sources : List (Text × List ModuleStep)) : Decidable (Authentic sources) :=
  inferInstanceAs (Decidable (∀ s ∈ sources, ∀ step ∈ s.2, ∀ c ∈ made? step, _))

/-- The names that steps bind to what other modules bind. -/
def importedNames (steps : List ModuleStep) : List Text :=
  steps.filterMap fun step => if (made? step).isSome then none else step.name?

theorem Authentic.module? (authentic : Authentic sources) {p : Place} (defined : definedAt? sources p = some c)
    (declares : c.declared?.isSome = true) : c.module? = some p.module := by
  obtain ⟨step, found, makes⟩ := Option.bind_eq_some_iff.mp defined
  obtain ⟨steps, source, listed⟩ := Option.bind_eq_some_iff.mp found
  exact authentic _ (mem_of_lookup? source) step (List.mem_of_getElem? listed) c makes declares

section Traced

variable {names : List Text} {bindings traced : Bindings}

theorem placesOf_cons {b : Text × Candidate} {p : Place} (same : b.2 = token p) :
    placesOf (b :: bound) = (b.1, p) :: placesOf bound := by
  rw [placesOf, List.filterMap_cons, same]
  rfl

theorem namesOf_tokenSteps (k : Nat) (steps : List ModuleStep) : namesOf (tokenSteps name k steps) = namesOf steps := by
  induction steps generalizing k with
  | nil => rfl
  | cons step steps ih =>
    have same : (tokenStep ⟨name, k⟩ step).name? = step.name? := by
      rw [tokenStep]
      split <;> rfl
    rw [tokenSteps, namesOf_cons, namesOf_cons, same, ih]

/-- A module that was loaded was loaded with tokens too, by the same steps. -/
theorem exists_traced {steps : List ModuleStep} (distinct : (sources.map (·.1)).Nodup)
    (source : lookup? name sources = some steps)
    (loaded : lookup? name (load ⟨sources, []⟩ names).1.loaded = some bindings) :
    ∃ traced, origins sources names name = placesOf traced ∧ bindings = mapBindings (resolve sources) traced ∧
      AllBound (IsToken sources) traced ∧ Runs (IsToken sources) [] (tokenSteps name 0 steps) traced := by
  -- the modules are those of the tokens with the candidates put in, and so is what they are loaded as
  rw [← map_tokenSources distinct, load_map, map, lookup?_map, Option.map_eq_some_iff] at loaded
  obtain ⟨traced, found, rfl⟩ := loaded
  have ran : Ran (IsToken sources) (tokenSources sources) (load ⟨tokenSources sources, []⟩ names).1 :=
    load_ran (allDefined_tokenSources distinct) (ran_nil _ _) names
  obtain ⟨steps', source', runs⟩ := ran.loaded _ (mem_of_lookup? found)
  have defined := allDefined_tokenSources distinct _ (mem_of_lookup? source')
  have same : steps' = tokenSteps name 0 steps := by
    have tokens : lookup? name (tokenSources sources) = some (tokenSteps name 0 steps) := by
      have firsts : (tokenSources sources).map (·.1) = sources.map (·.1) := List.map_map ..
      have listed : (name, tokenSteps name 0 steps) ∈ tokenSources sources :=
        List.mem_map_of_mem (f := fun s => (s.1, tokenSteps s.1 0 s.2)) (mem_of_lookup? source)
      exact lookup?_of_mem (firsts ▸ distinct) listed
    exact Option.some.inj (source'.symm.trans tokens)
  subst same
  refine ⟨traced, ?_, rfl, runs.allBound defined (List.forall_mem_nil _), runs⟩
  rw [origins, found, Option.getD_some]

/-- The steps of a module whose definitions bindings of tokens have. -/
def stepsIn (name : Text) (bound : Bindings) : List Nat := (placesOf bound).filterMap fun o => o.2.stepOf? name

/-- A definition is collected of the module that it is in. -/
theorem declared?_of_module? (authentic : Authentic sources) {p : Place} (defined : definedAt? sources p = some c) :
    (if c.module? = some name then c.declared? else none) = (p.stepOf? name).bind (declaredAt? sources name) := by
  rw [Place.stepOf?]
  cases declares : c.declared? with
  | none =>
    rw [ite_self]
    split
    next own =>
      obtain rfl := own
      rw [Option.bind_some, declaredAt?, defined, Option.bind_some, declares]
    next => rfl
  | some d =>
    rw [authentic.module? defined (by rw [declares]; rfl)]
    by_cases own : p.module = name
    · obtain rfl := own
      rw [if_pos rfl, if_pos rfl, Option.bind_some, declaredAt?, defined, Option.bind_some, declares]
    · rw [if_neg (fun same => own (Option.some.inj same)), if_neg own, Option.bind_none]

/-- What is collected of a module are the declarations of its steps that names are bound to. -/
theorem declarationsOf_traced (authentic : Authentic sources) (tokens : AllBound (IsToken sources) traced) :
    declarationsOf name (mapBindings (resolve sources) traced)
      = (stepsIn name traced).filterMap (declaredAt? sources name) := by
  rw [declarationsOf, mapBindings, List.filterMap_map, stepsIn, placesOf, List.filterMap_filterMap, List.filterMap_filterMap]
  refine List.filterMap_congr fun b member => ?_
  obtain ⟨p, same, isDefined⟩ := tokens b member
  obtain ⟨c, defined⟩ := Option.isSome_iff_exists.mp isDefined
  rw [Function.comp_apply, same, resolve_token defined, place?_token]
  exact declared?_of_module? authentic defined

/-- The names of a module are bound to what was defined at the places. -/
theorem resolved_traced (tokens : AllBound (IsToken sources) traced) :
    List.Forall₂ (fun o b => o.1 = b.1 ∧ definedAt? sources o.2 = some b.2) (placesOf traced)
      (mapBindings (resolve sources) traced) := by
  induction traced with
  | nil => exact .nil
  | cons b traced ih =>
    obtain ⟨first, rest⟩ := List.forall_mem_cons.mp tokens
    obtain ⟨p, same, isDefined⟩ := first
    obtain ⟨c, defined⟩ := Option.isSome_iff_exists.mp isDefined
    have bound : resolve sources b.2 = c := by rw [same, resolve_token defined]
    rw [placesOf_cons same]
    exact .cons ⟨rfl, defined.trans (congrArg some bound.symm)⟩ (ih rest)

theorem stepsIn_append_token (n : Text) (p : Place) :
    stepsIn name (bound ++ [(n, token p)]) = stepsIn name bound ++ (p.stepOf? name).toList := by
  have last : placesOf (bound ++ [(n, token p)]) = placesOf bound ++ [(n, p)] := List.filterMap_append ..
  rw [stepsIn, last, List.filterMap_append, ← stepsIn, List.filterMap_cons]
  cases p.stepOf? name <;> rfl

/-- The steps of a module that are bound are ascending, and were run before some step. -/
structure Ascends (name : Text) (k : Nat) (bound : Bindings) : Prop where
  ascending : (stepsIn name bound).Pairwise (· < ·)
  before : ∀ i ∈ stepsIn name bound, i < k

theorem Ascends.later {k : Nat} (ascends : Ascends name k bound) : Ascends name (k + 1) bound :=
  ⟨ascends.ascending, fun i member => Nat.lt_succ_of_lt (ascends.before i member)⟩

/-- A step of the module that binds a new name to its definition comes last. -/
theorem Ascends.own {k : Nat} (ascends : Ascends name k bound) (n : Text) :
    Ascends name (k + 1) (bound ++ [(n, token ⟨name, k⟩)]) := by
  have last : stepsIn name (bound ++ [(n, token ⟨name, k⟩)]) = stepsIn name bound ++ [k] := by
    rw [stepsIn_append_token, Place.stepOf?, if_pos rfl, Option.toList_some]
  constructor
  · rw [last]
    exact List.pairwise_append.mpr ⟨ascends.ascending, List.pairwise_singleton _ _,
      fun i member j single => List.mem_singleton.mp single ▸ ascends.before i member⟩
  · rw [last]
    exact List.forall_mem_append.mpr ⟨ascends.later.before, List.forall_mem_singleton.mpr (Nat.lt_succ_self k)⟩

/-- A definition of another module does not count. -/
theorem Ascends.foreign {k : Nat} (ascends : Ascends name k bound) (n : Text) {p : Place}
    (elsewhere : p.module ≠ name) : Ascends name (k + 1) (bound ++ [(n, token p)]) := by
  have same : stepsIn name (bound ++ [(n, token p)]) = stepsIn name bound := by
    rw [stepsIn_append_token, Place.stepOf?, if_neg elsewhere, Option.toList_none, List.append_nil]
  constructor
  · rw [same]
    exact ascends.ascending
  · rw [same]
    exact ascends.later.before

/-- A name that a step binds and that is bound nowhere else is bound last. -/
theorem bind_eq_append {n : Text} (distinct : (bound.map (·.1) ++ n :: namesOf steps).Nodup) (c : Candidate) :
    bind n c bound = bound ++ [(n, c)] ∧ n ∉ namesOf steps ∧ ((bind n c bound).map (·.1) ++ namesOf steps).Nodup := by
  obtain ⟨fresh, -⟩ := List.nodup_cons.mp (List.nodup_middle.mp distinct)
  rw [List.mem_append, not_or] at fresh
  refine ⟨bind_of_not_mem fresh.1, fresh.2, ?_⟩
  rwa [names_bind_of_not_mem fresh.1, List.append_assoc, List.singleton_append]

/-- The steps of a module that are bound are ascending where no name is bound again, and none by import to a
definition of the module itself. -/
theorem Runs.ascends {k : Nat} (runs : Runs (IsToken sources) bound (tokenSteps name k steps) bound')
    (distinct : (bound.map (·.1) ++ namesOf steps).Nodup)
    (foreign : ∀ n p, n ∈ importedNames steps → (n, token p) ∈ bound' → p.module ≠ name)
    (ascends : Ascends name k bound) : (stepsIn name bound').Pairwise (· < ·) := by
  induction steps generalizing k bound with
  | nil =>
    cases runs
    exact ascends.ascending
  | cons step steps ih =>
    have later : ∀ n p, n ∈ importedNames steps → (n, token p) ∈ bound' → p.module ≠ name :=
      fun n p member => foreign n p (List.mem_filterMap.mpr
        (Exists.imp (fun _ => .imp_left (List.mem_cons_of_mem _)) (List.mem_filterMap.mp member)))
    rw [namesOf_cons] at distinct
    cases step with
    | define n made =>
      cases made with
      | error failure => cases runs
      | ok c =>
        cases runs with
        | define runs =>
          cases n with
          | none => exact ih runs distinct later ascends.later
          | some n =>
            obtain ⟨added, -, distinct'⟩ := bind_eq_append distinct (token ⟨name, k⟩)
            have runs' : Runs (IsToken sources) (bind n (token ⟨name, k⟩) bound) (tokenSteps name (k + 1) steps) bound' :=
              runs
            exact ih runs' distinct' later (added ▸ ascends.own n)
    | importFrom n source item =>
      cases runs with
      | importFrom isToken runs =>
        cases n with
        | none => exact ih runs distinct later ascends.later
        | some n =>
          obtain ⟨p, rfl, -⟩ := isToken
          obtain ⟨added, last, distinct'⟩ := bind_eq_append distinct (token p)
          -- what is imported is still bound in the end, where it is none of the module's own
          have stays : (n, token p) ∈ bound' := by
            refine runs.mem ((namesOf_tokenSteps (k + 1) steps).symm ▸ last) ?_
            rw [bindStep, added]
            exact List.mem_append_right _ List.mem_cons_self
          have ascends' : Ascends name (k + 1) (bind n (token p) bound) :=
            added ▸ ascends.foreign n (foreign n p List.mem_cons_self stays)
          exact ih runs distinct' later ascends'

/-- The tools collected of a module are those that names are bound to still in the order of their definitions
just if their definitions come one after the other. -/
theorem collectedSteps_eq_iff : collectedSteps sources names name = survivingSteps sources names name ↔
    (collectedSteps sources names name).Pairwise (· < ·) := by
  have ordered : (survivingSteps sources names name).Pairwise (· < ·) := List.pairwise_lt_range.filter _
  refine ⟨fun same => same ▸ ordered, fun ascending => ?_⟩
  -- both lists have the same members, and a list that ascends is known by its members
  have nodup {ks : List Nat} (ascending : ks.Pairwise (· < ·)) : ks.Nodup := ascending.imp Nat.ne_of_lt
  refine List.Perm.eq_of_pairwise (fun a b _ _ before after => absurd after (Nat.lt_asymm before)) ascending ordered
    ((List.perm_ext_iff_of_nodup (nodup ascending) (nodup ordered)).mpr fun k => ?_)
  have isStep (declared : (declaredAt? sources name k).isSome = true) :
      k < ((lookup? name sources).getD []).length := by
    obtain ⟨d, declared⟩ := Option.isSome_iff_exists.mp declared
    obtain ⟨c, defined, -⟩ := Option.bind_eq_some_iff.mp declared
    obtain ⟨step, found, -⟩ := Option.bind_eq_some_iff.mp defined
    obtain ⟨steps, source, listed⟩ := Option.bind_eq_some_iff.mp found
    rw [source]
    exact (List.getElem?_eq_some_iff.mp listed).1
  rw [collectedSteps, survivingSteps, List.mem_filter, List.mem_filter, List.mem_range, Bool.and_eq_true,
    List.contains_iff_mem]
  exact ⟨fun ⟨isBound, declared⟩ => ⟨isStep declared, declared, isBound⟩,
    fun ⟨_, declared, isBound⟩ => ⟨isBound, declared⟩⟩

end Traced

/-- **What is collected of modules**, whatever they define, bind again and import from one another: where they
are loaded the declarations are, module by module, those of the collected steps.  Of every module that is
loaded, also by a load that fails, each name is bound to what was defined at its origin, the names stand in
the order in which they were bound first, and the declarations are those of its own tools that names are
bound to, one for each such name.  They are those that are bound still in the order of their definitions
just if these are ascending, as they are where no name is bound again and none is imported that comes back
to the module. -/
theorem collected (distinct : (sources.map (·.1)).Nodup) (authentic : Authentic sources) (names : List Text) :
    (∀ declarations, (load ⟨sources, []⟩ names).2 = .ok declarations → declarations =
      names.flatMap fun name => (collectedSteps sources names name).filterMap (declaredAt? sources name)) ∧
    ∀ name steps bindings, lookup? name sources = some steps →
      lookup? name (load ⟨sources, []⟩ names).1.loaded = some bindings →
      List.Forall₂ (fun o b => o.1 = b.1 ∧ definedAt? sources o.2 = some b.2) (origins sources names name) bindings ∧
      bindings.map (·.1) = (namesOf steps).eraseDups ∧
      declarationsOf name bindings = (collectedSteps sources names name).filterMap (declaredAt? sources name) ∧
      (collectedSteps sources names name = survivingSteps sources names name ↔
        (collectedSteps sources names name).Pairwise (· < ·)) ∧
      ((namesOf steps).Nodup →
        (∀ o ∈ origins sources names name, o.1 ∈ importedNames steps → o.2.module ≠ name) →
        collectedSteps sources names name = survivingSteps sources names name) := by
  -- one module, wherever it is loaded; a load gathers the modules one after the other
  have each : ∀ name steps bindings, lookup? name sources = some steps →
      lookup? name (load ⟨sources, []⟩ names).1.loaded = some bindings →
      declarationsOf name bindings = (collectedSteps sources names name).filterMap (declaredAt? sources name) := by
    intro name steps bindings source loaded
    obtain ⟨traced, origin, rfl, tokens, -⟩ := exists_traced distinct source loaded
    rw [declarationsOf_traced authentic tokens, collectedSteps, List.filterMap_filter, boundSteps, origin, ← stepsIn]
    refine List.filterMap_congr fun k _ => ?_
    cases declaredAt? sources name k <;> rfl
  refine ⟨fun declarations loads => ?_, fun name steps bindings source loaded => ?_⟩
  · obtain ⟨found, same⟩ := load_eq_ok loads
    rw [same]
    refine List.flatMap_congr fun name member => ?_
    obtain ⟨bindings, loaded⟩ := found name member
    have ran : Ran (fun _ => True) sources (load ⟨sources, []⟩ names).1 :=
      load_ran (fun _ _ _ _ _ => trivial) (ran_nil _ sources) names
    obtain ⟨steps, source, -⟩ := ran.loaded _ (mem_of_lookup? loaded)
    rw [loaded, Option.getD_some]
    exact each name steps bindings source loaded
  · refine ⟨?_, ?_, each name steps bindings source loaded, collectedSteps_eq_iff, fun nodup foreign => ?_⟩
    · obtain ⟨traced, origin, rfl, tokens, -⟩ := exists_traced distinct source loaded
      rw [origin]
      exact resolved_traced tokens
    · obtain ⟨traced, -, rfl, -, runs⟩ := exists_traced distinct source loaded
      have firsts : (mapBindings (resolve sources) traced).map (·.1) = traced.map (·.1) := List.map_map ..
      rw [firsts, runs.names List.nodup_nil, namesOf_tokenSteps, List.map_nil, List.nil_append]
    · obtain ⟨traced, origin, rfl, -, runs⟩ := exists_traced distinct source loaded
      have ascending : (stepsIn name traced).Pairwise (· < ·) := by
        refine runs.ascends (by rwa [List.map_nil, List.nil_append]) (fun n p imported member => ?_)
          ⟨.nil, List.forall_mem_nil _⟩
        exact foreign (n, p) (origin ▸ List.mem_filterMap.mpr ⟨_, member, rfl⟩) imported
      refine collectedSteps_eq_iff.mpr (List.Pairwise.filter _ ?_)
      rwa [boundSteps, origin]

/-- A step that defines a tool of a module and binds a name to it. -/
def toolStep (bound module name : Text) : ModuleStep :=
  .define (some bound) (.ok (.function
    { name, qualifiedName := name, module := some module, parameters := [], result := some (.atom .str)
      body := fun _ => .returned (.text name) }
    none (some { description := .text name, name := none })))

/-- A module that binds two tools of its own, and one of another module between them. -/
def reexporting : List (Text × List ModuleStep) :=
  [("m1", [toolStep "one" "m1" "one", .importFrom (some "two") "m2" "two", toolStep "three" "m1" "three"]),
    ("m2", [toolStep "two" "m2" "two"])]

theorem collected_reexporting :
    (reexporting.map (·.1)).Nodup ∧ Authentic reexporting ∧
    (∃ declarations, (load ⟨reexporting, []⟩ ["m1"]).2 = .ok declarations ∧
      declarations = [0, 2].filterMap (declaredAt? reexporting "m1")) ∧
    ∃ steps bindings, lookup? "m1" reexporting = some steps ∧
      lookup? "m1" (load ⟨reexporting, []⟩ ["m1"]).1.loaded = some bindings ∧
      bindings.map (·.1) = ["one", "two", "three"] ∧
      collectedSteps reexporting ["m1"] "m1" = survivingSteps reexporting ["m1"] "m1" := by
  have distinct : (reexporting.map (·.1)).Nodup := by decide
  have authentic : Authentic reexporting := by decide
  obtain ⟨gathered, each⟩ := collected distinct authentic ["m1"]
  refine ⟨distinct, authentic, ?_, ?_⟩
  · obtain ⟨declarations, loads, -⟩ :
        ∃ declarations, (load ⟨reexporting, []⟩ ["m1"]).2 = .ok declarations ∧ (declarations.length == 2) = true :=
      ok_of_any (by decide)
    have steps : collectedSteps reexporting ["m1"] "m1" = [0, 2] := by decide
    refine ⟨declarations, loads, ?_⟩
    rw [gathered declarations loads, List.flatMap_cons, steps, List.flatMap_nil, List.append_nil]
  · obtain ⟨steps, source⟩ : ∃ steps, lookup? "m1" reexporting = some steps := ⟨_, rfl⟩
    obtain ⟨bindings, loaded⟩ : ∃ bindings, lookup? "m1" (load ⟨reexporting, []⟩ ["m1"]).1.loaded = some bindings :=
      Option.isSome_iff_exists.mp (by decide)
    have names : namesOf steps = ["one", "two", "three"] := by
      obtain rfl := Option.some.inj source
      decide
    have imported : importedNames steps = ["two"] := by
      obtain rfl := Option.some.inj source
      decide
    obtain ⟨-, bound, -, -, ascending⟩ := each "m1" steps bindings source loaded
    refine ⟨steps, bindings, source, loaded, ?_, ascending (by rw [names]; decide) (by rw [imported]; decide)⟩
    rw [bound, names]
    decide

/-- A module that binds a name to a tool again, after it has bound another. -/
def replacing : List (Text × List ModuleStep) :=
  [("m1", [toolStep "a" "m1" "one", toolStep "b" "m1" "two", toolStep "a" "m1" "three"])]

/-- A module that binds a second name to a tool of its own. -/
def aliasing : List (Text × List ModuleStep) :=
  [("m1", [toolStep "echo" "m1" "echo", .importFrom (some "again") "m1" "echo"])]

/-- A tool that takes the place of another is collected where that one was bound, and a tool with two names
twice. -/
theorem collected_misplaced :
    let collectedNames (sources : List (Text × List ModuleStep)) : Option (List (Option Text)) :=
      (load ⟨sources, []⟩ ["m1"]).2.toOption.map fun declarations => declarations.map (·.candidate.name?)
    let survivingNames (sources : List (Text × List ModuleStep)) : List (Option Text) :=
      ((survivingSteps sources ["m1"] "m1").filterMap (declaredAt? sources "m1")).map (·.candidate.name?)
    let shown (names : List Text) : List (Option Text) := names.map some
    collectedNames replacing = some (shown ["m1.three", "m1.two"]) ∧
    survivingNames replacing = shown ["m1.two", "m1.three"] ∧
    collectedNames aliasing = some (shown ["m1.echo", "m1.echo"]) ∧
    survivingNames aliasing = shown ["m1.echo"] := by decide

end Modules

end GuardedTools
