import GuardedTools.Proofs.Basic
import GuardedTools.Tool.Module

/-!
# Loading modules

Modules are run on candidates that nothing is asked of: with other candidates the same modules are loaded,
and bind the same names (`Modules.load_map`).  What a loaded module binds comes from running its steps
(`Modules.load_ran`), and it stays (`Modules.load_eq_ok`).  Its names stand in the order in which they were
bound first (`Modules.Runs.names`).
-/

namespace GuardedTools

/-- What a step binds a name to is made into another candidate. -/
def ModuleStep.map (f : Candidate → Candidate) : ModuleStep → ModuleStep
  | define name made => define name (made.map f)
  | importFrom name source item => importFrom name source item

/-- The name that a step binds. -/
def ModuleStep.name? : ModuleStep → Option Text
  | define name _ => name
  | importFrom name _ _ => name

namespace Modules

variable {f : Candidate → Candidate}

/-! ### Other candidates -/

def mapBindings (f : Candidate → Candidate) (bound : Bindings) : Bindings := bound.map fun b => (b.1, f b.2)

/-- Modules of other candidates. -/
def map (f : Candidate → Candidate) (ms : Modules) : Modules :=
  { sources := ms.sources.map fun s => (s.1, s.2.map (ModuleStep.map f))
    loaded := ms.loaded.map fun l => (l.1, mapBindings f l.2) }

/-- What importing comes to with other candidates. -/
def mapResult (f : Candidate → Candidate) (result : Modules × Except ImportError Bindings) :
    Modules × Except ImportError Bindings :=
  (result.1.map f, result.2.map (mapBindings f))

theorem lookup?_map {α β : Type} (g : α → β) (name : Text) (xs : List (Text × α)) :
    lookup? name (xs.map fun x => (x.1, g x.2)) = (lookup? name xs).map g := by
  induction xs with
  | nil => rfl
  | cons x xs ih =>
    rw [List.map_cons, lookup?, lookup?, ih]
    split <;> rfl

theorem bind_map (name : Text) (c : Candidate) (bound : Bindings) :
    bind name (f c) (mapBindings f bound) = mapBindings f (bind name c bound) := by
  induction bound with
  | nil => rfl
  | cons b bound ih =>
    rw [mapBindings, List.map_cons, bind, bind]
    split
    · rfl
    · exact congrArg ((b.1, f b.2) :: ·) ih

theorem bindStep_map (name : Option Text) (c : Candidate) (bound : Bindings) :
    bindStep name (f c) (mapBindings f bound) = mapBindings f (bindStep name c bound) := by
  cases name with
  | none => rfl
  | some name => exact bind_map name c bound

theorem has_map (ms : Modules) (name : Text) : (ms.map f).has name = ms.has name := by
  unfold has map
  rw [lookup?_map, lookup?_map, Option.isSome_map, Option.isSome_map]

theorem isPackage_map (ms : Modules) (name : Text) : (ms.map f).isPackage name = ms.isPackage name := by
  simp only [isPackage, map, List.any_map, Function.comp_def]

theorem missing_map (ms : Modules) (name : Text) : (ms.map f).missing name = ms.missing name := by
  simp only [missing, has_map, isPackage_map]

/-- How modules are imported while others run does not depend on the candidates. -/
def IsNatural (f : Candidate → Candidate)
    (importer : List (Text × Bindings) → Modules → Text → Modules × Except ImportError Bindings) : Prop :=
  ∀ running ms name, importer (running.map fun l => (l.1, mapBindings f l.2)) (ms.map f) name
    = mapResult f (importer running ms name)

variable {importer : List (Text × Bindings) → Modules → Text → Modules × Except ImportError Bindings}

theorem run_map (natural : IsNatural f importer) (running : List (Text × Bindings)) (name : Text) (bound : Bindings)
    (ms : Modules) (steps : List ModuleStep) :
    run importer (running.map fun l => (l.1, mapBindings f l.2)) name (mapBindings f bound) (ms.map f)
        (steps.map (ModuleStep.map f))
      = mapResult f (run importer running name bound ms steps) := by
  induction steps generalizing bound ms with
  | nil => rfl
  | cons step steps ih =>
    rw [List.map_cons]
    cases step with
    | define n made =>
      cases made with
      | error failure => rfl
      | ok c =>
        show run importer _ name (bindStep n (f c) (mapBindings f bound)) (ms.map f) _ = _
        rw [bindStep_map, ih]
        rfl
    | importFrom n source item =>
      have imported : importer ((name, mapBindings f bound) :: running.map fun l => (l.1, mapBindings f l.2))
          (ms.map f) source = mapResult f (importer ((name, bound) :: running) ms source) :=
        natural ((name, bound) :: running) ms source
      rw [ModuleStep.map, run, run, imported]
      rcases importer ((name, bound) :: running) ms source with ⟨ms, failure | theirs⟩
      · rfl
      · have led : lookup? item (mapBindings f theirs) = (lookup? item theirs).map f := lookup?_map f item theirs
        dsimp only [mapResult, Except.map]
        rw [led]
        cases lookup? item theirs with
        | none => rfl
        | some c =>
          show run importer _ name (bindStep n (f c) (mapBindings f bound)) (ms.map f) _ = _
          rw [bindStep_map, ih]
          rfl

theorem importAt_map (depth : Nat) : IsNatural f (importAt depth) := by
  induction depth with
  | zero => exact fun _ _ _ => rfl
  | succ depth ih =>
    intro running ms name
    -- whether a module waits or is loaded is a matter of names
    have known : (lookup? name (running.map fun l => (l.1, mapBindings f l.2))).or (lookup? name (ms.map f).loaded)
        = ((lookup? name running).or (lookup? name ms.loaded)).map (mapBindings f) := by
      rw [map, lookup?_map, lookup?_map]
      cases lookup? name running <;> rfl
    have source : lookup? name (ms.map f).sources
        = (lookup? name ms.sources).map (List.map (ModuleStep.map f)) := by
      rw [map, lookup?_map]
    rw [importAt, importAt, known]
    cases (lookup? name running).or (lookup? name ms.loaded) with
    | some bindings => rfl
    | none =>
      dsimp only [Option.map_none]
      split
      · rfl
      split
      · rfl
      rw [source]
      cases lookup? name ms.sources with
      | none => exact congrArg (fun e => (ms.map f, Except.error e)) (missing_map ms name)
      | some steps =>
        have ran : run (importAt depth) (running.map fun l => (l.1, mapBindings f l.2)) name [] (ms.map f)
              (steps.map (ModuleStep.map f)) = mapResult f (run (importAt depth) running name [] ms steps) :=
          run_map ih running name [] ms steps
        dsimp only [Option.map_some]
        rw [ran]
        rcases run (importAt depth) running name [] ms steps with ⟨ms', failure | bindings⟩
        · rfl
        · simp only [mapResult, Except.map, map, List.map_append, List.map_cons, List.map_nil]

theorem importModule_map (ms : Modules) (name : Text) :
    (ms.map f).importModule name = mapResult f (ms.importModule name) := by
  have count : (ms.map f).sources.length = ms.sources.length := List.length_map ..
  rw [importModule, importModule, count]
  exact importAt_map _ [] ms name

/-- **Loading modules of other candidates** loads the same modules with other candidates. -/
theorem load_map (ms : Modules) (names : List Text) : ((ms.map f).load names).1 = (ms.load names).1.map f := by
  induction names generalizing ms with
  | nil => rfl
  | cons name names ih =>
    rw [load, load, importModule_map]
    rcases ms.importModule name with ⟨ms', failure | bindings⟩
    · rfl
    · exact ih ms'

/-- Candidates that declare the same, in the same modules, are loaded as the same declarations. -/
theorem load_map_declarations (module : ∀ c, (f c).module? = c.module?) (declares : ∀ c, (f c).declared? = c.declared?)
    (ms : Modules) (names : List Text) : ((ms.map f).load names).2 = (ms.load names).2 := by
  induction names generalizing ms with
  | nil => rfl
  | cons name names ih =>
    have gathered (bindings : Bindings) :
        declarationsOf name (mapBindings f bindings) = declarationsOf name bindings := by
      rw [declarationsOf, declarationsOf, mapBindings, List.filterMap_map]
      refine List.filterMap_congr fun b _ => ?_
      show (if (f b.2).module? = some name then (f b.2).declared? else none) = _
      rw [module, declares]
    rw [load, load, importModule_map]
    rcases ms.importModule name with ⟨ms', failure | bindings⟩
    · rfl
    · dsimp only [mapResult, Except.map]
      rw [ih, gathered]

/-! ### One import -/

/-- What an import comes to: the module is found, it is refused, or its steps are run, after which it is kept
if they succeed. -/
inductive Imports (depth : Nat) (running : List (Text × Bindings)) (ms : Modules) (name : Text) :
    Modules × Except ImportError Bindings → Prop where
  | found {bindings : Bindings} (known : lookup? name running = some bindings ∨
      lookup? name running = none ∧ lookup? name ms.loaded = some bindings) :
    Imports depth running ms name (ms, .ok bindings)
  | refused (e : ImportError) : Imports depth running ms name (ms, .error e)
  | failed {steps : List ModuleStep} {ms' : Modules} {e : ImportError} (source : lookup? name ms.sources = some steps)
      (ran : run (importAt depth) running name [] ms steps = (ms', .error e)) :
    Imports depth running ms name (ms', .error e)
  | kept {steps : List ModuleStep} {ms' : Modules} {bindings : Bindings} (idle : lookup? name running = none)
      (unknown : lookup? name ms.loaded = none) (source : lookup? name ms.sources = some steps)
      (ran : run (importAt depth) running name [] ms steps = (ms', .ok bindings)) :
    Imports depth running ms name ({ ms' with loaded := ms'.loaded ++ [(name, bindings)] }, .ok bindings)

theorem imports_importAt (depth : Nat) (running : List (Text × Bindings)) (ms : Modules) (name : Text) :
    Imports depth running ms name (importAt (depth + 1) running ms name) := by
  rw [importAt]
  cases known : (lookup? name running).or (lookup? name ms.loaded) with
  | some bindings => exact .found (Option.or_eq_some_iff.mp known)
  | none =>
    obtain ⟨idle, unknown⟩ := Option.or_eq_none_iff.mp known
    dsimp only
    split
    · exact .refused _
    split
    · exact .refused _
    cases source : lookup? name ms.sources with
    | none => exact .refused _
    | some steps =>
      dsimp only
      cases ran : run (importAt depth) running name [] ms steps with
      | mk ms' result =>
        cases result with
        | error e => exact .failed source ran
        | ok bindings => exact .kept idle unknown source ran

/-! ### Runs -/

/-- Steps are run to the end, one after the other: the definitions succeed, and the candidates that are
imported are of some kind. -/
inductive Runs (P : Candidate → Prop) : Bindings → List ModuleStep → Bindings → Prop where
  | done {bound : Bindings} : Runs P bound [] bound
  | define {name : Option Text} {c : Candidate} {bound bound' : Bindings} {steps : List ModuleStep} :
      Runs P (bindStep name c bound) steps bound' → Runs P bound (.define name (.ok c) :: steps) bound'
  | importFrom {name : Option Text} {source item : Text} {c : Candidate} {bound bound' : Bindings}
      {steps : List ModuleStep} : P c → Runs P (bindStep name c bound) steps bound' →
      Runs P bound (.importFrom name source item :: steps) bound'

/-- The candidates that names are bound to are of some kind. -/
def AllBound (P : Candidate → Prop) (bound : Bindings) : Prop := ∀ b ∈ bound, P b.2

/-- The candidates that steps define are of some kind. -/
def AllDefined (P : Candidate → Prop) (steps : List ModuleStep) : Prop :=
  ∀ name c, .define name (.ok c) ∈ steps → P c

/-- Modules of some sources were loaded by running their steps. -/
structure Ran (P : Candidate → Prop) (sources : List (Text × List ModuleStep)) (ms : Modules) : Prop where
  sources_eq : ms.sources = sources
  loaded : ∀ l ∈ ms.loaded, ∃ steps, lookup? l.1 sources = some steps ∧ Runs P [] steps l.2

variable {P : Candidate → Prop} {sources : List (Text × List ModuleStep)} {bound bound' : Bindings}
  {steps : List ModuleStep} {name : Text} {c : Candidate}

theorem mem_of_lookup? {α : Type} {name : Text} {x : α} {xs : List (Text × α)} (found : lookup? name xs = some x) :
    (name, x) ∈ xs := by
  induction xs with
  | nil => cases found
  | cons y xs ih =>
    rw [lookup?] at found
    split at found
    next same => exact same ▸ Option.some.inj found ▸ List.mem_cons_self
    next => exact List.mem_cons_of_mem _ (ih found)

theorem AllBound.bind (all : AllBound P bound) (holds : P c) (name : Text) : AllBound P (bind name c bound) := by
  induction bound with
  | nil => exact List.forall_mem_singleton.mpr holds
  | cons b bound ih =>
    obtain ⟨first, rest⟩ := List.forall_mem_cons.mp all
    rw [Modules.bind]
    split
    · exact List.forall_mem_cons.mpr ⟨holds, rest⟩
    · exact List.forall_mem_cons.mpr ⟨first, ih rest⟩

theorem AllBound.bindStep (all : AllBound P bound) (holds : P c) (name : Option Text) :
    AllBound P (bindStep name c bound) := by
  cases name with
  | none => exact all
  | some name => exact all.bind holds name

theorem Runs.allBound (runs : Runs P bound steps bound') (defined : AllDefined P steps) (all : AllBound P bound) :
    AllBound P bound' := by
  induction runs with
  | done => exact all
  | define _ ih =>
    exact ih (fun name c member => defined name c (List.mem_cons_of_mem _ member))
      (all.bindStep (defined _ _ List.mem_cons_self) _)
  | importFrom holds _ ih =>
    exact ih (fun name c member => defined name c (List.mem_cons_of_mem _ member)) (all.bindStep holds _)

/-- Importing loads modules by running their steps, and finds candidates of some kind. -/
def Keeps (P : Candidate → Prop) (sources : List (Text × List ModuleStep))
    (importer : List (Text × Bindings) → Modules → Text → Modules × Except ImportError Bindings) : Prop :=
  ∀ running ms name, (∀ l ∈ running, AllBound P l.2) → Ran P sources ms →
    Ran P sources (importer running ms name).1 ∧
      ∀ bound, (importer running ms name).2 = .ok bound → AllBound P bound

theorem run_keeps (name : Text) {running : List (Text × Bindings)} {ms : Modules} (keeps : Keeps P sources importer)
    (waiting : ∀ l ∈ running, AllBound P l.2) (ran : Ran P sources ms) (defined : AllDefined P steps)
    (all : AllBound P bound) :
    Ran P sources (run importer running name bound ms steps).1 ∧
      ∀ bound', (run importer running name bound ms steps).2 = .ok bound' → Runs P bound steps bound' := by
  induction steps generalizing bound ms with
  | nil => exact ⟨ran, fun bound' same => Except.ok.inj same ▸ .done⟩
  | cons step steps ih =>
    have later : AllDefined P steps := fun name c member => defined name c (List.mem_cons_of_mem _ member)
    cases step with
    | define n made =>
      cases made with
      | error failure => exact ⟨ran, fun _ failed => by cases failed⟩
      | ok c =>
        obtain ⟨ran, runs⟩ := ih ran later (all.bindStep (defined _ _ List.mem_cons_self) n)
        exact ⟨ran, fun bound' same => .define (runs bound' same)⟩
    | importFrom n source item =>
      -- while another module is imported, this one waits with what it has bound by now
      obtain ⟨ran', found⟩ := keeps ((name, bound) :: running) ms source
        (List.forall_mem_cons.mpr ⟨all, waiting⟩) ran
      rw [run]
      generalize importer ((name, bound) :: running) ms source = imported at ran' found ⊢
      rcases imported with ⟨ms', failure | theirs⟩
      · exact ⟨ran', fun _ failed => by cases failed⟩
      · dsimp only
        cases led : lookup? item theirs with
        | none => exact ⟨ran', fun _ failed => by cases failed⟩
        | some c =>
          have holds : P c := found theirs rfl _ (mem_of_lookup? led)
          obtain ⟨ran, runs⟩ := ih ran' later (all.bindStep holds n)
          exact ⟨ran, fun bound' same => .importFrom holds (runs bound' same)⟩

theorem importAt_keeps (defined : ∀ s ∈ sources, AllDefined P s.2) (depth : Nat) :
    Keeps P sources (importAt depth) := by
  induction depth with
  | zero => exact fun _ _ _ _ ran => ⟨ran, fun _ failed => by cases failed⟩
  | succ depth ih =>
    intro running ms name waiting ran
    have imports := imports_importAt depth running ms name
    generalize importAt (depth + 1) running ms name = result at imports ⊢
    cases imports with
    | found known =>
      refine ⟨ran, fun bound same => Except.ok.inj same ▸ ?_⟩
      rcases known with waits | ⟨-, loaded⟩
      · exact waiting _ (mem_of_lookup? waits)
      · obtain ⟨steps, source, runs⟩ := ran.loaded _ (mem_of_lookup? loaded)
        exact runs.allBound (defined _ (mem_of_lookup? source)) (List.forall_mem_nil _)
    | refused e => exact ⟨ran, fun _ failed => by cases failed⟩
    | @failed steps ms' e source done =>
      rw [ran.sources_eq] at source
      have kept := run_keeps name ih waiting ran (defined _ (mem_of_lookup? source)) (List.forall_mem_nil _)
      rw [done] at kept
      exact ⟨kept.1, fun _ failed => by cases failed⟩
    | @kept steps ms' bindings idle unknown source done =>
      rw [ran.sources_eq] at source
      have steps_defined := defined _ (mem_of_lookup? source)
      obtain ⟨ran', runs⟩ := run_keeps name ih waiting ran steps_defined (List.forall_mem_nil _)
      rw [done] at ran' runs
      refine ⟨⟨ran'.sources_eq, fun l member => ?_⟩, fun bound same => Except.ok.inj same ▸ ?_⟩
      · rcases List.mem_append.mp member with before | last
        · exact ran'.loaded l before
        · rw [List.mem_singleton.mp last]
          exact ⟨steps, source, runs bindings rfl⟩
      · exact (runs bindings rfl).allBound steps_defined (List.forall_mem_nil _)

theorem ran_nil (P : Candidate → Prop) (sources : List (Text × List ModuleStep)) : Ran P sources ⟨sources, []⟩ :=
  ⟨rfl, List.forall_mem_nil _⟩

/-- **Loading runs the steps of modules**, whatever modules are loaded and whether all of them can be. -/
theorem load_ran {ms : Modules} (defined : ∀ s ∈ sources, AllDefined P s.2) (ran : Ran P sources ms)
    (names : List Text) : Ran P sources (ms.load names).1 := by
  induction names generalizing ms with
  | nil => exact ran
  | cons name names ih =>
    obtain ⟨ran', -⟩ := importAt_keeps defined (ms.sources.length + 1) [] ms name (List.forall_mem_nil _) ran
    rw [load, importModule]
    generalize importAt (ms.sources.length + 1) [] ms name = imported at ran' ⊢
    rcases imported with ⟨ms', failure | bindings⟩
    · exact ran'
    · exact ih ran'

/-! ### What stays loaded -/

/-- Importing adds to what is loaded, and leaves out the modules that are running. -/
def Adds (importer : List (Text × Bindings) → Modules → Text → Modules × Except ImportError Bindings) : Prop :=
  ∀ running ms name, ∃ added, (importer running ms name).1.loaded = ms.loaded ++ added ∧
    ∀ l ∈ added, lookup? l.1 running = none

theorem lookup?_append {α : Type} (name : Text) (xs ys : List (Text × α)) :
    lookup? name (xs ++ ys) = (lookup? name xs).or (lookup? name ys) := by
  induction xs with
  | nil => rfl
  | cons x xs ih =>
    rw [List.cons_append, lookup?, lookup?, ih]
    split <;> rfl

theorem lookup?_eq_none {α : Type} {name : Text} {xs : List (Text × α)} (other : ∀ x ∈ xs, x.1 ≠ name) :
    lookup? name xs = none := by
  induction xs with
  | nil => rfl
  | cons x xs ih =>
    obtain ⟨first, rest⟩ := List.forall_mem_cons.mp other
    rw [lookup?, if_neg first, ih rest]

theorem run_adds (adds : Adds importer) (running : List (Text × Bindings)) (name : Text) (bound : Bindings)
    (ms : Modules) (steps : List ModuleStep) :
    ∃ added, (run importer running name bound ms steps).1.loaded = ms.loaded ++ added ∧
      ∀ l ∈ added, l.1 ≠ name ∧ lookup? l.1 running = none := by
  have nothing : ∃ added, ms.loaded = ms.loaded ++ added ∧ ∀ l ∈ added, l.1 ≠ name ∧ lookup? l.1 running = none :=
    ⟨[], (List.append_nil _).symm, List.forall_mem_nil _⟩
  induction steps generalizing bound ms with
  | nil => exact nothing
  | cons step steps ih =>
    cases step with
    | define n made =>
      cases made with
      | error failure => exact nothing
      | ok c => exact ih (bindStep n c bound) ms nothing
    | importFrom n source item =>
      obtain ⟨added, loaded, apart⟩ := adds ((name, bound) :: running) ms source
      -- the module itself waits as well, so that none of those added is it
      have apart' : ∀ l ∈ added, l.1 ≠ name ∧ lookup? l.1 running = none := by
        intro l member
        have absent := apart l member
        rw [lookup?] at absent
        split at absent
        · cases absent
        · exact ⟨fun same => ‹¬name = l.1› same.symm, absent⟩
      rw [run]
      generalize importer ((name, bound) :: running) ms source = imported at loaded ⊢
      rcases imported with ⟨ms', failure | theirs⟩
      · exact ⟨added, loaded, apart'⟩
      · dsimp only at loaded ⊢
        cases lookup? item theirs with
        | none => exact ⟨added, loaded, apart'⟩
        | some c =>
          obtain ⟨more, grown, apart''⟩ := ih (bindStep n c bound) ms'
            ⟨[], (List.append_nil _).symm, List.forall_mem_nil _⟩
          refine ⟨added ++ more, ?_, List.forall_mem_append.mpr ⟨apart', apart''⟩⟩
          rw [← List.append_assoc, ← loaded]
          exact grown

theorem importAt_adds (depth : Nat) : Adds (importAt depth) := by
  induction depth with
  | zero => exact fun _ _ _ => ⟨[], (List.append_nil _).symm, List.forall_mem_nil _⟩
  | succ depth ih =>
    intro running ms name
    have imports := imports_importAt depth running ms name
    generalize importAt (depth + 1) running ms name = result at imports ⊢
    cases imports with
    | found => exact ⟨[], (List.append_nil _).symm, List.forall_mem_nil _⟩
    | refused => exact ⟨[], (List.append_nil _).symm, List.forall_mem_nil _⟩
    | @failed steps ms' e source ran =>
      obtain ⟨added, loaded, apart⟩ := run_adds ih running name [] ms steps
      rw [ran] at loaded
      exact ⟨added, loaded, fun l member => (apart l member).2⟩
    | @kept steps ms' bindings idle unknown source ran =>
      obtain ⟨added, loaded, apart⟩ := run_adds ih running name [] ms steps
      rw [ran] at loaded
      -- last comes the module itself, which did not wait when it was asked for
      refine ⟨added ++ [(name, bindings)], ?_, List.forall_mem_append.mpr
        ⟨fun l member => (apart l member).2, List.forall_mem_singleton.mpr idle⟩⟩
      rw [← List.append_assoc, ← loaded]

/-- A module that is imported is found among those that are loaded. -/
theorem lookup?_importModule {ms ms' : Modules} {bindings : Bindings}
    (imported : ms.importModule name = (ms', .ok bindings)) : lookup? name ms'.loaded = some bindings := by
  have imports := imports_importAt ms.sources.length [] ms name
  rw [importModule] at imported
  rw [imported] at imports
  cases imports with
  | found known =>
    rcases known with waits | ⟨-, loaded⟩
    · cases waits
    · exact loaded
  | @kept steps ms'' _ _ unknown source ran =>
    obtain ⟨added, loaded, apart⟩ := run_adds (importAt_adds ms.sources.length) [] name [] ms steps
    have absent : lookup? name added = none := lookup?_eq_none fun l member => (apart l member).1
    rw [ran] at loaded
    dsimp only at loaded ⊢
    rw [loaded, lookup?_append, lookup?_append, unknown, absent, Option.none_or, Option.none_or, lookup?, if_pos rfl]

theorem load_adds (ms : Modules) (names : List Text) : ∃ added, (ms.load names).1.loaded = ms.loaded ++ added := by
  induction names generalizing ms with
  | nil => exact ⟨[], (List.append_nil _).symm⟩
  | cons name names ih =>
    obtain ⟨added, loaded, -⟩ := importAt_adds (ms.sources.length + 1) [] ms name
    rw [load, importModule]
    generalize importAt (ms.sources.length + 1) [] ms name = imported at loaded ⊢
    rcases imported with ⟨ms', failure | bindings⟩
    · exact ⟨added, loaded⟩
    · obtain ⟨more, grown⟩ := ih ms'
      exact ⟨added ++ more, by rw [← List.append_assoc, ← loaded]; exact grown⟩

/-- **The declarations of modules** are gathered module by module, from what the modules bind in the end. -/
theorem load_eq_ok {ms : Modules} {names : List Text} {declarations : List Declaration}
    (loads : (ms.load names).2 = .ok declarations) :
    (∀ name ∈ names, ∃ bindings, lookup? name (ms.load names).1.loaded = some bindings) ∧
      declarations = names.flatMap fun name =>
        declarationsOf name ((lookup? name (ms.load names).1.loaded).getD []) := by
  induction names generalizing ms declarations with
  | nil => exact ⟨List.forall_mem_nil _, (Except.ok.inj loads).symm⟩
  | cons name names ih =>
    rw [load] at loads ⊢
    cases imported : ms.importModule name with
    | mk ms' result =>
      rw [imported] at loads
      cases result with
      | error failure => cases loads
      | ok bindings =>
        obtain ⟨rest, loads', same⟩ := map_eq_ok.mp loads
        obtain ⟨found, later⟩ := ih loads'
        obtain ⟨added, grown⟩ := load_adds ms' names
        -- what the later modules add does not hide what this one binds
        have stays : lookup? name (ms'.load names).1.loaded = some bindings := by
          rw [grown, lookup?_append, lookup?_importModule imported, Option.some_or]
        refine ⟨List.forall_mem_cons.mpr ⟨⟨bindings, stays⟩, found⟩, ?_⟩
        rw [List.flatMap_cons, ← same, later]
        exact congrArg (fun bs => declarationsOf name bs ++ _) (congrArg (·.getD []) stays).symm

/-! ### The order of names -/

/-- The names that steps bind, one after the other. -/
def namesOf (steps : List ModuleStep) : List Text := steps.filterMap ModuleStep.name?

theorem namesOf_cons (step : ModuleStep) (steps : List ModuleStep) :
    namesOf (step :: steps) = step.name?.toList ++ namesOf steps := by
  rw [namesOf, List.filterMap_cons]
  cases step.name? <;> rfl

theorem names_bind_of_mem (known : name ∈ bound.map (·.1)) : (bind name c bound).map (·.1) = bound.map (·.1) := by
  induction bound with
  | nil => cases known
  | cons b bound ih =>
    rw [bind]
    split
    · rfl
    next other =>
      rw [List.map_cons, List.map_cons, ih ((List.mem_cons.mp known).resolve_left (Ne.symm other))]

theorem bind_of_not_mem (fresh : name ∉ bound.map (·.1)) : bind name c bound = bound ++ [(name, c)] := by
  induction bound with
  | nil => rfl
  | cons b bound ih =>
    rw [List.map_cons, List.mem_cons, not_or] at fresh
    rw [bind, if_neg (Ne.symm fresh.1), ih fresh.2, List.cons_append]

theorem names_bind_of_not_mem (fresh : name ∉ bound.map (·.1)) :
    (bind name c bound).map (·.1) = bound.map (·.1) ++ [name] := by
  rw [bind_of_not_mem fresh, List.map_append, List.map_cons, List.map_nil]

/-- Binding a name again adds no name. -/
theorem eraseDups_names_bind (name : Text) (c : Candidate) (bound : Bindings) (names : List Text) :
    ((bind name c bound).map (·.1) ++ names).eraseDups = (bound.map (·.1) ++ name :: names).eraseDups := by
  by_cases known : name ∈ bound.map (·.1)
  · have left : (name :: names).removeAll (bound.map (·.1)) = names.removeAll (bound.map (·.1)) :=
      List.filter_cons_of_neg (by simpa using known)
    rw [names_bind_of_mem known, List.eraseDups_append, List.eraseDups_append, left]
  · rw [names_bind_of_not_mem known, List.append_assoc, List.singleton_append]

/-- The names of bindings differ. -/
theorem nodup_names_bind (nodup : (bound.map (·.1)).Nodup) : ((bind name c bound).map (·.1)).Nodup := by
  by_cases known : name ∈ bound.map (·.1)
  · rwa [names_bind_of_mem known]
  · rw [names_bind_of_not_mem known]
    exact List.concat_eq_append ▸ nodup.concat known

theorem eraseDups_of_nodup {names : List Text} (nodup : names.Nodup) : names.eraseDups = names := by
  induction names with
  | nil => rfl
  | cons name names ih =>
    obtain ⟨fresh, rest⟩ := List.nodup_cons.mp nodup
    have kept : names.filter (fun n => !n == name) = names :=
      List.filter_eq_self.mpr fun n member => by simpa using fun same : n = name => fresh (same ▸ member)
    rw [List.eraseDups_cons, kept, ih rest]

/-- **The names of a module** are those its steps bind, each where it is bound first. -/
theorem Runs.names (runs : Runs P bound steps bound') (nodup : (bound.map (·.1)).Nodup) :
    bound'.map (·.1) = (bound.map (·.1) ++ namesOf steps).eraseDups := by
  -- the induction is on the run, with the names that are bound by now before those to come
  have bound_step {name : Option Text} {c : Candidate} {bound : Bindings} {steps : List ModuleStep}
      (nodup : (bound.map (·.1)).Nodup) : ((bindStep name c bound).map (·.1)).Nodup ∧
      ((bindStep name c bound).map (·.1) ++ namesOf steps).eraseDups
        = (bound.map (·.1) ++ (name.toList ++ namesOf steps)).eraseDups := by
    cases name with
    | none => exact ⟨nodup, rfl⟩
    | some name => exact ⟨nodup_names_bind nodup, eraseDups_names_bind name c bound (namesOf steps)⟩
  induction runs with
  | done => rw [namesOf, List.filterMap_nil, List.append_nil, eraseDups_of_nodup nodup]
  | define _ ih =>
    obtain ⟨nodup', same⟩ := bound_step nodup
    rw [ih nodup', namesOf_cons]
    exact same
  | importFrom _ _ ih =>
    obtain ⟨nodup', same⟩ := bound_step nodup
    rw [ih nodup', namesOf_cons]
    exact same

theorem mem_bind_of_ne {n : Text} {d : Candidate} (other : n ≠ name) (member : (n, d) ∈ bound) :
    (n, d) ∈ bind name c bound := by
  induction bound with
  | nil => cases member
  | cons b bound ih =>
    rw [bind]
    rcases List.mem_cons.mp member with first | later
    · subst first
      rw [if_neg other]
      exact List.mem_cons_self
    · split
      · exact List.mem_cons_of_mem _ later
      · exact List.mem_cons_of_mem _ (ih later)

/-- What a name is bound to stays, unless the name is bound again. -/
theorem Runs.mem (runs : Runs P bound steps bound') {n : Text} {d : Candidate} (last : n ∉ namesOf steps)
    (member : (n, d) ∈ bound) : (n, d) ∈ bound' := by
  have kept {name : Option Text} {c : Candidate} {bound : Bindings} (other : name ≠ some n)
      (member : (n, d) ∈ bound) : (n, d) ∈ bindStep name c bound := by
    cases name with
    | none => exact member
    | some name => exact mem_bind_of_ne (fun same => other (congrArg some same.symm)) member
  have split {step : ModuleStep} {steps : List ModuleStep} (last : n ∉ namesOf (step :: steps)) :
      step.name? ≠ some n ∧ n ∉ namesOf steps := by
    rw [namesOf_cons, List.mem_append, Option.mem_toList, not_or] at last
    exact last
  induction runs with
  | done => exact member
  | define _ ih => exact ih (split last).2 (kept (split last).1 member)
  | importFrom _ _ ih => exact ih (split last).2 (kept (split last).1 member)

end Modules

end GuardedTools
