import GuardedTools.Tool.Declaration

/-!
# Modules

A module is a list of definitions that is run when the module is first imported; running it binds
names to candidates, a later binding of a name taking the place of an earlier one.  Importing
collects the marked candidates that say they belong to the module, in the order of their names'
first bindings, one for each name.

A module whose run fails is not kept; a later import runs it again.  A module that is imported while
it runs itself, by a module that it imports, is found with what it has bound by then.
-/

namespace GuardedTools

/-- A step of running a module. -/
inductive ModuleStep where
  /-- Binds a name to a candidate, or fails to make it. -/
  | define (name : Option Text) (candidate : Except BuildFailure Candidate)
  /-- Binds a name to what another module binds. -/
  | importFrom (name : Option Text) (module item : Text)

/-- The names that modules bind. -/
abbrev Bindings := List (Text × Candidate)

/-- The modules there are, and those that have been run. -/
structure Modules where
  sources : List (Text × List ModuleStep)
  loaded : List (Text × Bindings)

/-- Why an import fails. -/
inductive ImportError where
  /-- There is no such module. -/
  | notFound (name : Text)
  /-- The part before the last point is a module that holds no others. -/
  | notAPackage (name parent : Text)
  /-- A module does not bind a name. -/
  | noItem (module item : Text)
  /-- The name of the module is empty. -/
  | emptyName
  /-- The name is relative to a package that is not said. -/
  | relative (name : Text)
  /-- A definition in the module is no tool. -/
  | build (failure : BuildFailure)
deriving Repr

namespace ImportError

/-- The error in words; authoring mistakes have their own. -/
def message : ImportError → Text
  | notFound name => "No module named " ++ name.quoted
  | notAPackage name parent =>
    "No module named " ++ name.quoted ++ "; " ++ parent.quoted ++ " is not a package"
  | noItem m a => "module " ++ m.quoted ++ " has no attribute " ++ a.quoted
  | emptyName => "Empty module name"
  | relative name =>
    "the 'package' argument is required to perform a relative import for " ++ name.quoted
  | build failure => failure.message

end ImportError

namespace Modules

/-- Binds a name: in the place of an earlier binding, or at the end. -/
def bind (name : Text) (c : Candidate) : Bindings → Bindings
  | [] => [(name, c)]
  | (n, d) :: bs => if n = name then (n, c) :: bs else (n, d) :: bind name c bs

def lookup? {α : Type} (name : Text) : List (Text × α) → Option α
  | [] => none
  | (n, x) :: xs => if n = name then some x else lookup? name xs

/-- Whether a module exists, loaded or not. -/
def has (ms : Modules) (name : Text) : Bool :=
  (lookup? name ms.loaded).isSome || (lookup? name ms.sources).isSome

/-- The names of the packages that a dotted name goes through, outermost first, without itself. -/
def parents (name : Text) : List Text :=
  let parts := name.splitOn '.'
  (List.range (parts.length - 1)).map fun i => Text.intercalate "." (parts.take (i + 1))

/-- The packages among the modules: those that hold other modules. -/
def isPackage (ms : Modules) (name : Text) : Bool :=
  let start := name ++ "."
  name = "toolgate" ||
    ms.sources.any (fun s => s.1.startsWith start) || ms.loaded.any (fun s => s.1.startsWith start)

/-- Why a name that is not among the modules is not found: the first part of it that is not there
decides. -/
def missing (ms : Modules) (name : Text) : ImportError :=
  let missingParent := (parents name).find? fun p => !(ms.has p || ms.isPackage p)
  match missingParent with
  | some p => match (parents p).reverse with
    | [] => .notFound p
    | q :: _ => if ms.isPackage q then .notFound p else .notAPackage p q
  | none => match (parents name).reverse with
    | [] => .notFound name
    | q :: _ => if ms.isPackage q then .notFound name else .notAPackage name q

/-- Binds a candidate to the name of a step, if the step has one. -/
def bindStep (name : Option Text) (c : Candidate) (bound : Bindings) : Bindings :=
  match name with
  | some n => bind n c bound
  | none => bound

/-- Runs the steps of a module after those that made the given bindings.  `running` are the modules
that wait for this one, each with what it has bound by now. -/
def run (importer : List (Text × Bindings) → Modules → Text → Modules × Except ImportError Bindings)
    (running : List (Text × Bindings)) (name : Text) (bound : Bindings) (ms : Modules) :
    List ModuleStep → Modules × Except ImportError Bindings
  | [] => (ms, .ok bound)
  | .define n made :: steps =>
    match made with
    | .error failure => (ms, .error (.build failure))
    | .ok c => run importer running name (bindStep n c bound) ms steps
  | .importFrom n source item :: steps =>
    match importer ((name, bound) :: running) ms source with
    | (ms, .error e) => (ms, .error e)
    | (ms, .ok theirs) =>
      match lookup? item theirs with
      | none => (ms, .error (.noItem source item))
      | some c => run importer running name (bindStep n c bound) ms steps

/-- Imports a module; the first argument bounds how deep modules import one another.  A module that
is running is found with what it has bound by now. -/
def importAt :
    Nat → List (Text × Bindings) → Modules → Text → Modules × Except ImportError Bindings
  | 0, _, ms, name => (ms, .error (.notFound name))
  | depth + 1, running, ms, name =>
    match (lookup? name running).or (lookup? name ms.loaded) with
    | some bindings => (ms, .ok bindings)
    | none =>
      if name.isEmpty then (ms, .error .emptyName)
      else if name.startsWith "." then (ms, .error (.relative name))
      else match lookup? name ms.sources with
      | none => (ms, .error (ms.missing name))
      | some steps =>
        match run (importAt depth) running name [] ms steps with
        | (ms, .error e) => (ms, .error e)
        | (ms, .ok bindings) =>
          ({ ms with loaded := ms.loaded ++ [(name, bindings)] }, .ok bindings)

/-- Imports a module. -/
def importModule (ms : Modules) (name : Text) : Modules × Except ImportError Bindings :=
  importAt (ms.sources.length + 1) [] ms name

/-- The declarations of a module: the marked candidates it binds that say they belong to it. -/
def declarationsOf (name : Text) (bindings : Bindings) : List Declaration :=
  bindings.filterMap fun (_, c) =>
    if c.module? = some name then c.declared? else none

/-- Imports modules in order and gathers their declarations.  Modules that were run stay loaded,
also when a later one fails. -/
def load (ms : Modules) : List Text → Modules × Except ImportError (List Declaration)
  | [] => (ms, .ok [])
  | name :: names =>
    match ms.importModule name with
    | (ms, .error e) => (ms, .error e)
    | (ms, .ok bindings) =>
      let (ms, rest) := load ms names
      (ms, rest.map (declarationsOf name bindings ++ ·))

end Modules

end GuardedTools
