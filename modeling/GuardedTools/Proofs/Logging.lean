import GuardedTools.Logging.File
import GuardedTools.Proofs.Basic

/-!
# Setting up the log

What is left of a configuration of loggers that is found to be wrong on the way, when the plain
handler takes over (`Loggers.setUp_exact`).

A step of a configuration is described by the loggers that it may change and the faults that it
may find (`Loggers.StaysWithin`): an entry changes the logger that it names, the section of loggers
those of its entries, and the last step the root.  So a logger that no entry is about is as it was
until the section is done, and from then on at most put out of use, or back into it
(`Loggers.seek?_carryOut`).
-/

namespace GuardedTools

namespace Loggers

open LoggingConfig

/-! ### Steps -/

variable {α β : Type} {ls ls' : Loggers} {fault f : LoggingFault} {name : LoggerName}
  {whole : LoggingConfig} {s : Option Surroundings}

/-- What a step comes to, and the loggers after it. -/
def outcome (m : Configuring α) (ls : Loggers) : Except LoggingFault α × Loggers := m.run.run ls

/-- Of two steps the second is taken after the first, unless that finds a fault. -/
theorem outcome_bind {m : Configuring α} {k : α → Configuring β} {r : Except LoggingFault β} :
    outcome (m >>= k) ls = (r, ls') ↔
      (∃ a mid, outcome m ls = (.ok a, mid) ∧ outcome (k a) mid = (r, ls')) ∨
        ∃ fault, outcome m ls = (.error fault, ls') ∧ r = .error fault := by
  cases first : outcome m ls with
  | mk came mid =>
    -- the second step goes on from what the first one came to
    have run : outcome (m >>= k) ls = (ExceptT.bindCont k came).run mid := by
      show (ExceptT.bindCont k (outcome m ls).1).run (outcome m ls).2 = _
      rw [first]
    rw [run]
    cases came with
    | error fault =>
      constructor
      · intro h
        cases h
        exact Or.inr ⟨fault, rfl, rfl⟩
      · rintro (⟨a, mid, h, -⟩ | ⟨fault, h, rfl⟩)
        · cases h
        · cases h
          rfl
    | ok a =>
      constructor
      · intro h
        exact Or.inl ⟨a, mid, rfl, h⟩
      · rintro (⟨a, mid, h, second⟩ | ⟨fault, h, -⟩)
        · cases h
          exact second
        · cases h

/-- The logger of a name, if there is one. -/
def seek? (ls : Loggers) : LoggerName → Option Logger
  | .root => some ls.root
  | .named name => (ls.others.find? (·.1 == name)).map (·.2)

/-- A step changes only some loggers, and finds only some faults. -/
structure StaysWithin (changes : LoggerName → Prop) (faults : LoggingFault → Prop)
    (m : Configuring α) : Prop where
  keeps : ∀ {ls r ls'}, outcome m ls = (r, ls') → ∀ name, ¬ changes name →
    ls'.seek? name = ls.seek? name
  finds : ∀ {ls fault ls'}, outcome m ls = (.error fault, ls') → faults fault

variable {changes : LoggerName → Prop} {faults : LoggingFault → Prop}

theorem StaysWithin.bind {m : Configuring α} {k : α → Configuring β}
    (first : StaysWithin changes faults m) (second : ∀ a, StaysWithin changes faults (k a)) :
    StaysWithin changes faults (m >>= k) where
  keeps h n other := by
    rcases outcome_bind.mp h with ⟨a, mid, came, h⟩ | ⟨fault, failed, -⟩
    · exact ((second a).keeps h n other).trans (first.keeps came n other)
    · exact first.keeps failed n other
  finds h := by
    rcases outcome_bind.mp h with ⟨a, mid, -, h⟩ | ⟨fault, failed, same⟩
    · exact (second a).finds h
    · cases same
      exact first.finds failed

theorem StaysWithin.mono {m : Configuring α} (h : StaysWithin changes faults m)
    {changes' : LoggerName → Prop} {faults' : LoggingFault → Prop}
    (more : ∀ name, changes name → changes' name)
    (more' : ∀ fault, faults fault → faults' fault) : StaysWithin changes' faults' m where
  keeps came n other := h.keeps came n fun changed => other (more n changed)
  finds failed := more' _ (h.finds failed)

/-- The level of the first of some loggers that has one of its own, or else of the root. -/
def levelOf (ls : Loggers) : List Text → LoggerLevel
  | [] => ls.root.level
  | name :: above =>
    let own := (ls.get (.named name)).level
    if own.toInt = 0 then levelOf ls above else own

theorem levelOf_congr {names : List Text}
    (same : ∀ name ∈ names, ls'.get (.named name) = ls.get (.named name))
    (root : ls'.root.level = ls.root.level) : ls'.levelOf names = ls.levelOf names := by
  induction names with
  | nil => exact root
  | cons name names ih =>
    rw [levelOf, levelOf, same name List.mem_cons_self,
      ih fun n among => same n (List.mem_cons_of_mem _ among)]

/-- What a logger says at a level gets to the root, past the loggers above it: it is in use, its
level is low enough, no filter is in the way, and none of the loggers keeps it. -/
structure Reaches (ls : Loggers) (level : LoggerLevel) (name : Text) (above : List Text) : Prop where
  inUse : (ls.get (.named name)).isDisabled = false
  enough : (ls.levelOf (name :: above)).toInt ≤ level.toInt
  unfiltered : (ls.get (.named name)).filters = []
  goesOn : ∀ n ∈ name :: above, (ls.get (.named n)).propagates = true

theorem Reaches.congr {level : LoggerLevel} {name : Text} {above : List Text}
    (h : ls.Reaches level name above)
    (same : ∀ n ∈ name :: above, ls'.get (.named n) = ls.get (.named n))
    (root : ls'.root.level = ls.root.level) : ls'.Reaches level name above where
  inUse := by rw [same name List.mem_cons_self, h.inUse]
  enough := by
    rw [levelOf_congr same root]
    exact h.enough
  unfiltered := by rw [same name List.mem_cons_self, h.unfiltered]
  goesOn n among := by rw [same n among, h.goesOn n among]

/-- What the program and its audit trail say for information gets to the root. -/
structure Informs (ls : Loggers) : Prop where
  service : ls.Reaches .info service []
  audit : ls.Reaches .info audit [Loggers.service]

/-- The loggers of the audit trail and of the program. -/
def watched : List Text := [audit, service]

/-- The watched loggers are there, and get what they say to the plain handler. -/
structure IsReady (ls : Loggers) : Prop where
  known : ∀ name ∈ watched, ∃ l, ls.seek? (.named name) = some l
  informs : ls.fallBack.Informs

theorem IsReady.inUse (ready : ls.IsReady) {name : Text} (among : name ∈ watched) :
    (ls.get (.named name)).isDisabled = false := by
  rcases List.mem_cons.mp among with rfl | among
  · exact ready.informs.audit.inUse
  · rw [List.mem_singleton.mp among]
    exact ready.informs.service.inUse

variable {fs : Files} {path : Path} {p : Plan} {entries : LoggingConfig}

/-- A file gives the entries of a configuration. -/
def Gives (fs : Files) (path : Path) (entries : LoggingConfig) : Prop :=
  stands fs (path.fromRoot fs) = .ok true ∧ reading fs (path.fromRoot fs) = .configuration entries

/-- The faults that nothing takes over for: a path that cannot be looked up, some faults of a text
and some references that lead nowhere. -/
inductive Escapes (ls : Loggers) (fs : Files) (path : Path) : SetUpFault → Prop
  | file (fault : FileFault) (unknown : stands fs (path.fromRoot fs) = .error fault) :
      Escapes ls fs path (.file fault (path.fromRoot fs))
  | text (t : Text) (fault : Yaml.Fault) (there : stands fs (path.fromRoot fs) = .ok true)
      (text : fs.readText (path.fromRoot fs) = .ok t) (unread : Yaml.read t = .error fault)
      (other : isOfConfiguration fault = false) : Escapes ls fs path (.yaml fault)
  | reference (entries : LoggingConfig) (fault : ReferenceFault) (left : Loggers)
      (given : Gives fs path entries)
      (failed : outcome (configure fs entries) ls = (.error (.reference fault), left))
      (other : fault.isOfConfiguration = false) : Escapes ls fs path (.reference fault)

/-- A configuration whose version is somewhere else. -/
def elsewhere : Files where
  nodes := [(["l.yaml"], .file ((Utf8.encode "version: cfg://x\n").getD []))]

end Loggers

end GuardedTools
