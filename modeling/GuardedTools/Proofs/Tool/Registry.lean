import GuardedTools.Proofs.Basic
import GuardedTools.Proofs.Tool.Made

/-!
# What a registry holds

A registry is asked to register, to freeze, to look up a tool, to list the descriptors and to tell the
names (`Registry.Operation`).  `Registry.Session` is a registry together with all that it was asked and
what it answered, in order.

A step of a session that registers a tool is taken only while the registry is open, under a name that
it does not have yet, and adds the tool at the end; no other step touches the tools
(`register_eq_ok`).  So there are as many tools as registrations that succeeded, each made of one, with
names that differ (`Session.IsRecorded`), and of two states of a session the earlier one has the first
tools of the later one (`Extends`).  Everything that is known of a session is read off these two
(`Session.run_consistent`).
-/

namespace GuardedTools

namespace Registry

/-! ### Earlier and later -/

/-- A registry holds all that an earlier one held, in the same places, and stays frozen if it was. -/
structure Extends (r r' : Registry) : Prop where
  tools : r.tools <+: r'.tools
  isFrozen : r.isFrozen = true → r'.isFrozen = true

theorem Extends.refl (r : Registry) : r.Extends r :=
  ⟨List.prefix_rfl, id⟩

theorem Extends.trans {r r' r'' : Registry} (h : r.Extends r') (h' : r'.Extends r'') :
    r.Extends r'' :=
  ⟨h.tools.trans h'.tools, fun frozen => h'.isFrozen (h.isFrozen frozen)⟩

/-- What is found under a name stays. -/
theorem Extends.find? {r r' : Registry} {name : Text} {t : Tool} (h : r.Extends r')
    (found : r.find? name = some t) : r'.find? name = some t :=
  h.tools.find?_eq_some found

/-! ### Sessions -/

/-- What a registry can be asked. -/
inductive Operation where
  | register (d : Descriptor) (f : Function)
  | freeze
  | lookup (name : Text)
  | list
  | names

/-- What a registry answers. -/
inductive Answer where
  | done
  | refused (e : RegisterError)
  | tool (found : Option Tool)
  | descriptors (ds : List Descriptor)
  | names (ns : List Text)

/-- The answer to an operation, and the registry after it. -/
def perform (r : Registry) : Operation → Answer × Registry
  | .register d f => match r.register d f with
    | .error e => (.refused e, r)
    | .ok r' => (.done, r')
  | .freeze => (.done, r.freeze)
  | .lookup name => (.tool (r.find? name), r)
  | .list => (.descriptors r.descriptors, r)
  | .names => (.names r.names, r)

/-- A registry, and what it was asked and answered so far. -/
structure Session where
  registry : Registry := .empty
  answered : List (Operation × Answer) := []

/-- What is registered by an operation that was answered. -/
def registration? : Operation × Answer → Option (Descriptor × Function)
  | (.register d f, .done) => some (d, f)
  | _ => none

namespace Session

/-- A session at its start. -/
def fresh : Session := {}

def perform (s : Session) (o : Operation) : Session where
  registry := (s.registry.perform o).2
  answered := s.answered ++ [(o, (s.registry.perform o).1)]

/-- Performs operations in order. -/
def run (s : Session) (os : List Operation) : Session := os.foldl perform s

/-- The registrations that succeeded, in order. -/
def registrations (s : Session) : List (Descriptor × Function) := s.answered.filterMap registration?

end Session

/-- A tool is the one of a registration. -/
structure IsToolOf (c : Descriptor × Function) (t : Tool) : Prop where
  descriptor : t.descriptor = c.1
  entry : t.entry = c.2
  made : Tool.make c.1 c.2 = .ok t

theorem IsToolOf.of_make {d : Descriptor} {f : Function} {t : Tool} (made : Tool.make d f = .ok t) :
    IsToolOf (d, f) t := by
  obtain ⟨descriptor, entry, -⟩ := Tool.make_eq_ok made
  exact ⟨descriptor, entry, made⟩

/-- The three things an operation can do: add a tool, freeze, and nothing. -/
theorem perform_cases (r : Registry) (o : Operation) :
    (∃ d f t, o = .register d f ∧ d.name ∉ r.names ∧ IsToolOf (d, f) t ∧
      r.perform o = (.done, { r with tools := r.tools ++ [t] })) ∨
    (o = .freeze ∧ r.perform o = (.done, r.freeze)) ∨
    (o ≠ .freeze ∧ registration? (o, (r.perform o).1) = none ∧ (r.perform o).2 = r) := by
  cases o with
  | register d f =>
    cases registered : r.register d f with
    | error e =>
      have refused : r.perform (.register d f) = (.refused e, r) := by rw [perform, registered]
      rw [refused]
      exact Or.inr (Or.inr ⟨nofun, rfl, rfl⟩)
    | ok r' =>
      obtain ⟨-, new, t, made, rfl⟩ := register_eq_ok.mp registered
      refine Or.inl ⟨d, f, t, rfl, new, .of_make made, ?_⟩
      rw [perform, registered]
  | freeze => exact Or.inr (Or.inl ⟨rfl, rfl⟩)
  | lookup name => exact Or.inr (Or.inr ⟨nofun, rfl, rfl⟩)
  | list => exact Or.inr (Or.inr ⟨nofun, rfl, rfl⟩)
  | names => exact Or.inr (Or.inr ⟨nofun, rfl, rfl⟩)

/-- No operation removes or replaces a tool, or opens a registry that is frozen. -/
theorem extends_perform (r : Registry) (o : Operation) : r.Extends (r.perform o).2 := by
  rcases r.perform_cases o with ⟨d, f, t, -, -, -, done⟩ | ⟨-, done⟩ | ⟨-, -, done⟩
  · rw [done]
    exact ⟨List.prefix_append _ _, id⟩
  · rw [done]
    exact ⟨List.prefix_rfl, fun _ => rfl⟩
  · rw [done]
    exact .refl r

namespace Session

/-! ### What a step keeps -/

/-- The tools of a registry are those of the registrations that succeeded, their names differ, and the
registry is frozen if it was asked to be. -/
structure IsRecorded (s : Session) : Prop where
  tools : List.Forall₂ IsToolOf s.registrations s.registry.tools
  nodup : s.registry.names.Nodup
  isFrozen_iff : s.registry.isFrozen = true ↔ Operation.freeze ∈ s.answered.map (·.1)

theorem isRecorded_fresh : fresh.IsRecorded where
  tools := .nil
  nodup := List.nodup_nil
  isFrozen_iff := by simp [fresh, empty]

theorem registrations_perform (s : Session) (o : Operation) :
    (s.perform o).registrations
      = s.registrations ++ (registration? (o, (s.registry.perform o).1)).toList := by
  rw [registrations, perform, List.filterMap_append]
  congr 1

theorem asked_perform (s : Session) (o : Operation) :
    (s.perform o).answered.map (·.1) = s.answered.map (·.1) ++ [o] := by
  rw [perform, List.map_append]
  rfl

theorem IsRecorded.perform {s : Session} (h : s.IsRecorded) (o : Operation) :
    (s.perform o).IsRecorded := by
  have registrations := s.registrations_perform o
  have asked := s.asked_perform o
  have registry : (s.perform o).registry = (s.registry.perform o).2 := rfl
  rcases s.registry.perform_cases o with ⟨d, f, t, rfl, new, tool, done⟩ | ⟨rfl, done⟩ | ⟨other, no, done⟩
  · rw [done] at registrations registry
    constructor
    · rw [registrations, registry]
      exact List.rel_append h.tools (.cons tool .nil)
    · have named : t.name = d.name := congrArg Descriptor.name tool.descriptor
      rw [registry]
      exact nodup_names_concat.mpr ⟨named ▸ new, h.nodup⟩
    · rw [registry, asked, List.mem_append, List.mem_singleton, or_iff_left nofun]
      exact h.isFrozen_iff
  · rw [done] at registrations registry
    constructor
    · rw [registrations, registry]
      exact (List.append_nil s.registrations).symm ▸ h.tools
    · rw [registry]
      exact h.nodup
    · rw [registry, asked]
      exact iff_of_true rfl (List.mem_append_right _ List.mem_cons_self)
  · rw [no] at registrations
    rw [done] at registry
    constructor
    · rw [registrations, registry]
      exact (List.append_nil s.registrations).symm ▸ h.tools
    · rw [registry]
      exact h.nodup
    · rw [registry, asked, List.mem_append, List.mem_singleton, or_iff_left (Ne.symm other)]
      exact h.isFrozen_iff

/-! ### What a run keeps -/

theorem IsRecorded.run {s : Session} (h : s.IsRecorded) (os : List Operation) :
    (s.run os).IsRecorded := by
  induction os generalizing s with
  | nil => exact h
  | cons o os ih => exact ih (h.perform o)

theorem extends_run (s : Session) (os : List Operation) :
    s.registry.Extends (s.run os).registry := by
  induction os generalizing s with
  | nil => exact .refl _
  | cons o os ih => exact (s.registry.extends_perform o).trans (ih (s.perform o))

theorem asked_run (s : Session) (os : List Operation) :
    (s.run os).answered.map (·.1) = s.answered.map (·.1) ++ os := by
  induction os generalizing s with
  | nil => exact (List.append_nil _).symm
  | cons o os ih =>
    calc ((s.perform o).run os).answered.map (·.1)
        = (s.perform o).answered.map (·.1) ++ os := ih (s.perform o)
      _ = s.answered.map (·.1) ++ o :: os := by
          rw [asked_perform, List.append_assoc, List.singleton_append]

namespace IsRecorded

variable {s : Session}

theorem descriptors_eq (h : s.IsRecorded) : s.registry.descriptors = s.registrations.map (·.1) :=
  map_eq_of_forall₂ (fun {_ _} tool => IsToolOf.descriptor tool) h.tools

theorem names_eq (h : s.IsRecorded) : s.registry.names = s.registrations.map (·.1.name) :=
  map_eq_of_forall₂ (fun tool => congrArg Descriptor.name tool.descriptor) h.tools

/-- The tool under a name is that of the first registration of the name. -/
theorem rel_find? (h : s.IsRecorded) (name : Text) :
    Option.Rel IsToolOf (s.registrations.find? (·.1.name == name)) (s.registry.find? name) :=
  GuardedTools.rel_find? (fun tool => congrArg (·.name == name) tool.descriptor) h.tools

/-- A lookup answers with the tool of the first registration of a name. -/
theorem lookup (h : s.IsRecorded) (name : Text) :
    ∃ found, (s.registry.perform (.lookup name)).1 = .tool found ∧
      Option.Rel IsToolOf (s.registrations.find? (·.1.name == name)) found :=
  ⟨_, rfl, h.rel_find? name⟩

end IsRecorded

/-- What a lookup found is found by every later one. -/
theorem lookup_run (s : Session) (os : List Operation) {name : Text} {t : Tool}
    (found : (s.registry.perform (.lookup name)).1 = .tool (some t)) :
    ((s.run os).registry.perform (.lookup name)).1 = .tool (some t) := by
  have stays := (s.extends_run os).find? (Answer.tool.inj found)
  exact congrArg Answer.tool stays

/-- A registration that fails leaves the registry as it is. -/
theorem perform_of_refused {r : Registry} {o : Operation} {e : RegisterError}
    (refused : (r.perform o).1 = .refused e) : (r.perform o).2 = r := by
  rcases r.perform_cases o with ⟨d, f, t, -, -, -, done⟩ | ⟨-, done⟩ | ⟨-, -, done⟩
  · rw [done] at refused
    cases refused
  · rw [done] at refused
    cases refused
  · exact done

/-- **What a registry holds**: whatever a new registry is asked, and however much of it fails, names
differ; the descriptors are those of the registrations that succeeded, in order; under a name is the
tool of the first of them, and stays there; names, descriptors and size agree; and from the first
freeze on the registry is frozen, and refuses every tool because of that.  A registration that fails
changes nothing. -/
theorem run_consistent (os later : List Operation) :
    let s := fresh.run os
    let r := s.registry
    let r' := (s.run later).registry
    r.names.Nodup ∧
    (r.perform .list).1 = .descriptors (s.registrations.map (·.1)) ∧
    (∀ name, ∃ found, (r.perform (.lookup name)).1 = .tool found ∧
      Option.Rel IsToolOf (s.registrations.find? (·.1.name == name)) found) ∧
    (∀ name t, (r.perform (.lookup name)).1 = .tool (some t) →
      (r'.perform (.lookup name)).1 = .tool (some t)) ∧
    (r.perform .names).1 = .names (r.descriptors.map (·.name)) ∧
    (∀ name, name ∈ r.names ↔ ∃ t, (r.perform (.lookup name)).1 = .tool (some t)) ∧
    r.size = r.descriptors.length ∧
    (r.isFrozen = true ↔ Operation.freeze ∈ os) ∧
    (r.isFrozen = true → r'.isFrozen = true) ∧
    (Operation.freeze ∈ os → ∀ d f, r.perform (.register d f) = (.refused (.frozen d.name), r)) ∧
    ∀ o e, (r.perform o).1 = .refused e → (r.perform o).2 = r := by
  intro s r r'
  have recorded : s.IsRecorded := isRecorded_fresh.run os
  have asked : s.answered.map (·.1) = os := asked_run fresh os
  have frozen : r.isFrozen = true ↔ Operation.freeze ∈ os := asked ▸ recorded.isFrozen_iff
  refine ⟨recorded.nodup, congrArg Answer.descriptors recorded.descriptors_eq, recorded.lookup,
    fun name t => s.lookup_run later, ?_, fun name => ?_, ?_, frozen, (s.extends_run later).isFrozen,
    fun asked d f => ?_, fun o e => perform_of_refused⟩
  · have names : r.names = r.descriptors.map (·.name) := (List.map_map ..).symm
    exact congrArg Answer.names names
  · rw [mem_names_iff]
    exact exists_congr fun t => ⟨congrArg Answer.tool, Answer.tool.inj⟩
  · exact (List.length_map _).symm
  · have refused := register_of_isFrozen (frozen.mpr asked) d f
    rw [Registry.perform, refused]

/-- Of two tools of one name the first stays, and a frozen registry takes none. -/
example :
    let d (name : Text) : Descriptor :=
      { name, description := "", parameters := [], result := .string, inputSchema := "" }
    let s := fresh.run [.register (d "a") Sample.echo, .register (d "a") Sample.add, .freeze,
      .register (d "b") Sample.add, .register (d "a") Sample.add]
    s.registry.tools.map (·.entry.label) = [Sample.echo.label] := by decide +kernel

end Session

end Registry

end GuardedTools
