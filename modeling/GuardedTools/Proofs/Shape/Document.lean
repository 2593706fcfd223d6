import GuardedTools.Proofs.Shape.References

/-!
# The document of a class

A class that is found last is referred to by no class that can be reached from it, since every class
refers to those before it and to itself only, and a closed class not even to itself.  Thus a closed class at
the root of a schema is opened, and what its document says of its fields is what the class says
(`Shape.schema_record`): giving names to the classes changes neither the keys of properties nor the list of
required fields, and neither does putting in the definitions.
-/

namespace GuardedTools

namespace Definitions

theorem Sound.nil : Sound [] := fun _ _ found => by cases found

/-! ### What a reference means -/

/-- A reference to another document has no number. -/
theorem numberOf?_eq_none {self : Option Nat} {t : Text} (away : Shape.leadsAway t = true) :
    numberOf? self t = none := by
  have head : t.points.head? = some (.scalar 'h') := by
    rcases Bool.or_eq_true_iff.mp away with starts | starts
    all_goals
      rw [Text.startsWith, List.isPrefixOf_iff_prefix] at starts
      obtain ⟨rest, same⟩ := starts
      rw [← same]
      rfl
  have other : t ≠ selfMark := by
    rintro rfl
    cases head
  have elsewhere : ¬t.startsWith referenceStart = true := by
    intro starts
    rw [Text.startsWith, List.isPrefixOf_iff_prefix] at starts
    obtain ⟨rest, same⟩ := starts
    rw [← same] at head
    cases head
  rw [numberOf?, if_neg other, if_neg elsewhere]

/-- An allowed reference is to a class before, or to the class that it stands in. -/
theorem Allowed.numberOf?_eq {n m : Nat} {self : Option Nat} {inClass : Bool} {t : Text}
    (h : Allowed n inClass t) (found : numberOf? self t = some m) :
    m < n ∨ t = selfMark ∧ self = some m := by
  rcases h with away | ⟨k, below, rfl⟩ | ⟨within, rfl⟩
  · rw [numberOf?_eq_none away] at found
    cases found
  · rw [numberOf?_reference] at found
    exact Or.inl (Option.some.inj found ▸ below)
  · rw [numberOf?, if_pos rfl] at found
    exact Or.inr ⟨rfl, found⟩

/-- Outside of classes nothing stands for the class that it stands in. -/
theorem not_allowed_selfMark (n : Nat) : ¬Allowed n false selfMark := by
  rintro (away | ⟨m, -, same⟩ | ⟨within, -⟩)
  · exact absurd away (by decide)
  · have own : numberOf? none selfMark = none := rfl
    rw [same, numberOf?_reference] at own
    cases own
  · cases within

/-- Within a class there are references to it and to those before it. -/
theorem Sound.le_of_mem_referencesOf {ds : Definitions} (sound : Sound ds) {k m : Nat}
    (member : m ∈ ds.referencesOf k) : m ≤ k := by
  unfold referencesOf at member
  split at member
  next c found =>
    obtain ⟨t, among, number⟩ := List.mem_filterMap.mp member
    rcases (sound k c found t among).numberOf?_eq number with below | ⟨-, own⟩
    · exact Nat.le_of_lt below
    · exact Nat.le_of_eq (Option.some.inj own).symm
  next => cases member

/-- What is true of some classes, and of all that such classes refer to, is true of all that are
reached. -/
theorem of_mem_reachable {ds : Definitions} {P : Nat → Prop}
    (step : ∀ n, P n → ∀ m ∈ ds.referencesOf n, P m) :
    ∀ {fuel : Nat} {ns : List Nat}, (∀ n ∈ ns, P n) → ∀ m ∈ ds.reachable fuel ns, P m := by
  intro fuel
  induction fuel with
  | zero => exact fun before => before
  | succ fuel ih =>
    intro ns before
    rw [reachable]
    split
    · exact before
    · refine ih fun m member => ?_
      rcases List.mem_append.mp member with old | new
      · exact before m old
      · -- what is reached in one more step is referred to by what was reached before
        have fresh := (List.mem_filter.mp (List.mem_eraseDups.mp new)).1
        obtain ⟨k, reached, refers⟩ := List.mem_flatMap.mp fresh
        exact step k (before k reached) m refers

/-- From classes up to a number only such classes are reached. -/
theorem Sound.le_of_mem_reachable {ds : Definitions} (sound : Sound ds) {n fuel : Nat} {ns : List Nat}
    (before : ∀ m ∈ ns, m ≤ n) : ∀ m ∈ ds.reachable fuel ns, m ≤ n :=
  of_mem_reachable (fun _ upper _ refers => Nat.le_trans (sound.le_of_mem_referencesOf refers) upper)
    before

/-- A class in which nothing stands for itself is referred to by no class that it leads to. -/
theorem Sound.not_mem_references {ds : Definitions} (sound : Sound ds) {n m : Nat} {c : ClassSchema}
    (found : ds[n]? = some c) (closed : Refers (Allowed m false) c.schema) (fuel : Nat) :
    n ∉ (ds.reachable fuel [n]).flatMap ds.referencesOf := by
  intro member
  obtain ⟨k, reached, refers⟩ := List.mem_flatMap.mp member
  have same : k = n := by
    have upper : k ≤ n := sound.le_of_mem_reachable (by simp) k reached
    have lower : n ≤ k := sound.le_of_mem_referencesOf refers
    omega
  subst same
  rw [referencesOf, found] at refers
  obtain ⟨t, among, number⟩ := List.mem_filterMap.mp refers
  rcases (sound k c found t among).numberOf?_eq number with below | ⟨rfl, -⟩
  · exact absurd below (Nat.lt_irrefl k)
  · exact not_allowed_selfMark m (closed _ among)

/-! ### Opening the root -/

/-- Members are renamed one by one, and keep their keys. -/
theorem renamedMembers_eq_map (rename : Text → Text) (part : Part) (ms : List (Text × Json)) :
    renamedMembers rename part ms
      = ms.map fun m => (m.1, renamedMember rename part m.1 m.2) := by
  induction ms with
  | nil => rfl
  | cons m ms ih => rw [renamedMembers, List.map_cons, ih]

theorem keys_renamedMembers (rename : Text → Text) (part : Part) (ms : List (Text × Json)) :
    (renamedMembers rename part ms).map (·.1) = ms.map (·.1) := by
  rw [renamedMembers_eq_map, List.map_map]
  rfl

/-- What stands under a key is what stood there, renamed. -/
theorem lookup_renamedMembers (rename : Text → Text) (part : Part) (key : Text)
    (ms : List (Text × Json)) :
    Json.lookup key (renamedMembers rename part ms)
      = (Json.lookup key ms).map (renamedMember rename part key) := by
  induction ms with
  | nil => rfl
  | cons m ms ih =>
    rw [renamedMembers, Json.lookup, Json.lookup]
    by_cases same : m.1 = key
    · rw [if_pos same, if_pos same, Option.map_some, same]
    · rw [if_neg same, if_neg same, ih]

/-- Nothing is renamed in a list of texts. -/
theorem renamedItems_texts (rename : Text → Text) (ts : List Text) :
    renamedItems rename (ts.map .text) = ts.map .text := by
  induction ts with
  | nil => rfl
  | cons t ts ih => simp only [List.map_cons, renamedItems, renamed, ih]

theorem lookup_append {key : Text} {ms ns : List (Text × Json)}
    (absent : Json.lookup key ns = none) : Json.lookup key (ms ++ ns) = Json.lookup key ms := by
  induction ms with
  | nil => exact absent
  | cons m ms ih =>
    obtain ⟨k, j⟩ := m
    rw [List.cons_append, Json.lookup, Json.lookup, ih]

theorem opened_referenceTo {ds : Definitions} {n : Nat} {c : ClassSchema} (found : ds[n]? = some c)
    (last : n ∉ (ds.reachable ds.length [n]).flatMap ds.referencesOf) :
    ds.opened (referenceTo n) = c.schema := by
  have alone : ((ds.reachable ds.length [n]).flatMap ds.referencesOf).contains n = false := by
    simpa using last
  unfold opened referenceTo
  simp only [numberOf?_reference, alone, found, decide_true, Bool.not_false, Bool.and_true,
    if_true, Option.map_some, Option.getD_some]

/-- The document of a root that is an object: its members, in which references have names, and the table
of the classes with these names. -/
theorem document?_eq_some {ds : Definitions} {root doc : Json} {ms : List (Text × Json)}
    (members : ds.opened root = .object ms) (h : ds.document? root = some doc) :
    ∃ names, ds.names? (.object ms) = some names ∧
      doc = .object (if names.isEmpty then renamedMembers (namedReference names none) .schema ms
        else Json.put "$defs" (.object (ds.table names))
          (renamedMembers (namedReference names none) .schema ms)) := by
  obtain ⟨names, settled, h⟩ := Option.bind_eq_some_iff.mp h
  rw [members] at settled h
  refine ⟨names, settled, ?_⟩
  simp only [renamed] at h
  split at h
  · next none =>
    rw [if_pos none]
    exact (Option.some.inj h).symm
  · next some =>
    rw [if_neg some]
    exact (Option.some.inj h).symm

end Definitions

namespace Shape

open Definitions

/-! ### What is said of a class -/

section ClassSchema

variable (kind : ClassKind) (name : Text) (extra : Extra) (properties : List (Text × Json))
variable (required : List Text)

/-- A class says of its fields which they are, and which of them must be given. -/
theorem classSchema_eq_object : ∃ ms, classSchema kind name extra properties required = .object ms ∧
    Json.lookup "properties" ms = some (.object properties) ∧
    Json.lookup "required" ms
      = if required.isEmpty then Option.none else some (.array (required.map .text)) := by
  unfold classSchema
  refine ⟨_, rfl, ?_, ?_⟩
  · simp [Json.members, Json.lookup]
  · -- no member after the title stands under this key
    rw [lookup_append, lookup_append]
    · have first : ("properties" : Text) ≠ "required" := by decide
      have second : ("title" : Text) ≠ "required" := by decide
      have third : ("type" : Text) ≠ "required" := by decide
      by_cases none : required.isEmpty = true
      · simp [none, Json.members, Json.lookup, first, second, third]
      · simp [none, Json.members, Json.lookup, first]
    · cases extra <;> rfl
    · split
      · split
        · split <;> rfl
        · rfl
      · rfl

end ClassSchema

/-- A class in which nothing stands for itself is opened at the root. -/
theorem opened_referred {ds : Definitions} {c : ClassSchema} (sound : Sound ds)
    (closed : Refers (Allowed ds.length false) c.schema) :
    (referred c ds).2.opened (referred c ds).1 = c.schema := by
  obtain ⟨-, soundAfter, -, c', found, same⟩ := sound.add (closed.imp fun _ => Allowed.inClass)
  have last := soundAfter.not_mem_references found (same ▸ closed)
  have root := opened_referenceTo found (last _)
  exact root.trans same

/-- A shape has a schema if it can be published, what it publishes of data has no references, and the
names of its classes settle. -/
theorem schema_eq_ok {s : Shape} {doc : Json} (h : s.schema = .ok doc) :
    ∃ root ds, s.published [] = .ok (root, ds) ∧ Clean s.publishedData ∧
      ds.document? root = some doc := by
  obtain ⟨⟨root, ds⟩, made, h⟩ := bind_eq_ok.mp h
  dsimp only at h
  split at h
  · cases h
  · cases h
  next document clean settled =>
    refine ⟨root, ds, made, clean_of_dangling?_eq_none clean, ?_⟩
    exact settled.trans (congrArg some (pure_eq_ok.mp h))

end Shape

end GuardedTools
