import GuardedTools.Proofs.Basic
import GuardedTools.Proofs.Json.Validity
import GuardedTools.Proofs.Shape.Document

/-!
# Names of published classes

A document has a table of exactly the classes that its root leads to (`Definitions.references_used`), and
when the names of these have settled a name stands for one schema (`Definitions.named_eq`).  So a
reference to a class, by its name, leads to the schema of the class (`Definitions.leads_of_mem_used`).
-/

namespace GuardedTools

namespace Definitions

/-! ### Classes that are reached -/

section Reachable

variable {ds : Definitions} {n m : Nat} {ns : List Nat}

theorem subset_reachable (ds : Definitions) (fuel : Nat) (ns : List Nat) :
    ∀ n ∈ ns, n ∈ ds.reachable fuel ns := by
  induction fuel generalizing ns with
  | zero => exact fun n member => member
  | succ fuel ih =>
    intro n member
    rw [reachable]
    split
    · exact member
    · exact ih _ n (List.mem_append_left _ member)

/-- Within a table there are references to classes of the table only. -/
theorem Sound.lt_of_mem_referencesOf (sound : Sound ds) (member : m ∈ ds.referencesOf n) :
    m < ds.length := by
  have below := sound.le_of_mem_referencesOf member
  unfold referencesOf at member
  split at member
  next c found =>
    obtain ⟨inside, -⟩ := List.getElem?_eq_some_iff.mp found
    omega
  next => cases member

/-- The classes that are still to be reached. -/
def missing (ds : Definitions) (ns : List Nat) : List Nat :=
  (List.range ds.length).filter (!ns.contains ·)

/-- Reaching a new class leaves fewer of them. -/
theorem length_missing_lt {added : List Nat} (inside : n < ds.length) (new : n ∉ ns) (found : n ∈ added) :
    (ds.missing (ns ++ added)).length < (ds.missing ns).length := by
  have sub : (ds.missing (ns ++ added)).Sublist (ds.missing ns) := by
    apply List.monotone_filter_right
    intro k missed
    simp only [Bool.not_eq_true', List.contains_eq_mem, decide_eq_false_iff_not, List.mem_append,
      not_or] at missed ⊢
    exact missed.1
  have before : n ∈ ds.missing ns :=
    List.mem_filter.mpr ⟨List.mem_range.mpr inside, by simpa using new⟩
  have after : n ∉ ds.missing (ns ++ added) := by
    intro missed
    have := (List.mem_filter.mp missed).2
    simp [found] at this
  refine Nat.lt_of_le_of_ne sub.length_le fun same => ?_
  exact after (sub.eq_of_length same ▸ before)

/-- What was reached leads to nothing else, if there were steps enough to reach all. -/
theorem Sound.references_reachable (sound : Sound ds) {fuel : Nat}
    (enough : (ds.missing ns).length ≤ fuel) :
    ∀ n ∈ ds.reachable fuel ns, ∀ m ∈ ds.referencesOf n, m ∈ ds.reachable fuel ns := by
  induction fuel generalizing ns with
  | zero =>
    intro n _ m refers
    rw [reachable]
    have none : ds.missing ns = [] := List.length_eq_zero_iff.mp (by omega)
    have := List.filter_eq_nil_iff.mp none m (List.mem_range.mpr (sound.lt_of_mem_referencesOf refers))
    simpa using this
  | succ fuel ih =>
    rw [reachable]
    split
    next none =>
      intro n member m refers
      have fresh := List.filter_eq_nil_iff.mp (List.isEmpty_iff.mp none) m
        (List.mem_flatMap.mpr ⟨n, member, refers⟩)
      simpa using fresh
    next some =>
      apply ih
      have some : (ns.flatMap ds.referencesOf).filter (!ns.contains ·) ≠ [] :=
        fun none => some (List.isEmpty_iff.mpr none)
      obtain ⟨m, fresh⟩ := List.exists_mem_of_ne_nil _ some
      obtain ⟨refers, new⟩ := List.mem_filter.mp fresh
      obtain ⟨n, -, refers⟩ := List.mem_flatMap.mp refers
      have less := @length_missing_lt ds _ _ _ (sound.lt_of_mem_referencesOf refers) (by simpa using new)
        (List.mem_eraseDups.mpr fresh)
      omega

end Reachable

/-- The classes that a schema leads to are those that it refers to and those that they refer to. -/
theorem Sound.references_used {ds : Definitions} (sound : Sound ds) (schema : Json) :
    (∀ n ∈ references none schema, n ∈ ds.used schema) ∧
      ∀ n ∈ ds.used schema, ∀ m ∈ ds.referencesOf n, m ∈ ds.used schema := by
  constructor
  · intro n refers
    exact subset_reachable ds _ _ n (List.mem_eraseDups.mpr refers)
  · refine sound.references_reachable ?_
    have all := List.length_filter_le (!(references none schema).eraseDups.contains ·)
      (List.range ds.length)
    rw [List.length_range] at all
    exact all

/-! ### Names that have settled -/

section Settled

variable {ds : Definitions} {candidates cs : List (Nat × List Text)} {names names' : List (Nat × Text)}

/-- Each class has a name of its own choice. -/
theorem namesOf?_eq_some (h : ds.namesOf? candidates names cs = some names') :
    List.Forall₂ (fun c n => n.1 = c.1 ∧ ds.nameOf? candidates names c.2 = some n.2) cs names' := by
  induction cs generalizing names' with
  | nil =>
    cases h
    exact .nil
  | cons c cs ih =>
    obtain ⟨n, own⟩ := c
    obtain ⟨name, chosen, h⟩ := Option.bind_eq_some_iff.mp h
    obtain ⟨rest, others, h⟩ := Option.bind_eq_some_iff.mp h
    obtain rfl := Option.some.inj h
    exact .cons ⟨rfl, chosen⟩ (ih others)

/-- Names have settled when they are chosen again. -/
theorem settleNames_eq_some {fuel : Nat} {start : List (Nat × Text)}
    (h : ds.settleNames candidates fuel start = some names) :
    ds.namesOf? candidates names candidates = some names := by
  induction fuel generalizing start with
  | zero => cases h
  | succ fuel ih =>
    obtain ⟨next, chosen, h⟩ := Option.bind_eq_some_iff.mp h
    split at h
    next same =>
      obtain rfl := Option.some.inj h
      rw [eq_of_beq same] at chosen
      exact chosen
    next => exact ih h

theorem eq_of_areOne {js : List Json} (h : areOne js = true) {j k : Json} (first : j ∈ js)
    (second : k ∈ js) : j = k := by
  obtain _ | ⟨l, js⟩ := js
  · cases first
  · have all : ∀ m ∈ l :: js, l = m := by
      intro m member
      rcases List.mem_cons.mp member with rfl | member
      · rfl
      · exact Json.eq_of_same (List.all_eq_true.mp h m member)
    rw [← all j first, all k second]

/-- A name that has settled stands for one schema. -/
theorem named_eq (settled : ds.namesOf? candidates names candidates = some names) {n m : Nat} {name : Text}
    (first : (n, name) ∈ names) (second : (m, name) ∈ names) :
    (ds.namedSchema names n).sortKeys = (ds.namedSchema names m).sortKeys := by
  have chosen : ∀ k, (k, name) ∈ names →
      areOne (ds.schemasOf candidates names name) = true ∧
        (ds.namedSchema names k).sortKeys ∈ ds.schemasOf candidates names name := by
    intro k member
    obtain ⟨⟨k', own⟩, among, rfl, chosen⟩ := exists_left_of_mem (namesOf?_eq_some settled) member
    have clear : areOne (ds.schemasOf candidates names name) = true :=
      @List.find?_some _ (fun name => areOne (ds.schemasOf candidates names name)) _ _ chosen
    refine ⟨clear, List.mem_map.mpr ⟨_, List.mem_filter.mpr ⟨among, ?_⟩, rfl⟩⟩
    exact List.contains_iff_mem.mpr (List.mem_of_find?_eq_some chosen)
  exact eq_of_areOne (chosen n first).1 (chosen n first).2 (chosen m second).2

end Settled

/-! ### The table of a document -/

/-- What a table has under a name is the schema of a class with that name. -/
theorem lookup_table (ds : Definitions) {names : List (Nat × Text)} {n : Nat} {name : Text}
    (member : (n, name) ∈ names) :
    ∃ m, (m, name) ∈ names ∧ Json.lookup name (ds.table names) = some (ds.namedSchema names m) := by
  have each : ∀ (ns : List (Nat × Text)) (ms : List (Text × Json)), (∀ n ∈ ns, n ∈ names) →
      ((∃ m, (m, name) ∈ names ∧ Json.lookup name ms = some (ds.namedSchema names m)) ∨
        ∃ n ∈ ns, n.2 = name) →
      ∃ m, (m, name) ∈ names ∧
        Json.lookup name (ns.foldl (fun ms n => Json.put n.2 (ds.namedSchema names n.1) ms) ms)
          = some (ds.namedSchema names m) := by
    intro ns
    induction ns with
    | nil =>
      rintro ms - (found | ⟨_, ⟨⟩, _⟩)
      exact found
    | cons n ns ih =>
      intro ms among h
      rw [List.forall_mem_cons] at among
      apply ih _ among.2
      by_cases same : n.2 = name
      · refine Or.inl ⟨n.1, same ▸ among.1, ?_⟩
        rw [← same, Json.lookup_put_self]
      · rw [Json.lookup_put_ne same]
        refine h.imp_right ?_
        rintro ⟨m, member, named⟩
        rcases List.mem_cons.mp member with rfl | member
        · exact absurd named same
        · exact ⟨m, member, named⟩
  exact each names [] (fun n member => member) (Or.inr ⟨_, member, rfl⟩)

/-- References to the class of a number, under whatever name, lead to its schema. -/
def Leads (ds : Definitions) (target? : Text → Option Json) (names : List (Nat × Text)) (n : Nat) : Prop :=
  ∃ c, ds[n]? = some c ∧ ∀ self t, numberOf? self t = some n →
    target? (namedReference names self t)
      = some (renamed (namedReference names (some n)) c.schema).sortKeys

section Document

variable {ds : Definitions} {root doc : Json} {ms : List (Text × Json)}

/-- The classes that a schema leads to have names. -/
theorem names?_eq_some {schema : Json} {names : List (Nat × Text)} (h : ds.names? schema = some names)
    {n : Nat} (used : n ∈ ds.used schema) (inside : n < ds.length) :
    ∃ name, names.find? (·.1 == n) = some (n, name) := by
  have settled := namesOf?_eq_some (settleNames_eq_some h)
  have candidate : (n, (ds[n]).candidates (ds.occurrence n ds[n])) ∈
      ((List.range ds.length).filter (ds.used schema).contains).filterMap fun n =>
        (ds[n]?).map fun c => (n, c.candidates (ds.occurrence n c)) := by
    refine List.mem_filterMap.mpr ⟨n, ?_, by rw [List.getElem?_eq_getElem inside, Option.map_some]⟩
    exact List.mem_filter.mpr ⟨List.mem_range.mpr inside, List.contains_iff_mem.mpr used⟩
  obtain ⟨m, among, same, -⟩ := exists_right_of_mem settled candidate
  have some : (names.find? (·.1 == n)).isSome = true :=
    List.find?_isSome.mpr ⟨m, among, beq_iff_eq.mpr same⟩
  obtain ⟨found, isFound⟩ := Option.isSome_iff_exists.mp some
  have number : found.1 = n := by simpa using List.find?_some isFound
  exact ⟨found.2, number ▸ isFound⟩

theorem namedReference_eq {names : List (Nat × Text)} {self : Option Nat} {t name : Text} {n : Nat}
    (number : numberOf? self t = some n) (found : names.find? (·.1 == n) = some (n, name)) :
    namedReference names self t = referenceStart ++ name := by
  rw [namedReference, number, Option.bind_some, found]

/-- A reference to a name leads to what the table of the document has under it. -/
theorem target?_name {doc : Json} {table : List (Text × Json)}
    (defined : doc.get? "$defs" = some (.object table)) (name : Text) :
    Json.target? doc.sortKeys (referenceStart ++ name) = (Json.lookup name table).map Json.sortKeys := by
  have other : referenceStart ++ name ≠ "#" := by
    intro same
    have lengths := congrArg (fun t => t.points.length) same
    have points : (referenceStart ++ name).points = referenceStart.points ++ name.points := rfl
    simp only [points, List.length_append] at lengths
    have long : referenceStart.points.length = 8 := rfl
    have short : (("#" : Text)).points.length = 1 := rfl
    omega
  have starts : (referenceStart ++ name).startsWith "#/$defs/" = true := by
    rw [Text.startsWith, List.isPrefixOf_iff_prefix]
    exact List.prefix_append _ _
  have rest : (referenceStart ++ name).drop 8 = name := rfl
  rw [Json.target?, if_neg other, if_pos starts, Json.get?_sortKeys, defined, rest, Option.map_some,
    Option.bind_some, Json.get?_sortKeys, Json.get?]

/-- In a document references to the classes that its root leads to lead to their schemas. -/
theorem leads_of_mem_used {names : List (Nat × Text)} (members : ds.opened root = .object ms)
    (h : ds.document? root = some doc) (settled : ds.names? (.object ms) = some names)
    {n : Nat} (used : n ∈ ds.used (.object ms)) (inside : n < ds.length) :
    ds.Leads (Json.target? doc.sortKeys) names n := by
  obtain ⟨names', settled', rfl⟩ := document?_eq_some members h
  obtain rfl := Option.some.inj (settled.symm.trans settled')
  obtain ⟨name, found⟩ := names?_eq_some settled used inside
  have member : (n, name) ∈ names := List.mem_of_find?_eq_some found
  obtain ⟨m, among, defined⟩ := lookup_table ds member
  have one := named_eq (settleNames_eq_some settled) among member
  have some : ¬names.isEmpty = true := by
    rw [List.isEmpty_iff]
    exact List.ne_nil_of_mem member
  refine ⟨ds[n], List.getElem?_eq_getElem inside, fun self t number => ?_⟩
  rw [namedReference_eq number found]
  rw [target?_name (by rw [if_neg some, Json.get?, Json.lookup_put_self]), defined, Option.map_some, one,
    namedSchema, List.getElem?_eq_getElem inside]

end Document

end Definitions

end GuardedTools
