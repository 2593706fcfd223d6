import GuardedTools.Proofs.Json.Validity
import GuardedTools.Proofs.Shape.Heeded
import GuardedTools.Proofs.TypeTag.Search
import Mathlib.Data.List.Basic

/-!
# Depth of published types

A value is not written if an integer in it has too many digits or it is nested too deeply
(`Json.of_canonicalText_eq_error`), and the search for the compact name of a type gives up at a depth.  A
reference that the search follows leads into the table of classes, and every class ends the search
(`Definitions.TellsKind.endsSearch`), whether or not it refers to itself.  So a type whose name is not found
for its depth is published as a schema that is as deep (`Shape.isDue_of_nameOfDocument`): classes that hold
one another do not keep the search from its end, although definitions that refer to one another may
(`TypeTag.search_exact`).
-/

namespace GuardedTools

namespace Json

/-! ### Depth -/

mutual

/-- How deeply arrays and objects are nested in a value. -/
def depth : Json → Nat
  | array items => depthOfItems items + 1
  | object members => depthOfMembers members + 1
  | _ => 0

def depthOfItems : List Json → Nat
  | [] => 0
  | x :: xs => max x.depth (depthOfItems xs)

def depthOfMembers : List (Text × Json) → Nat
  | [] => 0
  | (_, x) :: ms => max x.depth (depthOfMembers ms)

end

mutual

/-- The integers in a value. -/
def integers : Json → List Int
  | int n => [n]
  | array items => integersOfItems items
  | object members => integersOfMembers members
  | _ => []

def integersOfItems : List Json → List Int
  | [] => []
  | x :: xs => x.integers ++ integersOfItems xs

def integersOfMembers : List (Text × Json) → List Int
  | [] => []
  | (_, x) :: ms => x.integers ++ integersOfMembers ms

end

variable {j : Json} {js : List Json} {ms ns : List (Text × Json)} {n : Int}

theorem depthOfItems_le {d : Nat} : depthOfItems js ≤ d ↔ ∀ j ∈ js, j.depth ≤ d := by
  induction js with
  | nil => exact iff_of_true (Nat.zero_le _) (List.forall_mem_nil _)
  | cons j js ih => rw [depthOfItems, Nat.max_le, ih, List.forall_mem_cons]

theorem depthOfMembers_le {d : Nat} : depthOfMembers ms ≤ d ↔ ∀ m ∈ ms, m.2.depth ≤ d := by
  induction ms with
  | nil => exact iff_of_true (Nat.zero_le _) (List.forall_mem_nil _)
  | cons m ms ih => rw [depthOfMembers, Nat.max_le, ih, List.forall_mem_cons]

theorem depth_le_depthOfItems (member : j ∈ js) : j.depth ≤ depthOfItems js :=
  depthOfItems_le.mp (Nat.le_refl _) j member

theorem depth_le_of_lookup {key : Text} (found : lookup key ms = some j) :
    j.depth ≤ depthOfMembers ms :=
  depthOfMembers_le.mp (Nat.le_refl _) _ (mem_of_lookup found)

theorem mem_integersOfItems : n ∈ integersOfItems js ↔ ∃ j ∈ js, n ∈ j.integers := by
  induction js with
  | nil => exact iff_of_false (List.not_mem_nil) (by rintro ⟨_, ⟨⟩, _⟩)
  | cons j js ih => rw [integersOfItems, List.mem_append, ih, List.exists_mem_cons_iff]

theorem mem_integersOfMembers : n ∈ integersOfMembers ms ↔ ∃ m ∈ ms, n ∈ m.2.integers := by
  induction ms with
  | nil => exact iff_of_false (List.not_mem_nil) (by rintro ⟨_, ⟨⟩, _⟩)
  | cons m ms ih => rw [integersOfMembers, List.mem_append, ih, List.exists_mem_cons_iff]

/-- The order of members decides nothing about the depth. -/
theorem depthOfMembers_perm (perm : ms.Perm ns) : depthOfMembers ms = depthOfMembers ns := by
  refine Nat.le_antisymm (depthOfMembers_le.mpr fun m member => ?_)
    (depthOfMembers_le.mpr fun m member => ?_)
  · exact depthOfMembers_le.mp (Nat.le_refl _) m (perm.mem_iff.mp member)
  · exact depthOfMembers_le.mp (Nat.le_refl _) m (perm.mem_iff.mpr member)

mutual

theorem depth_sortKeys (j : Json) : j.sortKeys.depth = j.depth := by
  match j with
  | array js => exact congrArg (· + 1) (depthOfItems_sortKeys js)
  | object ms =>
    refine congrArg (· + 1) ?_
    rw [depthOfMembers_perm (List.mergeSort_perm _ _)]
    exact depthOfMembers_sortKeys ms
  | null | bool _ | int _ | float _ | text _ => rfl

theorem depthOfItems_sortKeys (js : List Json) : depthOfItems (sortKeysItems js) = depthOfItems js := by
  match js with
  | [] => rfl
  | j :: js => rw [sortKeysItems, depthOfItems, depthOfItems, depth_sortKeys j, depthOfItems_sortKeys js]

theorem depthOfMembers_sortKeys (ms : List (Text × Json)) :
    depthOfMembers (sortKeysMembers ms) = depthOfMembers ms := by
  match ms with
  | [] => rfl
  | (_, j) :: ms =>
    rw [sortKeysMembers, depthOfMembers, depthOfMembers, depth_sortKeys j, depthOfMembers_sortKeys ms]

end

mutual

/-- The order of members decides nothing about which integers there are. -/
theorem mem_integers_sortKeys (j : Json) : n ∈ j.sortKeys.integers ↔ n ∈ j.integers := by
  match j with
  | array js => exact mem_integersOfItems_sortKeys js
  | object ms =>
    refine Iff.trans ?_ (mem_integersOfMembers_sortKeys ms)
    rw [sortKeys, integers, mem_integersOfMembers, mem_integersOfMembers]
    simp only [(List.mergeSort_perm (sortKeysMembers ms) _).mem_iff]
  | null | bool _ | int _ | float _ | text _ => exact Iff.rfl

theorem mem_integersOfItems_sortKeys (js : List Json) :
    n ∈ integersOfItems (sortKeysItems js) ↔ n ∈ integersOfItems js := by
  match js with
  | [] => exact Iff.rfl
  | j :: js =>
    rw [sortKeysItems, integersOfItems, integersOfItems, List.mem_append, List.mem_append,
      mem_integers_sortKeys j, mem_integersOfItems_sortKeys js]

theorem mem_integersOfMembers_sortKeys (ms : List (Text × Json)) :
    n ∈ integersOfMembers (sortKeysMembers ms) ↔ n ∈ integersOfMembers ms := by
  match ms with
  | [] => exact Iff.rfl
  | (_, j) :: ms =>
    rw [sortKeysMembers, integersOfMembers, integersOfMembers, List.mem_append, List.mem_append,
      mem_integers_sortKeys j, mem_integersOfMembers_sortKeys ms]

end

/-! ### Values that are not written -/

/-- What keeps a value from being written where arrays and objects may be nested `limit` times: an integer
of too many digits in it, or its depth. -/
inductive Hindered (limit : Nat) (j : Json) : WriteFault → Prop where
  | tooManyDigits {n : Int} (among : n ∈ j.integers) (long : isWritten n = false) :
    Hindered limit j .tooManyDigits
  | tooDeep (deep : limit < j.depth) : Hindered limit j .tooDeep

variable {limit : Nat} {fault : WriteFault}

theorem Hindered.array (h : ∃ j ∈ js, Hindered limit j fault) : Hindered (limit + 1) (array js) fault := by
  obtain ⟨j, member, ⟨among, long⟩ | deep⟩ := h
  · exact .tooManyDigits (mem_integersOfItems.mpr ⟨j, member, among⟩) long
  · exact .tooDeep (Nat.succ_lt_succ (Nat.lt_of_lt_of_le deep (depth_le_depthOfItems member)))

theorem Hindered.object (h : ∃ m ∈ ms, Hindered limit m.2 fault) :
    Hindered (limit + 1) (object ms) fault := by
  obtain ⟨m, member, ⟨among, long⟩ | deep⟩ := h
  · exact .tooManyDigits (mem_integersOfMembers.mpr ⟨m, member, among⟩) long
  · refine .tooDeep (Nat.succ_lt_succ (Nat.lt_of_lt_of_le deep ?_))
    exact depthOfMembers_le.mp (Nat.le_refl _) m member

/-- The order of members does not keep a value from being written. -/
theorem Hindered.of_sortKeys (h : Hindered limit j.sortKeys fault) : Hindered limit j fault := by
  obtain ⟨among, long⟩ | deep := h
  · exact .tooManyDigits ((mem_integers_sortKeys j).mp among) long
  · exact .tooDeep (depth_sortKeys j ▸ deep)

mutual

theorem hindered_of_writeFault? {j : Json} {limit : Nat} (h : j.writeFault? limit = some fault) :
    Hindered limit j fault := by
  match j, limit with
  | int n, limit =>
    rw [writeFault?] at h
    split at h
    · cases h
    next long =>
      cases h
      exact .tooManyDigits List.mem_cons_self (Bool.eq_false_iff.mpr long)
  | array js, 0 =>
    cases h
    exact .tooDeep (Nat.succ_pos _)
  | object ms, 0 =>
    cases h
    exact .tooDeep (Nat.succ_pos _)
  | array js, limit + 1 => exact .array (hindered_of_writeFaultItems? h)
  | object ms, limit + 1 => exact .object (hindered_of_writeFaultMembers? h)
  | null, _ | bool _, _ | float _, _ | text _, _ => cases h

theorem hindered_of_writeFaultItems? {js : List Json} {limit : Nat}
    (h : writeFaultItems? limit js = some fault) : ∃ j ∈ js, Hindered limit j fault := by
  match js with
  | [] => cases h
  | j :: js =>
    rw [writeFaultItems?, Option.orElse_eq_orElse, Option.orElse_eq_or, Option.or_eq_some_iff] at h
    refine (List.exists_mem_cons_iff _ _ _).mpr (h.imp hindered_of_writeFault? ?_)
    exact fun h => hindered_of_writeFaultItems? h.2

theorem hindered_of_writeFaultMembers? {ms : List (Text × Json)} {limit : Nat}
    (h : writeFaultMembers? limit ms = some fault) : ∃ m ∈ ms, Hindered limit m.2 fault := by
  match ms with
  | [] => cases h
  | (_, j) :: ms =>
    rw [writeFaultMembers?, Option.orElse_eq_orElse, Option.orElse_eq_or, Option.or_eq_some_iff] at h
    refine (List.exists_mem_cons_iff _ _ _).mpr (h.imp hindered_of_writeFault? ?_)
    exact fun h => hindered_of_writeFaultMembers? h.2

end

/-- A value that is not written has a number of too many digits or is nested too deeply. -/
theorem of_canonicalText_eq_error (h : j.canonicalText = .error fault) :
    Hindered writeDepth j fault := by
  unfold canonicalText at h
  split at h
  next first found =>
    cases sorted : j.sortKeys.writeFault? writeDepth with
    | none =>
      rw [sorted] at h
      exact Except.error.inj h ▸ hindered_of_writeFault? found
    | some told =>
      rw [sorted] at h
      exact Except.error.inj h ▸ (hindered_of_writeFault? sorted).of_sortKeys
  next => cases h

/-- A value is in another one: less deep, and with no integers of its own. -/
structure Under (k j : Json) : Prop where
  depth : k.depth < j.depth
  integers : ∀ n ∈ k.integers, n ∈ j.integers

theorem Under.of_lookup {key : Text} (found : lookup key ms = some j) : Under j (object ms) where
  depth := Nat.lt_succ_of_le (depth_le_of_lookup found)
  integers _ among := mem_integersOfMembers.mpr ⟨_, mem_of_lookup found, among⟩

theorem Under.of_mem (member : j ∈ js) : Under j (array js) where
  depth := Nat.lt_succ_of_le (depth_le_depthOfItems member)
  integers _ among := mem_integersOfItems.mpr ⟨j, member, among⟩

theorem Under.trans {i k : Json} (h : Under i j) (h' : Under j k) : Under i k where
  depth := h.depth.trans h'.depth
  integers n among := h'.integers n (h.integers n among)

theorem Hindered.of_under {k : Json} (under : Under k j) (h : Hindered limit k fault) :
    Hindered limit j fault := by
  obtain ⟨among, long⟩ | deep := h
  · exact .tooManyDigits (under.integers _ among) long
  · exact .tooDeep (deep.trans under.depth)

end Json

/-! ### The search for a name -/

namespace TypeTag

open Json

/-- A schema ends the search for its name: there is one, whatever definitions there are. -/
def EndsSearch (j : Json) : Prop :=
  ∀ definitions depth, ∃ name, nameOf definitions (depth + 1) j = .ok name

/-- What a fault of the search for the name of a schema says about the schema. -/
def IsDue (fuel : Nat) (j : Json) : TagFault → Prop
  | .tooDeep => fuel ≤ j.depth
  | .unwritten fault => Hindered writeDepth j fault
  | _ => True

/-- The definitions in a schema. -/
def definitionsOf (schema : Json) : List (Text × Json) :=
  ((schema.get? "$defs").bind Json.object?).getD []

variable {definitions : List (Text × Json)} {fuel : Nat} {j k : Json} {fault : TagFault}
variable {ms : List (Text × Json)}

theorem IsDue.of_under (under : Under k j) (h : IsDue fuel k fault) : IsDue (fuel + 1) j fault := by
  cases fault with
  | tooDeep => exact Nat.lt_of_le_of_lt h under.depth
  | unwritten fault => exact h.of_under under
  | _ => trivial

theorem Contains.under (h : Contains ms k) : Under k (.object ms) := by
  cases h with
  | member _ found => exact .of_lookup found
  | variant _ found among => exact (Under.of_mem among).trans (.of_lookup found)

theorem Tells.isDue (h : Tells j fault) : IsDue fuel j fault := by
  cases h with
  | unwritten failed => exact of_canonicalText_eq_error failed
  | _ => trivial

/-- Where definitions end the search, it goes no deeper than the schema. -/
theorem isDue_of_nameOf
    (ends : ∀ key j, lookup key definitions = some j → j = .null ∨ EndsSearch j)
    (h : nameOf definitions fuel j = .error fault) : IsDue fuel j fault := by
  induction fuel generalizing j fault with
  | zero => exact Except.error.inj h ▸ Nat.zero_le _
  | succ fuel ih =>
    rcases settled_or_awaits h with settled | ⟨k, awaits, failed⟩
    · exact (step_tells settled).isDue
    obtain ⟨ms, rfl, inner | ⟨key, led, notNull⟩⟩ := awaits.exists_object
    · exact (ih failed).of_under inner.under
    -- the search ends in a class, unless it is over before
    cases fuel with
    | zero =>
      cases failed
      exact Nat.succ_pos _
    | succ fuel =>
      obtain ⟨name, named⟩ := (ends _ _ led).resolve_left notNull definitions fuel
      cases failed.symm.trans named

end TypeTag

/-! ### Classes end the search -/

namespace Definitions

open Json

/-- What is published of a class: the members of an enumeration, or the properties of an object.  Neither
refers to anything itself, and neither has definitions. -/
structure TellsKind (ms : List (Text × Json)) : Prop where
  reference : lookup "$ref" ms = none
  table : lookup "$defs" ms = none
  kind : (lookup "enum" ms).isSome = true ∨
    lookup "anyOf" ms = none ∧ lookup "oneOf" ms = none ∧ lookup "type" ms = some (.text "object") ∧
      (lookup "properties" ms).isSome = true

variable {ds : Definitions} {ms : List (Text × Json)}

theorem TellsKind.renamed (h : TellsKind ms) (rename : Text → Text) :
    TellsKind (renamedMembers rename .schema ms) where
  reference := by rw [lookup_renamedMembers, h.reference, Option.map_none]
  table := by rw [lookup_renamedMembers, h.table, Option.map_none]
  kind := by
    refine h.kind.imp (fun members => ?_) fun ⟨anyOf, oneOf, type, properties⟩ => ?_
    · rw [lookup_renamedMembers, Option.isSome_map, members]
    · simp only [lookup_renamedMembers, anyOf, oneOf, type, Option.map_none, Option.map_some,
        Option.isSome_map, properties, renamedMember, true_and, and_true]
      exact congrArg _ (congrArg _ (if_neg (by decide)))

/-- The name of a class. -/
def kindName (ms : List (Text × Json)) : Text :=
  if (lookup "enum" ms).isSome || (lookup "const" ms).isSome then "enum"
  else match TypeTag.titleOf (lookup "title" ms) with
    | some title => "object:" ++ title
    | none => "object"

theorem TellsKind.step (h : TellsKind ms) (definitions : List (Text × Json)) :
    TypeTag.step definitions (.object ms) = .settled (.ok (kindName ms)) := by
  have some : ms.isEmpty = false := by
    cases ms with
    | cons m ms => rfl
    | nil => rcases h.kind with members | ⟨-, -, -, properties⟩ <;> contradiction
  have elsewhere (t : Text) : lookup "$ref" ms ≠ .some (.text t) := by
    rw [h.reference]
    exact Option.some_ne_none _ |>.symm
  rw [TypeTag.step_plain some elsewhere, TypeTag.stepPlain, kindName]
  split
  · rfl
  next plain =>
    rcases h.kind with members | ⟨anyOf, oneOf, type, properties⟩
    · rw [members] at plain
      exact absurd rfl plain
    rw [TypeTag.alternatives?_eq_none anyOf oneOf, type]
    dsimp only
    rw [TypeTag.stepTyped, if_neg (by decide), if_pos rfl, if_pos properties]
    cases TypeTag.titleOf (lookup "title" ms) <;> rfl

theorem TellsKind.endsSearch (h : TellsKind ms) : TypeTag.EndsSearch (.object ms) := by
  intro definitions depth
  exact ⟨kindName ms, by rw [TypeTag.nameOf_succ, h.step]; rfl⟩

/-- Every class tells its kind. -/
def TellKinds (ds : Definitions) : Prop := ∀ c ∈ ds, ∃ ms, c.schema = .object ms ∧ TellsKind ms

theorem TellKinds.add {c : ClassSchema} (h : ds.TellKinds)
    (tells : ∃ ms, c.schema = .object ms ∧ TellsKind ms) : (ds.add c).2.TellKinds := by
  unfold Definitions.add
  split
  · exact h
  · exact List.forall_mem_append.mpr ⟨h, List.forall_mem_singleton.mpr tells⟩

theorem TellKinds.namedSchema (h : ds.TellKinds) (names : List (Nat × Text)) (n : Nat) :
    ds.namedSchema names n = .null ∨ TypeTag.EndsSearch (ds.namedSchema names n) := by
  unfold Definitions.namedSchema
  split
  next c found =>
    obtain ⟨ms, same, tells⟩ := h c (List.mem_of_getElem? found)
    rw [same]
    exact Or.inr (tells.renamed _).endsSearch
  next => exact Or.inl rfl

/-- Whatever stands in the table of a document is the schema of a class. -/
theorem mem_table {names : List (Nat × Text)} {m : Text × Json} (member : m ∈ ds.table names) :
    ∃ n, m.2 = ds.namedSchema names n := by
  have each : ∀ (ns : List (Nat × Text)) (ms : List (Text × Json)),
      (∀ m ∈ ms, ∃ n, m.2 = ds.namedSchema names n) →
      ∀ m ∈ ns.foldl (fun ms n => Json.put n.2 (ds.namedSchema names n.1) ms) ms,
        ∃ n, m.2 = ds.namedSchema names n := by
    intro ns
    induction ns with
    | nil => exact fun ms h => h
    | cons n ns ih =>
      refine fun ms h => ih _ fun m member => ?_
      rcases mem_put member with rfl | before
      · exact ⟨n.1, rfl⟩
      · exact h m before
  exact each names [] (List.forall_mem_nil _) m member

end Definitions

namespace Shape

open Json Definitions

/-! ### Schemas without a table -/

/-- A schema that says something else than alternatives, and has no definitions. -/
def IsBare (j : Json) : Prop :=
  ∃ ms, j = .object ms ∧ (∀ js, ms ≠ [(("anyOf" : Text), Json.array js)]) ∧ ∀ m ∈ ms, m.1 ≠ "$defs"

/-- None of the alternatives of a schema has definitions. -/
def Tableless (j : Json) : Prop := ∀ k ∈ j.alternatives, IsBare k

variable {ds ds' : Definitions} {j : Json} {js : List Json} {ms ns : List (Text × Json)} {inClass : Bool}

theorem IsBare.of_member {k : Text} (member : (k, j) ∈ ms) (other : k ≠ "anyOf")
    (keys : ∀ m ∈ ms, m.1 ≠ "$defs") : IsBare (.object ms) := by
  obtain ⟨_, same, plain⟩ := IsSchema.isPlain_of_member member other
  cases same
  exact ⟨ms, rfl, plain, keys⟩

theorem IsBare.tableless (h : IsBare j) : Tableless j := by
  obtain ⟨ms, rfl, plain, keys⟩ := h
  rw [Tableless, IsSchema.alternatives_eq ⟨ms, rfl, plain⟩]
  exact List.forall_mem_singleton.mpr ⟨ms, rfl, plain, keys⟩

theorem Tableless.exists_object (h : Tableless j) : ∃ ms, j = .object ms ∧ ∀ m ∈ ms, m.1 ≠ "$defs" := by
  unfold Tableless Json.alternatives at h
  split at h
  next key members =>
    split at h
    next named =>
      refine ⟨_, rfl, List.forall_mem_singleton.mpr ?_⟩
      rw [named]
      exact (by decide : ("anyOf" : Text) ≠ "$defs")
    next =>
      obtain ⟨ms, same, -, keys⟩ := h _ List.mem_cons_self
      exact ⟨ms, same, keys⟩
  next =>
    obtain ⟨ms, same, -, keys⟩ := h _ List.mem_cons_self
    exact ⟨ms, same, keys⟩

theorem tableless_anyOf (h : ∀ j ∈ js, Tableless j) : Tableless (anyOf js) := by
  obtain ⟨ks, all, single | several⟩ := IsSchema.of_mem_anyOf h
  · exact (all _ (single ▸ List.mem_cons_self)).tableless
  · rw [several, Tableless, IsSchema.alternatives_anyOf]
    exact all

theorem Tableless.withMembers (h : Tableless j) (keys : ∀ n ∈ ns, n.1 ≠ "anyOf" ∧ n.1 ≠ "$defs") :
    Tableless (j.withMembers ns) := by
  obtain ⟨ms, rfl, bare⟩ := h.exists_object
  cases ns with
  | nil => exact h
  | cons n ns =>
    -- the first of them stays in some form, so that there is more than alternatives
    have stays : ∃ m ∈ (n :: ns).foldl (fun ms n => put n.1 n.2 ms) ms, m.1 = n.1 :=
      exists_mem_foldl_put List.mem_cons_self
    obtain ⟨m, member, named⟩ := stays
    have other : m.1 ≠ "anyOf" := named ▸ (keys n List.mem_cons_self).1
    refine IsBare.tableless (.of_member member other fun m member => ?_)
    rcases mem_of_mem_foldl_put member with new | before
    · exact (keys m new).2
    · exact bare m before

/-! ### Published schemas -/

theorem optionalMember_ne_defs {name : String} {value : Option Json}
    (other : Text.ofString name ≠ "$defs") : ∀ m ∈ optionalMember name value, m.1 ≠ "$defs" := by
  intro m member
  rw [key_of_mem_optionalMember member]
  exact other

theorem lengthMembers_ne_defs {least most : String} (l : LengthLimits)
    (other : Text.ofString least ≠ "$defs") (other' : Text.ofString most ≠ "$defs") :
    ∀ m ∈ lengthMembers least most l, m.1 ≠ "$defs" :=
  List.forall_mem_append.mpr ⟨optionalMember_ne_defs other, optionalMember_ne_defs other'⟩

theorem limitMembers_ne_defs (form : Limit → Option Json) (l : Limits) :
    ∀ m ∈ limitMembers form l, m.1 ≠ "$defs" := by
  intro m member
  have others : ∀ key ∈ limitKeys, key ≠ "$defs" := by simp [limitKeys]
  exact others _ (key_of_mem_limitMembers member)

/-- A schema whose type is told first has no definitions unless they follow. -/
theorem isBare_type {name : String} (others : ∀ m ∈ ms, m.1 ≠ "$defs") :
    IsBare (.object (schemaType name ++ ms)) := by
  refine .of_member (List.mem_append_left _ (mem_schemaType name)) (by decide) ?_
  exact List.forall_mem_append.mpr ⟨by simp [schemaType, members], others⟩

theorem isBare_schemaType (name : String) : IsBare (.object (schemaType name)) := by
  have bare : IsBare (.object (schemaType name ++ [])) := isBare_type (List.forall_mem_nil _)
  rwa [List.append_nil] at bare

theorem forall_mem_ite {c : Prop} [Decidable c] {P : Text × Json → Prop} (h : ∀ m ∈ ms, P m) :
    ∀ m ∈ (if c then ms else []), P m := by
  split
  · exact h
  · exact List.forall_mem_nil _

theorem tableless_formatted (format : String) : Tableless (formatted format) :=
  IsBare.tableless (.of_member (k := "format") List.mem_cons_self (by decide) (by simp [members]))

theorem tableless_reference (t : Text) : Tableless (.object [("$ref", .text t)]) :=
  IsBare.tableless (.of_member (k := "$ref") List.mem_cons_self (by decide)
    (List.forall_mem_singleton.mpr (by decide : ("$ref" : Text) ≠ "$defs")))

theorem tellsKind_enumSchema (name : Text) (members : List (Text × Value)) :
    ∃ ms, enumSchema name members = .object ms ∧ TellsKind ms := by
  refine ⟨_, rfl, ?_, ?_, ?_⟩ <;>
    cases Json.commonType (members.map fun m => publishedValue m.2) <;>
    simp +decide [Json.members, lookup, optionalMember]

theorem tellsKind_classSchema (kind : ClassKind) (name : Text) (extra : Extra)
    (properties : List (Text × Json)) (required : List Text) :
    ∃ ms, classSchema kind name extra properties required = .object ms ∧ TellsKind ms := by
  obtain ⟨description, same⟩ := @classSchema_eq_classMembers kind name extra properties required
  refine ⟨_, same, ?_, ?_, Or.inr ⟨?_, ?_, (classMembers_plain _ description).2.1, ?_⟩⟩ <;>
    by_cases none : required.isEmpty = true <;> cases extra <;> cases description <;>
    simp +decide [classMembers, none, members, lookup, optionalMember]

/-- What is known of a schema that was made, and of the classes found then: it has no definitions, and
they tell their kinds. -/
structure Searchable (ds : Definitions) (j : Json) : Prop where
  classes : ds.TellKinds
  root : Tableless j

theorem Searchable.referred {c : ClassSchema} (classes : ds.TellKinds)
    (tells : ∃ ms, c.schema = .object ms ∧ TellsKind ms) :
    Searchable (referred c ds).2 (referred c ds).1 :=
  ⟨classes.add tells, tableless_reference _⟩

theorem tableless_dictSchema (key value : Json) (length : LengthLimits) :
    Tableless (dictSchema key value length) := by
  unfold dictSchema
  dsimp only
  refine IsBare.tableless (.of_member (k := "type") List.mem_cons_self (by decide) ?_)
  refine List.forall_mem_append.mpr ⟨List.forall_mem_append.mpr ⟨List.forall_mem_append.mpr
    ⟨by simp [members], ?_⟩, ?_⟩, lengthMembers_ne_defs length (by decide) (by decide)⟩
  · split
    · exact List.forall_mem_singleton.mpr (by decide : ("patternProperties" : Text) ≠ "$defs")
    · exact List.forall_mem_singleton.mpr (by decide : ("additionalProperties" : Text) ≠ "$defs")
  · exact forall_mem_ite
      (List.forall_mem_singleton.mpr (by decide : ("propertyNames" : Text) ≠ "$defs"))

theorem tableless_literalSchema (values : List Value) : Tableless (literalSchema values) := by
  have type (kind : Option Text) : ∀ m ∈ optionalMember "type" (kind.map .text), m.1 ≠ "$defs" :=
    optionalMember_ne_defs (by decide)
  unfold literalSchema
  dsimp only
  split
  · refine IsBare.tableless (.of_member (k := "const") List.mem_cons_self (by decide) ?_)
    exact List.forall_mem_append.mpr ⟨by simp [members], type _⟩
  · refine IsBare.tableless (.of_member (k := "enum") List.mem_cons_self (by decide) ?_)
    exact List.forall_mem_append.mpr ⟨by simp [members], type _⟩

mutual

/-- No schema has definitions before it is a document, and all classes tell their kinds. -/
theorem published_searchable {s : Shape} {ds ds' : Definitions} {inClass : Bool} {j : Json}
    (wellFormed : s.WellFormed inClass) (classes : ds.TellKinds)
    (h : published ds s = .ok (j, ds')) : Searchable ds' j := by
  have lengths (l : LengthLimits) : ∀ m ∈ lengthMembers "minItems" "maxItems" l, m.1 ≠ "$defs" :=
    lengthMembers_ne_defs l (by decide) (by decide)
  -- arrays tell their items first
  have array {k : Json} {others : List (Text × Json)} (absent : ∀ m ∈ others, m.1 ≠ "$defs") :
      Tableless (.object (("items", k) :: ("type", .str "array") :: others)) := by
    refine IsBare.tableless (.of_member List.mem_cons_self (by decide) ?_)
    exact List.forall_mem_cons.mpr ⟨(by decide : ("items" : Text) ≠ "$defs"),
      List.forall_mem_cons.mpr ⟨(by decide : ("type" : Text) ≠ "$defs"), absent⟩⟩
  cases s with
  | any =>
    cases h
    refine ⟨classes, IsBare.tableless ⟨_, rfl, fun _ same => ?_, List.forall_mem_nil _⟩⟩
    exact List.cons_ne_nil _ _ same.symm
  | none | bool | complex =>
    cases h
    exact ⟨classes, (isBare_schemaType _).tableless⟩
  | time l | dateTime l | duration l | uuid =>
    cases h
    exact ⟨classes, tableless_formatted _⟩
  | self =>
    cases h
    exact ⟨classes, tableless_reference _⟩
  | callable | instances c => cases h
  | str l p =>
    cases h
    refine ⟨classes, ?_⟩
    rw [List.append_assoc]
    exact (isBare_type (List.forall_mem_append.mpr
      ⟨lengthMembers_ne_defs l (by decide) (by decide), optionalMember_ne_defs (by decide)⟩)).tableless
  | int l | float f l =>
    cases h
    exact ⟨classes, (isBare_type (limitMembers_ne_defs _ l)).tableless⟩
  | decimal f d l =>
    cases h
    refine ⟨classes, ?_⟩
    refine List.forall_mem_cons.mpr ⟨?_, List.forall_mem_singleton.mpr ?_⟩
    · exact isBare_type (limitMembers_ne_defs _ l)
    · exact isBare_schemaType _
  | bytes l =>
    cases h
    refine ⟨classes, IsBare.tableless (.of_member (k := "format") List.mem_cons_self (by decide) ?_)⟩
    exact List.forall_mem_append.mpr
      ⟨by simp [members], lengthMembers_ne_defs l (by decide) (by decide)⟩
  | date l =>
    cases h
    refine ⟨classes, (tableless_formatted _).withMembers fun m member => ?_⟩
    exact ⟨limitMembers_ne_anyOf member, limitMembers_ne_defs _ l m member⟩
  | list s l =>
    rw [published] at h
    obtain ⟨⟨k, ds₁⟩, found, h⟩ := bind_eq_ok.mp h
    cases pure_eq_ok.mp h
    exact ⟨(published_searchable wellFormed.of_list classes found).classes, array (lengths l)⟩
  | set frozen s l =>
    rw [published] at h
    obtain ⟨⟨k, ds₁⟩, found, h⟩ := bind_eq_ok.mp h
    cases pure_eq_ok.mp h
    refine ⟨(published_searchable wellFormed.of_set classes found).classes, array ?_⟩
    exact List.forall_mem_cons.mpr ⟨(by decide : ("uniqueItems" : Text) ≠ "$defs"), lengths l⟩
  | tuple ss l =>
    rw [published] at h
    obtain ⟨⟨ks, ds₁⟩, found, h⟩ := bind_eq_ok.mp h
    cases pure_eq_ok.mp h
    refine ⟨(publishedAll_searchable wellFormed.of_tuple classes found).1, Tableless.withMembers ?_ ?_⟩
    · refine IsBare.tableless (.of_member (k := "type") (j := .str "array") ?_ (by decide) ?_)
      · exact List.mem_append_right _ (by simp [members])
      · refine List.forall_mem_append.mpr ⟨?_, by simp [members]⟩
        split
        · exact List.forall_mem_nil _
        · exact List.forall_mem_singleton.mpr (by decide : ("prefixItems" : Text) ≠ "$defs")
    · intro m member
      rcases key_of_mem_lengthMembers member with key | key <;> rw [key] <;> decide
  | tupleOf s l =>
    rw [published] at h
    obtain ⟨⟨k, ds₁⟩, found, h⟩ := bind_eq_ok.mp h
    cases pure_eq_ok.mp h
    exact ⟨(published_searchable wellFormed.of_tupleOf classes found).classes, array (lengths l)⟩
  | dict k v l =>
    rw [published] at h
    obtain ⟨⟨kj, ds₁⟩, foundKey, h⟩ := bind_eq_ok.mp h
    obtain ⟨⟨vj, ds₂⟩, foundValue, h⟩ := bind_eq_ok.mp h
    cases pure_eq_ok.mp h
    have key := published_searchable wellFormed.of_dict.1 classes foundKey
    have value := published_searchable wellFormed.of_dict.2 key.classes foundValue
    exact ⟨value.classes, tableless_dictSchema kj vj l⟩
  | nullable s =>
    rw [published] at h
    obtain ⟨⟨k, ds₁⟩, found, h⟩ := bind_eq_ok.mp h
    cases pure_eq_ok.mp h
    have inner := published_searchable wellFormed.of_nullable classes found
    have nothing : Tableless (.object (schemaType "null")) :=
      (isBare_schemaType _).tableless
    refine ⟨inner.classes, ?_⟩
    split
    · exact nothing
    · exact tableless_anyOf (List.forall_mem_cons.mpr ⟨inner.root, List.forall_mem_singleton.mpr nothing⟩)
  | union ss =>
    cases h
    obtain ⟨classes, members⟩ := publishedPossible_searchable wellFormed.of_union classes
    refine ⟨classes, ?_⟩
    split
    next k only =>
      exact members k (only ▸ List.mem_singleton_self k)
    next => exact tableless_anyOf members
  | tagged field ms =>
    cases h
    refine ⟨publishedTagged_searchable wellFormed.of_tagged classes, ?_⟩
    exact IsBare.tableless (.of_member (k := "discriminator") List.mem_cons_self (by decide)
      (by simp [members]))
  | literal vs =>
    cases h
    exact ⟨classes, tableless_literalSchema vs⟩
  | enum name ms b =>
    rw [published] at h
    split at h
    · cases h
      exact ⟨classes, IsBare.tableless (.of_member (k := "enum") List.mem_cons_self (by decide)
        (by simp))⟩
    · cases h
      exact .referred classes (tellsKind_enumSchema name ms)
  | record kind name extra fs =>
    rw [published] at h
    obtain ⟨⟨properties, ds₁⟩, found, h⟩ := bind_eq_ok.mp h
    have classes := publishedFields_searchable wellFormed.of_record classes found
    cases pure_eq_ok.mp h
    exact .referred classes (tellsKind_classSchema kind name extra properties _)
  | noted notes s =>
    rw [published] at h
    obtain ⟨⟨k, ds₁⟩, found, h⟩ := bind_eq_ok.mp h
    cases pure_eq_ok.mp h
    obtain ⟨keys, wellFormed⟩ := wellFormed.of_noted
    have inner := published_searchable wellFormed classes found
    have known : ∀ key ∈ noteKeys, key ≠ "anyOf" ∧ key ≠ "$defs" := by simp [noteKeys]
    exact ⟨inner.classes, inner.root.withMembers fun m member => known _ (keys m member)⟩
  | bounded b s => exact published_searchable wellFormed.of_bounded classes h

theorem publishedAll_searchable {ss : List Shape} {ds ds' : Definitions} {inClass : Bool} {js : List Json}
    (wellFormed : ∀ s ∈ ss, s.WellFormed inClass) (classes : ds.TellKinds)
    (h : publishedAll ds ss = .ok (js, ds')) : ds'.TellKinds ∧ ∀ j ∈ js, Tableless j := by
  cases ss with
  | nil =>
    cases h
    exact ⟨classes, List.forall_mem_nil _⟩
  | cons s ss =>
    rw [publishedAll] at h
    obtain ⟨⟨j, ds₁⟩, found, h⟩ := bind_eq_ok.mp h
    obtain ⟨⟨js, ds₂⟩, others, h⟩ := bind_eq_ok.mp h
    cases pure_eq_ok.mp h
    rw [List.forall_mem_cons] at wellFormed
    have first := published_searchable wellFormed.1 classes found
    obtain ⟨classes, rest⟩ := publishedAll_searchable wellFormed.2 first.classes others
    exact ⟨classes, List.forall_mem_cons.mpr ⟨first.root, rest⟩⟩

theorem publishedPossible_searchable {ss : List Shape} {ds : Definitions} {inClass : Bool}
    (wellFormed : ∀ s ∈ ss, s.WellFormed inClass) (classes : ds.TellKinds) :
    (publishedPossible ds ss).2.TellKinds ∧ ∀ j ∈ (publishedPossible ds ss).1, Tableless j := by
  match ss with
  | [] => exact ⟨classes, List.forall_mem_nil _⟩
  | s :: ss =>
    rw [List.forall_mem_cons] at wellFormed
    rw [publishedPossible]
    split
    next j ds₁ found =>
      have first := published_searchable wellFormed.1 classes found
      obtain ⟨classes, rest⟩ := publishedPossible_searchable wellFormed.2 first.classes
      exact ⟨classes, List.forall_mem_cons.mpr ⟨first.root, rest⟩⟩
    next => exact publishedPossible_searchable wellFormed.2 classes

theorem publishedTagged_searchable {ms : List (Value × Shape)} {ds : Definitions} {inClass : Bool}
    (wellFormed : ∀ m ∈ ms, m.2.WellFormed inClass) (classes : ds.TellKinds) :
    (publishedTagged ds ms).2.TellKinds := by
  match ms with
  | [] => exact classes
  | (tag, s) :: ms =>
    rw [List.forall_mem_cons] at wellFormed
    rw [publishedTagged]
    split
    next j ds₁ found =>
      exact publishedTagged_searchable wellFormed.2 (published_searchable wellFormed.1 classes found).classes
    next => exact publishedTagged_searchable wellFormed.2 classes

theorem publishedFields_searchable {fs : List (Text × Presence × Shape)} {ds ds' : Definitions}
    {inClass : Bool} {properties : List (Text × Json)}
    (wellFormed : ∀ f ∈ fs, f.2.2.WellFormed inClass) (classes : ds.TellKinds)
    (h : publishedFields ds fs = .ok (properties, ds')) : ds'.TellKinds := by
  match fs with
  | [] =>
    cases h
    exact classes
  | (name, presence, s) :: fs =>
    rw [publishedFields] at h
    obtain ⟨⟨j, ds₁⟩, found, h⟩ := bind_eq_ok.mp h
    obtain ⟨⟨js, ds₂⟩, others, h⟩ := bind_eq_ok.mp h
    cases pure_eq_ok.mp h
    rw [List.forall_mem_cons] at wellFormed
    exact publishedFields_searchable wellFormed.2 (published_searchable wellFormed.1 classes found).classes others

end

/-! ### Documents -/

theorem Searchable.opened {root : Json} (h : Searchable ds root) :
    ∃ ms, ds.opened root = .object ms ∧ lookup "$defs" ms = Option.none := by
  obtain ⟨ms, same, keys⟩ := h.root.exists_object
  have closed : ∃ ms, root = .object ms ∧ lookup "$defs" ms = Option.none :=
    ⟨ms, same, lookup_eq_none keys⟩
  unfold Definitions.opened
  split
  · split
    next n number =>
      dsimp only
      split
      · cases found : ds[n]? with
        | none => exact closed
        | some c =>
          obtain ⟨ms, same, tells⟩ := h.classes c (List.mem_of_getElem? found)
          exact ⟨ms, same, tells.table⟩
      · exact closed
    next => exact closed
  · exact closed

/-- The definitions of a document are classes. -/
theorem Searchable.definitions {root doc : Json} (h : Searchable ds root) (made : ds.document? root = some doc)
    {key : Text} (found : lookup key (((doc.get? "$defs").bind Json.object?).getD []) = some j) :
    j = .null ∨ TypeTag.EndsSearch j := by
  obtain ⟨ms, members, absent⟩ := h.opened
  obtain ⟨names, -, rfl⟩ := document?_eq_some members made
  split at found
  · rw [get?, lookup_renamedMembers, absent] at found
    cases found
  · rw [get?, lookup_put_self] at found
    obtain ⟨n, rfl⟩ := mem_table (mem_of_lookup found)
    exact h.classes.namedSchema names n

/-- The search for the name of a published type fails at a number that is not written, at the depth of the
schema, or at what the schema says. -/
theorem isDue_of_nameOf {s : Shape} {doc : Json} {fuel : Nat} {fault : TagFault}
    (wellFormed : s.WellFormed inClass) (made : s.schema = .ok doc)
    (h : TypeTag.nameOf (TypeTag.definitionsOf doc) fuel doc = .error fault) : TypeTag.IsDue fuel doc fault := by
  obtain ⟨root, ds, published, -, document⟩ := schema_eq_ok made
  have searchable := published_searchable wellFormed (List.forall_mem_nil _) published
  exact TypeTag.isDue_of_nameOf (fun _ _ found => searchable.definitions document found) h

theorem isDue_of_nameOfDocument {s : Shape} {doc : Json} {fault : TagFault} (wellFormed : s.WellFormed inClass)
    (made : s.schema = .ok doc) (h : TypeTag.nameOfDocument doc = .error fault) :
    TypeTag.IsDue TypeTag.depthLimit doc fault :=
  isDue_of_nameOf wellFormed made h

/-- The search for the name of a published type does not go in a circle. -/
theorem not_circular {s : Shape} {doc : Json} (wellFormed : s.WellFormed inClass) (made : s.schema = .ok doc) :
    ¬TypeTag.Circular (TypeTag.definitionsOf doc) doc := by
  intro circular
  have due : doc.depth + 1 ≤ doc.depth := isDue_of_nameOf wellFormed made (circular.nameOf (doc.depth + 1))
  omega

end Shape

/-! ### Every search -/

/-- A type without a name is told as one that cannot be published. -/
inductive TagFault.IsUnrepresentable : TagFault → Prop where
  | unconstrained : IsUnrepresentable .unconstrained
  | unresolved (reference : Text) : IsUnrepresentable (.unresolved reference)
  | unrecognized (schema : Text) : IsUnrepresentable (.unrecognized schema)

namespace TypeTag

/-- What the search for the name of a well-formed schema comes to if it is over. -/
theorem answer_of_formed {definitions : List (Text × Json)} {j : Json} {d : Nat} (formed : Formed j)
    (defined : ∀ key k, Json.lookup key definitions = some k → k = .null ∨ Formed k)
    (ended : nameOf definitions d j ≠ .error .tooDeep) :
    (∃ name, nameOf definitions d j = .ok name) ∨ ∃ fault, nameOf definitions d j = .error fault ∧
      (fault.IsUnrepresentable ∨ ∃ k unwritten, Reaches definitions j k ∧
        k.canonicalText = .error unwritten ∧ fault = .unwritten unwritten) := by
  cases answer : nameOf definitions d j with
  | ok name => exact .inl ⟨name, rfl⟩
  | error fault =>
    have other : fault ≠ .tooDeep := fun deep => ended (deep ▸ answer)
    obtain ⟨k, reaches, settled⟩ := exists_of_nameOf_eq_error other answer
    refine .inr ⟨fault, rfl, ?_⟩
    cases step_tells settled with
    | unconstrained => exact .inl .unconstrained
    | unresolved reference => exact .inl (.unresolved reference)
    | unrecognized schema => exact .inl (.unrecognized schema)
    | unwritten failed => exact .inr ⟨k, _, reaches, failed, rfl⟩
    | notASchema malformed => exact absurd (Reaches.formed reaches formed defined) malformed
    | notAList malformed => exact absurd (Reaches.formed reaches formed defined) malformed

/-- **The search for a name** goes on for ever just when it comes back to a schema.  Where it does not, it
ends in a name or in a mistake of the schema, and is over when it has been through as many schemas as there
are.  What is published of a type never leads it in a circle, so that only for a type that is nested as
deep as the search goes it is given up. -/
theorem search_exact (definitions : List (Text × Json)) (j : Json) :
    (Formed j → (∀ key k, Json.lookup key definitions = some k → k = .null ∨ Formed k) →
      ((∀ d, nameOf definitions d j = .error .tooDeep) ↔ Circular definitions j) ∧
      (¬Circular definitions j → ∀ d, (schemas definitions j).length ≤ d →
        (∃ name, nameOf definitions d j = .ok name) ∨ ∃ fault, nameOf definitions d j = .error fault ∧
          (fault.IsUnrepresentable ∨ ∃ k unwritten, Reaches definitions j k ∧
            k.canonicalText = .error unwritten ∧ fault = .unwritten unwritten))) ∧
    ∀ (t : TypeExpr) s, t.openShape .plain = .ok s → s.schema = .ok j →
      ¬Circular (definitionsOf j) j ∧ (nameOfDocument j = .error .tooDeep → depthLimit ≤ j.depth) := by
  constructor
  · intro formed defined
    refine ⟨⟨fun deep => ?_, fun circular d => circular.nameOf d⟩, fun straight d long => ?_⟩
    · exact (nameOf_eq_tooDeep_iff (Nat.le_refl _)).mp (deep _)
    · exact answer_of_formed formed defined fun deep => straight ((nameOf_eq_tooDeep_iff long).mp deep)
  · intro t s shaped made
    unfold TypeExpr.openShape at shaped
    split at shaped
    next u _ =>
      have wellFormed := TypeExpr.shape_wellFormed u shaped
      exact ⟨Shape.not_circular wellFormed made, Shape.isDue_of_nameOfDocument wellFormed made⟩
    next => cases shaped

/-- What is published of a list of whole numbers does not lead the search in a circle. -/
theorem search_straight :
    let list : Json := .object [("items", .object [("type", .str "integer")]), ("type", .str "array")]
    (∃ s, (TypeExpr.list (.atom .int)).openShape .plain = .ok s ∧ s.schema = .ok list) ∧
      ¬Circular (definitionsOf list) list ∧ (nameOfDocument list = .error .tooDeep → depthLimit ≤ list.depth) := by
  intro list
  obtain ⟨s, shaped, made⟩ : ∃ s, (TypeExpr.list (.atom .int)).openShape .plain = .ok s ∧ s.schema = .ok list :=
    ⟨_, rfl, rfl⟩
  exact ⟨⟨s, shaped, made⟩, (search_exact [] list).2 _ s shaped made⟩

theorem Formed.of_reference (t : Text) : Formed (.object [("$ref", .text t)]) := by
  have absent : ∀ key ∈ variantKeys ++ innerKeys, Json.lookup key [("$ref", Json.text t)] = none := by
    simp [variantKeys, innerKeys, Json.lookup]
  refine .intro (fun key known v found => ?_) fun k contains => ?_
  · cases (absent key (List.mem_append_left _ known)).symm.trans found
  · cases contains with
    | member known found => cases (absent _ (List.mem_append_right _ known)).symm.trans found
    | variant known found => cases (absent _ (List.mem_append_left _ known)).symm.trans found

/-- A definition that refers to itself has no name, however long it is looked for. -/
theorem search_endless :
    let itself : Json := .object [("$ref", .str "#/$defs/A")]
    Formed itself ∧ (∀ key k, Json.lookup key [("A", itself)] = some k → k = .null ∨ Formed k) ∧
      ∀ d, nameOf [("A", itself)] d itself = .error .tooDeep := by
  intro itself
  have formed : Formed itself := .of_reference _
  have awaits : Awaits [("A", itself)] itself itself := .reference rfl
  refine ⟨formed, fun key k found => .inr ?_, nameOf_of_cycle (.single awaits)⟩
  have member := Json.mem_of_lookup found
  cases List.mem_singleton.mp member
  exact formed

end TypeTag

end GuardedTools
