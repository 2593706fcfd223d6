import GuardedTools.Proofs.Json.Validity
import GuardedTools.Proofs.Shape.Carries

/-!
# Canonical values

For the types that are built of texts, numbers, truth values, nothing, lists, maps by texts, options,
constants and models that keep to their fields (`TypeExpr.Exact`) it can be said how a value of the type is
written as JSON (`TypeExpr.Canonical`).  Such a value goes through the shape of the type as it is, but for the
order of the members of models (`Canonical.isCarried`).

The types within a type are read first (`TypeExpr.resolve`), which also opens options of options; what they
come to is one of three forms (`TypeExpr.Settled`).  The proof is an induction on how the value is written,
with one case for each way, and each case is what the shape of that kind carries.
-/

namespace GuardedTools.TypeExpr

/-- The members of a model that are fields. -/
def modelFields (options : ModelOptions) (fields : List (Text × Presence × TypeExpr)) :
    List (Text × Presence × TypeExpr) :=
  fields.filter fun f => isField (.model options) f.1

/-- The types that say exactly how their values are written. -/
inductive Exact : TypeExpr → Prop
  | atom {a : AtomType} (plain : a ∈ [AtomType.str, .int, .float, .bool, .none]) : Exact (atom a)
  | list {t : TypeExpr} (item : Exact t) : Exact (list t)
  | dict {t : TypeExpr} (value : Exact t) : Exact (dict (.atom .str) t)
  | optional {t : TypeExpr} (inner : Exact t) : Exact (union [t, .atom .none])
  | literal {vs : List Value} (constants : ∀ v ∈ vs, v.isConstant = true) : Exact (literal vs)
  | enum {name : Text} {written made : List (Text × Value)} {base : EnumBase}
    (members : enumMembers base written = .ok made) (constants : ∀ m ∈ made, m.2.isConstant = true) :
    Exact (enum name written base)
  /-- A model with its settings as they are by default; what it says about itself does not matter. -/
  | model {options : ModelOptions} {name : Text} {fields : List (Text × Presence × TypeExpr)}
    (settings : options.extra = .ignore) (distinct : ((modelFields options fields).map (·.1)).Nodup)
    (types : ∀ f ∈ modelFields options fields, Exact f.2.2) :
    Exact (record (.model options) name fields)

/-- How values of these types are written: integers as integers, floats as finite floats, texts in
Unicode, and models with exactly their fields, in any order. -/
inductive Canonical : TypeExpr → Json → Prop
  | text {t : Text} (unicode : t.isScalar = true) : Canonical (atom .str) (.text t)
  | int (n : Int) : Canonical (atom .int) (.int n)
  | float {x : Binary64} (finite : x.isFinite = true) : Canonical (atom .float) (.float x)
  | bool (b : Bool) : Canonical (atom .bool) (.bool b)
  | null : Canonical (atom .none) .null
  | list {t : TypeExpr} {js : List Json} (items : ∀ j ∈ js, Canonical t j) : Canonical (list t) (.array js)
  | dict {t : TypeExpr} {ms : List (Text × Json)} (distinct : (ms.map (·.1)).Nodup)
    (unicode : ∀ m ∈ ms, m.1.isScalar = true) (values : ∀ m ∈ ms, Canonical t m.2) :
    Canonical (dict (atom .str) t) (.object ms)
  | absent {t : TypeExpr} : Canonical (union [t, atom .none]) .null
  | present {t : TypeExpr} {j : Json} (value : Canonical t j) : Canonical (union [t, atom .none]) j
  | literal {vs : List Value} {j : Json} (among : Value.ofJson j ∈ vs) (unicode : j.isScalar = true) :
    Canonical (literal vs) j
  | enum {name : Text} {written made : List (Text × Value)} {base : EnumBase} {m : Text × Value} {j : Json}
    (members : enumMembers base written = .ok made) (member : m ∈ made) (value : m.2 = Value.ofJson j)
    (unicode : j.isScalar = true) : Canonical (enum name written base) j
  | model {options : ModelOptions} {name : Text} {fields : List (Text × Presence × TypeExpr)}
    {ms : List (Text × Json)} (names : (ms.map (·.1)).Perm ((modelFields options fields).map (·.1)))
    (values : ∀ f ∈ modelFields options fields, ∀ m ∈ ms, m.1 = f.1 → Canonical f.2.2 m.2) :
    Canonical (record (.model options) name fields) (.object ms)

/-! ### Reading the types within a type -/

/-- A type that is neither a union nor that of nothing. -/
def isSingle : TypeExpr → Bool
  | atom .none => false
  | union _ => false
  | _ => true

/-- The forms that types come to when those within them are read: options are opened. -/
inductive Settled : TypeExpr → Prop
  | none : Settled (atom .none)
  | single {t : TypeExpr} (one : t.isSingle = true) : Settled t
  | optional {t : TypeExpr} (one : t.isSingle = true) : Settled (union [t, atom .none])

variable {t t' : TypeExpr}

theorem same_none_of_isSingle (one : t.isSingle = true) : same (atom .none) t = false := by
  cases t with
  | atom a => cases a <;> first | rfl | cases one
  | _ => rfl

theorem isNone_of_isSingle (one : t.isSingle = true) : t.isNone = false := by
  cases t with
  | atom a => cases a <;> first | rfl | cases one
  | _ => rfl

theorem unionOf_single (one : t.isSingle = true) :
    unionOf [t, atom .none] = union [t, atom .none] := by
  have other := same_none_of_isSingle one
  cases t with
  | union ts => cases one
  | _ => simp [unionOf, flatten, other]

theorem unionOf_optional (one : t.isSingle = true) :
    unionOf [union [t, atom .none], atom .none] = union [t, atom .none] := by
  have other := same_none_of_isSingle one
  have self : same (atom .none) (atom .none) = true := rfl
  simp [unionOf, flatten, other, self]

/-- An option of a type that is settled is settled. -/
theorem settled_unionOf (settled : Settled t) : Settled (unionOf [t, atom .none]) := by
  cases settled with
  | none => exact .none
  | single one =>
    rw [unionOf_single one]
    exact .optional one
  | optional one =>
    rw [unionOf_optional one]
    exact .optional one

theorem resolve_atom (a : AtomType) : (atom a).resolve = .ok (atom a) := rfl

/-- All types within an exact type can be read. -/
theorem exists_resolve (exact : Exact t) : ∃ t', t.resolve = .ok t' ∧ Settled t' := by
  induction exact with
  | @atom a plain =>
    refine ⟨_, rfl, ?_⟩
    cases a with
    | none => exact .none
    | _ => exact .single rfl
  | list _ ih =>
    obtain ⟨item, read, -⟩ := ih
    exact ⟨list item, by rw [resolve, read]; rfl, .single rfl⟩
  | dict _ ih =>
    obtain ⟨value, read, -⟩ := ih
    exact ⟨dict (atom .str) value, by rw [resolve, resolve_atom, read]; rfl, .single rfl⟩
  | optional _ ih =>
    obtain ⟨inner, read, settled⟩ := ih
    exact ⟨unionOf [inner, atom .none], by rw [resolve, resolveAll, read]; rfl, settled_unionOf settled⟩
  | literal => exact ⟨_, rfl, .single rfl⟩
  | enum => exact ⟨_, rfl, .single rfl⟩
  | model => exact ⟨_, rfl, .single rfl⟩

/-- An option of an exact type is read as an option of what the type is read as. -/
theorem resolve_optional (exact : Exact t) (h : (union [t, atom .none]).resolve = .ok t') :
    ∃ inner, t.resolve = .ok inner ∧ Settled inner ∧ t' = unionOf [inner, atom .none] := by
  obtain ⟨inner, found, settled⟩ := exists_resolve exact
  rw [resolve, resolveAll, found] at h
  exact ⟨inner, found, settled, (Except.ok.inj h).symm⟩

/-! ### Shapes of options and models -/

variable {context : Context} {s : Shape}

/-- What may be missing has the shape of that. -/
theorem shape_optional (one : t.isSingle = true) (h : (union [t, atom .none]).shape context = .ok s) :
    ∃ inner, t.shape context = .ok inner ∧ s = .nullable inner := by
  rw [shape] at h
  obtain ⟨⟨hasNone, members⟩, found, h⟩ := bind_eq_ok.mp h
  have found := mapError_eq_ok.mp found
  rw [unionShapes, isNone_of_isSingle one] at found
  obtain ⟨inner, shaped, found⟩ := bind_eq_ok.mp found
  obtain ⟨rfl, rfl⟩ := Prod.mk.inj (pure_eq_ok.mp found)
  exact ⟨inner, shaped, (pure_eq_ok.mp h).symm⟩

/-- A field has the shape of its type. -/
structure ShapesField (context : Context) (f : Text × Presence × TypeExpr) (field : Text × Presence × Shape) :
    Prop where
  name : field.1 = f.1
  shape : ((f.2.2.resolve).toOption.getD f.2.2).shape context = .ok field.2.2

/-- The fields of a model that was read have the shapes of their types. -/
theorem fieldShapes_resolveFields {kind : ClassKind} {fields : List (Text × Presence × TypeExpr)}
    {ss : List (Text × Presence × Shape)} (h : fieldShapes kind context (resolveFields fields) = .ok ss) :
    List.Forall₂ (ShapesField context) (fields.filter fun f => isField kind f.1) ss := by
  induction fields generalizing ss with
  | nil =>
    cases h
    exact .nil
  | cons f fields ih =>
    rw [resolveFields, fieldShapes] at h
    split at h
    next field =>
      rw [List.filter_cons_of_pos (by exact field)]
      obtain ⟨s, shaped, h⟩ := bind_eq_ok.mp h
      obtain ⟨rest, others, h⟩ := bind_eq_ok.mp h
      obtain rfl := pure_eq_ok.mp h
      exact .cons ⟨rfl, mapError_eq_ok.mp shaped⟩ (ih others)
    next other =>
      rw [List.filter_cons_of_neg (by exact other)]
      exact ih h

/-! ### Carrying -/

/-- The shapes of a type carry a value, alike in every context, and as what it is but for the order of
members. -/
def IsCarried (t : TypeExpr) (j : Json) : Prop :=
  ∃ x written, written.sortKeys = j.sortKeys ∧ (x = .null → j = .null) ∧
    ∀ context s, t.shape context = .ok s → s.Carries j x written

variable {j : Json}

theorem IsCarried.of_scalar (h : ∀ context s, t.shape context = .ok s → s.Carries j (.ofJson j) j) :
    IsCarried t j := by
  refine ⟨.ofJson j, j, rfl, fun null => ?_, h⟩
  cases j <;> first | rfl | cases null

/-- What may be missing may be written as nothing. -/
theorem isCarried_null (settled : Settled t) : IsCarried (unionOf [t, atom .none]) .null := by
  refine .of_scalar fun context s shaped => ?_
  cases settled with
  | none =>
    cases shaped
    exact Shape.carries_null
  | single one =>
    rw [unionOf_single one] at shaped
    obtain ⟨inner, -, rfl⟩ := shape_optional one shaped
    exact Shape.carries_nullable_null
  | optional one =>
    rw [unionOf_optional one] at shaped
    obtain ⟨inner, -, rfl⟩ := shape_optional one shaped
    exact Shape.carries_nullable_null

/-- What may be missing may be there. -/
theorem IsCarried.optional (settled : Settled t) (h : IsCarried t j) :
    IsCarried (unionOf [t, atom .none]) j := by
  by_cases null : j = .null
  · exact null ▸ isCarried_null settled
  cases settled with
  | none => exact h
  | single one =>
    obtain ⟨x, written, alike, present, carries⟩ := h
    refine ⟨x, written, alike, present, fun context s shaped => ?_⟩
    rw [unionOf_single one] at shaped
    obtain ⟨inner, found, rfl⟩ := shape_optional one shaped
    exact (carries context inner found).nullable present null
  | optional one =>
    rw [unionOf_optional one]
    exact h

theorem isCarried_list {js : List Json} (h : ∀ j ∈ js, IsCarried t j) : IsCarried (list t) (.array js) := by
  choose! x written alike present carries using h
  refine ⟨.list (js.map x), .array (js.map written), ?_, nofun, fun context s shaped => ?_⟩
  · rw [Json.sortKeys, Json.sortKeys, Json.sortKeysItems_eq_map, Json.sortKeysItems_eq_map, List.map_map]
    exact congrArg Json.array (List.map_congr_left alike)
  · rw [shape] at shaped
    obtain ⟨item, found, shaped⟩ := bind_eq_ok.mp shaped
    obtain rfl := pure_eq_ok.mp shaped
    exact Shape.carries_list fun j member => carries j member context item (mapError_eq_ok.mp found)

theorem isCarried_dict {ms : List (Text × Json)} (distinct : (ms.map (·.1)).Nodup)
    (unicode : ∀ m ∈ ms, m.1.isScalar = true) (h : ∀ m ∈ ms, IsCarried t m.2) :
    IsCarried (dict (atom .str) t) (.object ms) := by
  choose! x written alike present carries using h
  refine ⟨Value.ofMembers (ms.map fun m => (m.1, x m)), .object (ms.map fun m => (m.1, written m)), ?_, nofun,
    fun context s shaped => ?_⟩
  · refine Json.sortKeys_object_eq (by rwa [List.map_map]) ?_
    rw [List.map_map]
    exact List.Perm.of_eq (List.map_congr_left fun m member => Prod.ext rfl (alike m member))
  · rw [shape] at shaped
    obtain ⟨key, foundKey, shaped⟩ := bind_eq_ok.mp shaped
    obtain ⟨value, found, shaped⟩ := bind_eq_ok.mp shaped
    obtain rfl := pure_eq_ok.mp shaped
    obtain rfl := Except.ok.inj (mapError_eq_ok.mp foundKey)
    exact Shape.carries_dict distinct unicode fun m member =>
      carries m member context value (mapError_eq_ok.mp found)

theorem isCarried_literal {vs : List Value} (constants : ∀ v ∈ vs, v.isConstant = true)
    (among : Value.ofJson j ∈ vs) : IsCarried (literal vs) j := by
  refine .of_scalar fun context s shaped => ?_
  rw [shape] at shaped
  split at shaped
  · cases shaped
  · obtain rfl := Except.ok.inj shaped
    exact Shape.carries_literal constants among

/-- What a member of an enumeration is made with fits the base of the enumeration. -/
theorem fitsBase_of_enumMembers {written made : List (Text × Value)} {base : EnumBase}
    (members : enumMembers base written = .ok made) : ∀ m ∈ made, Shape.fitsBase base m.2 = true := by
  have value {v w : Value} (h : memberValue base v = .ok w) : Shape.fitsBase base w = true := by
    unfold memberValue at h
    split at h
    · rfl
    · exact Except.ok.inj h ▸ rfl
    · split at h
      · exact Except.ok.inj h ▸ rfl
      · cases h
  have each : ∀ (written before : List (Text × Value)), membersFrom base before written = .ok made →
      (∀ m ∈ before, Shape.fitsBase base m.2 = true) → ∀ m ∈ made, Shape.fitsBase base m.2 = true := by
    intro written
    induction written with
    | nil => exact fun before h fits => Except.ok.inj h ▸ fits
    | cons m written ih =>
      intro before h fits
      rw [membersFrom] at h
      split at h
      · exact ih before h fits
      · obtain ⟨w, found, h⟩ := bind_eq_ok.mp h
        refine ih _ h fun n member => ?_
        rcases List.mem_append.mp member with earlier | new
        · exact fits n earlier
        · obtain rfl := List.mem_singleton.mp new
          -- a further name for the value of an earlier member stands for that member
          cases earlier : before.find? fun m => m.2.same w with
          | none => exact value found
          | some n => exact fits n (List.mem_of_find?_eq_some earlier)
  unfold enumMembers at members
  dsimp only at members
  split at members
  · cases members
  · cases members
  · exact each written [] members nofun

theorem isCarried_enum {name : Text} {written made : List (Text × Value)} {base : EnumBase}
    {m : Text × Value} (members : enumMembers base written = .ok made)
    (constants : ∀ m ∈ made, m.2.isConstant = true) (member : m ∈ made) (value : m.2 = Value.ofJson j) :
    IsCarried (enum name written base) j := by
  obtain ⟨x, some, carries⟩ : ∃ x, x ≠ Value.null ∧ (Shape.enum name made base).Carries j x j :=
    Shape.exists_carries_enum constants member value (fitsBase_of_enumMembers members m member)
  refine ⟨x, j, rfl, fun null => absurd null some, fun context s shaped => ?_⟩
  obtain rfl := Except.ok.inj shaped
  rw [members]
  exact carries

theorem isCarried_model {options : ModelOptions} {name : Text}
    {fields : List (Text × Presence × TypeExpr)} {ms : List (Text × Json)}
    (settings : options.extra = .ignore) (distinct : ((modelFields options fields).map (·.1)).Nodup)
    (names : (ms.map (·.1)).Perm ((modelFields options fields).map (·.1)))
    (h : ∀ f ∈ modelFields options fields, ∀ m ∈ ms, m.1 = f.1 → ∃ t, f.2.2.resolve = .ok t ∧
      IsCarried t m.2) :
    IsCarried (record (.model options) name (resolveFields fields)) (.object ms) := by
  -- all that matters of a field is its name, under which there is one field and one member
  have each : ∀ n ∈ (modelFields options fields).map (·.1), ∃ j x written, Json.lookup n ms = some j ∧
      written.sortKeys = j.sortKeys ∧ ∀ f ∈ modelFields options fields, f.1 = n → ∀ t,
        f.2.2.resolve = .ok t → ∀ context s, t.shape context = .ok s → s.Carries j x written := by
    intro n name
    obtain ⟨f, field, rfl⟩ := List.mem_map.mp name
    obtain ⟨m, member, named⟩ := List.mem_map.mp (names.mem_iff.mpr name)
    obtain ⟨j, found⟩ := Option.isSome_iff_exists.mp (Json.isSome_lookup ⟨m, member, named⟩)
    obtain ⟨t, read, x, written, alike, -, carries⟩ := h f field _ (Json.mem_of_lookup found) rfl
    refine ⟨j, x, written, found, alike, fun g field' same t' read' => ?_⟩
    obtain rfl : g = f := List.inj_on_of_nodup_map distinct field' field same
    obtain rfl : t = t' := Except.ok.inj (read.symm.trans read')
    exact carries
  choose! j x written found alike carries using each
  have given : ∀ m ∈ ms, j m.1 = m.2 := by
    intro m member
    have name := names.mem_iff.mp (List.mem_map_of_mem member)
    exact congrArg Prod.snd (List.inj_on_of_nodup_map (names.nodup_iff.mpr distinct)
      (Json.mem_of_lookup (found m.1 name)) member rfl)
  refine ⟨.record .model name (((modelFields options fields).map (·.1)).map fun n => (n, x n)) [],
    .object (((modelFields options fields).map (·.1)).map fun n => (n, written n)), ?_, nofun,
    fun context s shaped => ?_⟩
  · have keys : (((modelFields options fields).map (·.1)).map fun n => (n, written n)).map (·.1)
        = (modelFields options fields).map (·.1) := by
      rw [List.map_map]
      exact List.map_id _
    refine Json.sortKeys_object_eq (keys.symm ▸ distinct) ?_
    rw [List.map_map]
    calc ((modelFields options fields).map (·.1)).map (fun n => (n, (written n).sortKeys))
        = ((modelFields options fields).map (·.1)).map fun n => (n, (j n).sortKeys) :=
          List.map_congr_left fun n name => Prod.ext rfl (alike n name)
      List.Perm _ ((ms.map (·.1)).map fun n => (n, (j n).sortKeys)) := (names.map _).symm
      _ = ms.map fun m => (m.1, m.2.sortKeys) := by
          rw [List.map_map]
          exact List.map_congr_left fun m member =>
            Prod.ext rfl (congrArg Json.sortKeys (given m member))
  · rw [shape] at shaped
    obtain ⟨ss, shapes, shaped⟩ := bind_eq_ok.mp shaped
    obtain rfl := pure_eq_ok.mp shaped
    have fieldwise := fieldShapes_resolveFields (insideClass_eq_ok.mp shapes)
    have same : ss.map (·.1) = (modelFields options fields).map (·.1) :=
      map_eq_of_forall₂ (fun h => h.name) fieldwise
    rw [← same, List.map_map, List.map_map, settings]
    refine Shape.carries_model (same ▸ distinct) fun field member => ?_
    obtain ⟨f, declared, shapes⟩ := exists_left_of_mem fieldwise member
    have name : f.1 ∈ (modelFields options fields).map (·.1) := List.mem_map_of_mem declared
    obtain ⟨m, given, named⟩ := List.mem_map.mp (names.mem_iff.mpr name)
    obtain ⟨t, read, -⟩ := h f declared m given named
    have shaped := shapes.shape
    rw [read] at shaped
    rw [shapes.name]
    exact ⟨j f.1, found f.1 name, carries f.1 name f declared rfl t read _ _ shaped⟩

/-- **Canonical values are carried**: the shapes of a type in which the types within it are read carry a
value that is written as the type says. -/
theorem Canonical.isCarried (canonical : Canonical t j) (exact : Exact t) (read : t.resolve = .ok t') :
    IsCarried t' j := by
  induction canonical generalizing t' with
  | text _ =>
    obtain rfl := Except.ok.inj read
    exact .of_scalar fun context s shaped => Except.ok.inj shaped ▸ Shape.carries_text _
  | int n =>
    obtain rfl := Except.ok.inj read
    exact .of_scalar fun context s shaped => Except.ok.inj shaped ▸ Shape.carries_int n
  | float finite =>
    obtain rfl := Except.ok.inj read
    exact .of_scalar fun context s shaped => Except.ok.inj shaped ▸ Shape.carries_float finite
  | bool b =>
    obtain rfl := Except.ok.inj read
    exact .of_scalar fun context s shaped => Except.ok.inj shaped ▸ Shape.carries_bool b
  | null =>
    obtain rfl := Except.ok.inj read
    exact .of_scalar fun context s shaped => Except.ok.inj shaped ▸ Shape.carries_null
  | list _ ih =>
    cases exact with
    | list item =>
      obtain ⟨t, inner, read⟩ := bind_eq_ok.mp read
      obtain rfl := pure_eq_ok.mp read
      exact isCarried_list fun j member => ih j member item inner
  | dict distinct unicode _ ih =>
    cases exact with
    | dict value =>
      obtain ⟨key, keyRead, read⟩ := bind_eq_ok.mp read
      obtain ⟨t, valueRead, read⟩ := bind_eq_ok.mp read
      obtain rfl := pure_eq_ok.mp read
      obtain rfl := Except.ok.inj keyRead
      exact isCarried_dict distinct unicode fun m member => ih m member value valueRead
  | absent =>
    cases exact with
    | optional inner =>
      obtain ⟨u, innerRead, settled, rfl⟩ := resolve_optional inner read
      exact isCarried_null settled
  | present _ ih =>
    cases exact with
    | optional inner =>
      obtain ⟨u, innerRead, settled, rfl⟩ := resolve_optional inner read
      exact (ih inner innerRead).optional settled
  | literal among =>
    cases exact with
    | literal constants =>
      obtain rfl := Except.ok.inj read
      exact isCarried_literal constants among
  | enum members member value =>
    cases exact with
    | enum members' constants =>
      obtain rfl := Except.ok.inj read
      obtain rfl := Except.ok.inj (members.symm.trans members')
      exact isCarried_enum members constants member value
  | model names _ ih =>
    cases exact with
    | model settings distinct types =>
      obtain rfl := Except.ok.inj read
      refine isCarried_model settings distinct names fun f field m member named => ?_
      obtain ⟨t, inner, -⟩ := exists_resolve (types f field)
      exact ⟨t, inner, ih f field m member named (types f field) inner⟩

end GuardedTools.TypeExpr
