import GuardedTools.Proofs.Shape.Conforming
import GuardedTools.Proofs.Shape.Recovered
import GuardedTools.Proofs.Shape.Told

/-!
# Schemas that are heeded

For the shapes that are built of texts, integers, truth values, nothing, lists, maps by texts, options and
models (`Shape.Basic`) everything that the check asks is published.  What is published of such a shape is
written out by recursion on it (`Shape.Shows`, `Shape.Basic.shows`), and in the document that callers see,
where classes have names and every object was read back from its text, it still tells the shape
(`Shape.Shows.told`).

So a class of arguments whose fields have such shapes takes every object that is valid under the document
of the class (`Shape.takes_of_isValid`).
-/

namespace GuardedTools

open Definitions Json

namespace Shape

/-- A shape that is neither that of nothing nor an option. -/
def isPresent : Shape → Bool
  | none => false
  | nullable _ => false
  | _ => true

/-- Fields with different names, which are Unicode. -/
structure HavePlainNames (fields : List (Text × Presence × Shape)) : Prop where
  distinct : (fields.map (·.1)).Nodup
  unicode : ∀ f ∈ fields, f.1.isScalar = true

/-- The shapes of which everything that is checked is published. -/
inductive Basic : Shape → Prop where
  | none : Basic none
  | bool : Basic bool
  | str : Basic (str {} Option.none)
  | int : Basic (int {})
  | list {s : Shape} (item : Basic s) : Basic (list s {})
  | dict {s : Shape} (value : Basic s) : Basic (dict (str {} Option.none) s {})
  | nullable {s : Shape} (inner : Basic s) (present : s.isPresent = true) : Basic (nullable s)
  | record {options : ModelOptions} {name : Text} {fields : List (Text × Presence × Shape)}
    (names : HavePlainNames fields) (types : ∀ f ∈ fields, Basic f.2.2) :
    Basic (record (.model options) name .ignore fields)

theorem Basic.wellFormed {s : Shape} (basic : s.Basic) (inClass : Bool) : s.WellFormed inClass := by
  induction basic generalizing inClass with
  | list _ ih => exact .list (ih inClass)
  | dict _ ih => exact .dict (.leaf rfl) (ih inClass)
  | nullable _ _ ih => exact .nullable (ih inClass)
  | record _ _ ih => exact .record fun f field => ih f field true
  | _ => exact .leaf rfl

/-! ### What is published -/

/-- The properties of a class describe its fields, by the schemas of their shapes. -/
structure Describes (fields : List (Text × Presence × Shape)) (schemas : Text × Presence × Shape → Json)
    (properties : List (Text × Json)) : Prop where
  keys : properties.map (·.1) = fields.map (·.1)
  objects : ∀ p ∈ properties, p.2.object?.isSome = true
  found : ∀ f ∈ fields, lookup f.1 properties = some (fieldSchema f.1 f.2.1 f.2.2.isTitled (schemas f))

theorem Describes.plain {fields : List (Text × Presence × Shape)} {schemas : Text × Presence × Shape → Json}
    {properties : List (Text × Json)} (describes : Describes fields schemas properties)
    (names : HavePlainNames fields) : hasPlainKeys properties = true := by
  rw [hasPlainKeys_iff, describes.keys, List.forall_mem_map]
  exact ⟨names.distinct, names.unicode⟩

/-- The names of the fields that must be given. -/
def requiredNames (fields : List (Text × Presence × Shape)) : List Text :=
  (fields.filter fun f => isRequired f.2.1).map (·.1)

/-- What is published of a basic shape among classes. -/
inductive Shows (last : Definitions) : Shape → Json → Prop where
  | none : Shows last none (.object (schemaType "null"))
  | bool : Shows last bool (.object (schemaType "boolean"))
  | str : Shows last (str {} Option.none) (.object (schemaType "string"))
  | int : Shows last (int {}) (.object (schemaType "integer"))
  | list {s : Shape} {j : Json} (inner : Shows last s j) :
    Shows last (list s {}) (Json.record [("items", j), ("type", .str "array")])
  | dict {s : Shape} {j : Json} (inner : Shows last s j) :
    Shows last (dict (str {} Option.none) s {})
      (Json.record [("type", .str "object"), ("additionalProperties", j.without "title")])
  | nullable {s : Shape} {j : Json} (inner : Shows last s j) :
    Shows last (nullable s) (Json.record [("anyOf", .array [j, .object (schemaType "null")])])
  | record {options : ModelOptions} {name : Text} {fields : List (Text × Presence × Shape)} {n : Nat}
    {c : ClassSchema} {schemas : Text × Presence × Shape → Json} {properties : List (Text × Json)}
    (stands : last[n]? = some c)
    (schema : c.schema = classSchema (.model options) name .ignore properties (requiredNames fields))
    (names : HavePlainNames fields) (describes : Describes fields schemas properties)
    (inner : ∀ f ∈ fields, Shows last f.2.2 (schemas f)) :
    Shows last (record (.model options) name .ignore fields) (referenceTo n)

variable {last : Definitions} {s : Shape} {j k : Json} {ms : List (Text × Json)}

/-- What is published of a basic shape is an object with plain keys, and is known by one of three. -/
theorem Shows.exists_members (shows : Shows last s j) : ∃ ms, j = .object ms ∧ hasPlainKeys ms = true ∧
    ∃ key ∈ [("type" : Text), "anyOf", "$ref"], (lookup key ms).isSome = true := by
  have known {ms : List (Text × Json)} {key : Text} {x : Json} (member : (key, x) ∈ ms) :
      (lookup key ms).isSome = true := isSome_lookup ⟨_, member, rfl⟩
  cases shows with
  | list =>
    refine ⟨_, rfl, hasPlainKeys_of_keys ["items", "type"] rfl (by decide), "type", by decide, ?_⟩
    exact known (List.mem_cons_of_mem _ List.mem_cons_self)
  | dict =>
    refine ⟨_, rfl, hasPlainKeys_of_keys ["type", "additionalProperties"] rfl (by decide), "type", by decide, ?_⟩
    exact known List.mem_cons_self
  | nullable =>
    refine ⟨_, rfl, hasPlainKeys_of_keys ["anyOf"] rfl (by decide), "anyOf", by decide, ?_⟩
    exact known List.mem_cons_self
  | record =>
    refine ⟨_, rfl, hasPlainKeys_of_keys ["$ref"] rfl (by decide), "$ref", by decide, ?_⟩
    exact known List.mem_cons_self
  | _ =>
    refine ⟨_, rfl, hasPlainKeys_of_keys ["type"] rfl (by decide), "type", by decide, ?_⟩
    exact known List.mem_cons_self

/-- What is published of what is never missing is one alternative, and not that of nothing. -/
theorem Shows.isPlain (shows : Shows last s j) (present : s.isPresent = true) :
    IsPlain j ∧ j.get? "type" ≠ some (.text "null") := by
  have typed (name : String) {ms : List (String × Json)} (other : Text.ofString name ≠ "null")
      (type : (Json.record ms).get? "type" = some (.str name)) :
      IsPlain (Json.record ms) ∧ (Json.record ms).get? "type" ≠ some (.text "null") := by
    have member : (("type" : Text), Json.str name) ∈ members ms := mem_of_lookup type
    refine ⟨IsSchema.isPlain_of_member member (by decide), ?_⟩
    rw [type]
    exact fun same => other (Json.text.inj (Option.some.inj same))
  cases shows with
  | none => cases present
  | nullable => cases present
  | bool => exact typed "boolean" (by decide) (get?_record_cons _ _ _ _)
  | str => exact typed "string" (by decide) (get?_record_cons _ _ _ _)
  | int => exact typed "integer" (by decide) (get?_record_cons _ _ _ _)
  | list => exact typed "array" (by decide) (by simp)
  | dict => exact typed "object" (by decide) (get?_record_cons _ _ _ _)
  | record =>
    exact ⟨IsSchema.isPlain_of_member (k := "$ref") List.mem_cons_self (by decide), nofun⟩

/-- A map by texts says of its values what they are, and nothing of its keys. -/
theorem dictSchema_text (some : j.without "title" ≠ .object []) :
    dictSchema (.object (schemaType "string")) j {}
      = Json.record [("type", .str "object"), ("additionalProperties", j.without "title")] := by
  unfold dictSchema
  generalize j.without "title" = k at some ⊢
  cases k with
  | object ms =>
    cases ms with
    | nil => exact absurd rfl some
    | cons m ms => rfl
  | _ => rfl

/-- What is no alternative of nothing has it as a second one. -/
theorem anyOf_nothing (plain : IsPlain j) (other : j.get? "type" ≠ some (.text "null")) :
    Json.anyOf [j, .object (schemaType "null")]
      = Json.record [("anyOf", .array [j, .object (schemaType "null")])] := by
  have differ : j.sortKeys.same (Json.object (schemaType "null")).sortKeys = false := by
    rw [← Bool.not_eq_true]
    intro same
    have type : (j.get? "type").map sortKeys = some (.text "null") := by
      rw [← get?_sortKeys, eq_of_same same, get?_sortKeys]
      rfl
    obtain ⟨k, found, sorted⟩ := Option.map_eq_some_iff.mp type
    refine other (found.trans (congrArg some ?_))
    cases k with
    | text t => exact sorted
    | _ => cases sorted
  have alternatives : [j, .object (schemaType "null")].flatMap alternatives = [j, .object (schemaType "null")] := by
    rw [List.flatMap_cons, IsSchema.alternatives_eq plain]
    rfl
  have distinct : distinct [j, .object (schemaType "null")] = [j, .object (schemaType "null")] := by
    simp [Json.distinct, differ]
  rw [anyOf, alternatives, distinct]
  rfl

/-- What is published of an option of it has it and nothing as alternatives. -/
theorem nullable_eq (plain : IsPlain j) (other : j.get? "type" ≠ some (.text "null")) :
    (if j.same (.object (schemaType "null")) then .object (schemaType "null")
      else Json.anyOf [j, .object (schemaType "null")])
      = Json.record [("anyOf", .array [j, .object (schemaType "null")])] := by
  have differ : ¬j.same (.object (schemaType "null")) = true := by
    intro same
    rw [eq_of_same same] at other
    exact other rfl
  rw [if_neg differ, anyOf_nothing plain other]

/-- The fields of a class are described by what is published of their shapes. -/
theorem exists_describes {fields : List (Text × Presence × Shape)} {properties : List (Text × Json)}
    (names : HavePlainNames fields)
    (published : List.Forall₂ (fun f p => p.1 = f.1 ∧ ∃ j, PublishedAs last f.2.2 j ∧
      p.2 = fieldSchema f.1 f.2.1 f.2.2.isTitled j) fields properties) :
    ∃ schemas, Describes fields schemas properties ∧ ∀ f ∈ fields, PublishedAs last f.2.2 (schemas f) := by
  have keys : properties.map (·.1) = fields.map (·.1) := map_eq_of_forall₂ (fun h => h.1) published
  have each : ∀ f ∈ fields, ∃ j, PublishedAs last f.2.2 j ∧
      lookup f.1 properties = some (fieldSchema f.1 f.2.1 f.2.2.isTitled j) := by
    intro f field
    obtain ⟨p, among, named, j, as, is⟩ := exists_right_of_mem published field
    obtain ⟨x, found⟩ := Option.isSome_iff_exists.mp (isSome_lookup ⟨p, among, named⟩)
    -- there is one property of this name
    have one := List.inj_on_of_nodup_map (keys ▸ names.distinct) (mem_of_lookup found) among named.symm
    have same : x = p.2 := congrArg Prod.snd one
    exact ⟨j, as, by rw [found, same, is]⟩
  choose! schemas as found using each
  refine ⟨schemas, ⟨keys, fun p among => ?_, found⟩, as⟩
  obtain ⟨f, -, -, j, as, is⟩ := exists_left_of_mem published among
  rw [is]
  exact (fieldSchema_induction as.isSchema fun _ _ _ note _ h => h.note note).isSome_object?

/-- **What is published** of a basic shape is what it shows. -/
theorem Basic.shows (basic : s.Basic) (as : PublishedAs last s j) : Shows last s j := by
  induction basic generalizing j with
  | none =>
    obtain ⟨-, -, -, published, -⟩ := as
    cases published
    exact .none
  | bool =>
    obtain ⟨-, -, -, published, -⟩ := as
    cases published
    exact .bool
  | str =>
    obtain ⟨-, -, -, published, -⟩ := as
    cases published
    exact .str
  | int =>
    obtain ⟨-, -, -, published, -⟩ := as
    cases published
    exact .int
  | list _ ih =>
    obtain ⟨k, inner, rfl⟩ := as.of_list
    exact .list (ih inner)
  | dict _ ih =>
    obtain ⟨kj, vj, key, value, rfl⟩ := as.of_dict
    obtain ⟨-, -, -, published, -⟩ := key
    cases published
    have inner := ih value
    obtain ⟨ms, rfl, -, key, known, found⟩ := inner.exists_members
    have other : ("title" : Text) ≠ key := by
      rintro rfl
      exact absurd known (by decide)
    have some : (Json.object ms).without "title" ≠ .object [] := by
      intro empty
      have none : remove "title" ms = [] := Json.object.inj empty
      rw [← lookup_remove_ne other, none] at found
      cases found
    have shown : Shows last _ _ := .dict inner
    rwa [← dictSchema_text some] at shown
  | nullable _ present ih =>
    obtain ⟨k, published, rfl⟩ := as.of_nullable
    have inner := ih published
    obtain ⟨plain, other⟩ := inner.isPlain present
    rw [nullable_eq plain other]
    exact .nullable inner
  | record names _ ih =>
    obtain ⟨n, properties, c, rfl, stands, schema, published⟩ := as.of_record
    obtain ⟨schemas, describes, fields⟩ := exists_describes names published
    exact .record stands schema names describes fun f field => ih f field (fields f field)

/-! ### What is read back -/

/-- Members with plain keys repeat what a schema has under its keywords. -/
structure Repeats (j : Json) (ms : List (Text × Json)) : Prop where
  plain : hasPlainKeys ms = true
  same : ∀ key, (Keyword.of? key).isSome = true → lookup key ms = j.get? key

theorem Repeats.refl (plain : hasPlainKeys ms = true) : Repeats (.object ms) ms := ⟨plain, fun _ _ => rfl⟩

/-- Beside a note the keywords are repeated. -/
theorem Repeats.note {key : Text} {k : Json} (repeats : Repeats j ms) (note : Keyword.of? key = Option.none)
    (unicode : key.isScalar = true) : Repeats j (put key k ms) where
  plain := hasPlainKeys_put unicode repeats.plain
  same other keyword := by
    rw [lookup_put_ne (ne_of_note note keyword), repeats.same other keyword]

/-- Without a note the keywords are repeated. -/
theorem Repeats.without {key : Text} (repeats : Repeats j ms) (note : Keyword.of? key = Option.none) :
    Repeats j (remove key ms) where
  plain := hasPlainKeys_remove repeats.plain
  same other keyword := by
    rw [lookup_remove_ne (ne_of_note note keyword), repeats.same other keyword]

/-- The schema of a field repeats that of its shape. -/
theorem repeats_fieldSchema (name : Text) (presence : Presence) (titled : Bool) (plain : hasPlainKeys ms = true) :
    ∃ ns, fieldSchema name presence titled (.object ms) = .object ns ∧ Repeats (.object ms) ns := by
  refine fieldSchema_induction (P := fun j => ∃ ns, j = .object ns ∧ Repeats (.object ms) ns)
    ⟨ms, rfl, .refl plain⟩ ?_
  rintro key k _ note unicode ⟨ns, rfl, repeats⟩
  exact ⟨put key k ns, rfl, repeats.note note unicode⟩

section Repeated

variable {ρ : Text → Text} {key t : Text}

/-- A keyword with a schema is read back with that schema, renamed. -/
theorem Repeats.get? (repeats : Repeats j ms) (found : j.get? key = some k)
    (keyword : (Keyword.of? key).isSome = true) (plain : isSpecial key = false) :
    (renamed ρ (.object ms)).recovered.get? key = some (renamed ρ k).recovered := by
  rw [get?_recovered_renamed repeats.plain, repeats.same key keyword, found, Option.map_some,
    renamedMember_eq_renamed plain]

theorem Repeats.get?_absent (repeats : Repeats j ms) (absent : j.get? key = Option.none)
    (keyword : (Keyword.of? key).isSome = true) :
    (renamed ρ (.object ms)).recovered.get? key = Option.none := by
  rw [get?_recovered_renamed repeats.plain, repeats.same key keyword, absent, Option.map_none]

/-- The type that is read back is the type. -/
theorem Repeats.get?_type (repeats : Repeats j ms) (type : j.get? "type" = some (.text t))
    (unicode : t.isScalar = true) : (renamed ρ (.object ms)).recovered.get? "type" = some (.text t) := by
  have kept : renamed ρ (.text t) = .text t := by simp only [renamed]
  rw [repeats.get? type (by simp [Keyword.table]) (by simp [isSpecial]), kept, recovered_text unicode]

/-- A reference is read back under its name. -/
theorem Repeats.get?_ref (repeats : Repeats j ms) (reference : j.get? "$ref" = some (.text t))
    (unicode : (ρ t).isScalar = true) :
    (renamed ρ (.object ms)).recovered.get? "$ref" = some (.text (ρ t)) := by
  rw [get?_recovered_renamed repeats.plain, repeats.same "$ref" (by simp [Keyword.table]), reference, Option.map_some,
    renamedMember, if_pos rfl, recovered_text unicode]

end Repeated

/-! ### Classes -/

section ClassSchema

variable {kind : ClassKind} {name : Text} {extra : Extra} {properties : List (Text × Json)} {required : List Text}

/-- The members of what is published of a class with a title and perhaps a description. -/
def classMembers (extra : Extra) (properties : List (Text × Json)) (required : List Text) (title : Text)
    (description : Option Json) : List (Text × Json) :=
  let needed : List (Text × Json) :=
    if required.isEmpty then [] else [("required", .array (required.map .text))]
  let additional : List (Text × Json) := match extra with
    | .forbid => [("additionalProperties", .bool false)]
    | .allow => [("additionalProperties", .bool true)]
    | .ignore => []
  members [("properties", .object properties)] ++ needed
    ++ members [("title", .text title), ("type", .str "object")] ++ additional
    ++ optionalMember "description" description

/-- The title of a class. -/
def classTitle (name : Text) : ClassKind → Text
  | .model options => options.title.getD name
  | _ => name

theorem classSchema_eq_classMembers : ∃ description, classSchema kind name extra properties required
    = .object (classMembers extra properties required (classTitle name kind) description) := by
  cases kind with
  | model options =>
    obtain ⟨own, title, description⟩ := options
    cases description with
    | none => exact ⟨Option.none, rfl⟩
    | some d =>
      unfold classSchema
      dsimp only
      by_cases empty : d.isEmpty = true
      · rw [if_pos empty]
        exact ⟨Option.none, rfl⟩
      · rw [if_neg empty]
        exact ⟨some _, rfl⟩
  | dataclass => exact ⟨Option.none, rfl⟩
  | typedDict => exact ⟨Option.none, rfl⟩

/-- These members have plain keys, say that there is an object, and close the class if it is closed. -/
theorem classMembers_plain (title : Text) (description : Option Json) :
    hasPlainKeys (classMembers extra properties required title description) = true ∧
      lookup "type" (classMembers extra properties required title description) = some (.text "object") ∧
      lookup "patternProperties" (classMembers extra properties required title description) = Option.none ∧
      (extra = .forbid → lookup "additionalProperties"
        (classMembers extra properties required title description) = some (.bool false)) := by
  by_cases none : required.isEmpty = true <;> cases extra <;> cases description <;>
    simp +decide [classMembers, none, hasPlainKeys, members, lookup, optionalMember, Json.str]

/-- What is published of a class has plain keys, says that it is an object, and closes it if the class is
closed. -/
theorem classSchema_eq_plain : ∃ ms, classSchema kind name extra properties required = .object ms ∧
    hasPlainKeys ms = true ∧ lookup "type" ms = some (.text "object") ∧
    lookup "patternProperties" ms = Option.none ∧
    (extra = .forbid → lookup "additionalProperties" ms = some (.bool false)) := by
  obtain ⟨description, is⟩ := @classSchema_eq_classMembers kind name extra properties required
  exact ⟨_, is, classMembers_plain _ description⟩

/-- A schema that has what is published of a class, with names and read back, tells of the fields of the
class. -/
theorem Describes.tells {ρ : Text → Text} {fields : List (Text × Presence × Shape)}
    {schemas : Text × Presence × Shape → Json} (describes : Describes fields schemas properties)
    (names : HavePlainNames fields)
    (same : ∀ key : Text, key ≠ "$defs" → k.get? key
      = (renamed ρ (classSchema kind name extra properties (requiredNames fields))).recovered.get? key) :
    ∃ told, TellsFields fields k told ∧
      (∀ key, told.get? key = (lookup key properties).map fun p => (renamed ρ p).recovered) ∧
      k.get? "patternProperties" = Option.none ∧
      (extra = .forbid → k.get? "additionalProperties" = some (.bool false)) := by
  obtain ⟨ms, object, plain, type, unmatched, closed⟩ :=
    @classSchema_eq_plain kind name extra properties (requiredNames fields)
  obtain ⟨ms', object', hasProperties, hasRequired⟩ :=
    classSchema_eq_object kind name extra properties (requiredNames fields)
  obtain rfl := Json.object.inj (object.symm.trans object')
  rw [object] at same
  have repeats : Repeats (.object ms) ms := .refl plain
  have properties' : k.get? "properties" = some (Json.object (renamedMembers ρ .names properties)).recovered := by
    rw [same _ (by decide), get?_recovered_renamed plain, hasProperties, Option.map_some, renamedMember,
      if_neg (by decide)]
    rfl
  have found (key : Text) : (Json.object (renamedMembers ρ .names properties)).recovered.get? key
      = (lookup key properties).map fun p => (renamed ρ p).recovered := by
    rw [get?_recovered (hasPlainKeys_renamedMembers .names (describes.plain names)),
      lookup_renamedMembers_names key describes.objects, Option.map_map]
    rfl
  refine ⟨_, ⟨?_, properties', fun f field => ?_, fun f field needed => ?_⟩, found, ?_, fun forbids => ?_⟩
  · rw [same _ (by decide), repeats.get?_type type rfl]
  · rw [found, describes.found f field]
    exact ⟨_, rfl⟩
  · have among : f.1 ∈ requiredNames fields := List.mem_map_of_mem (List.mem_filter.mpr ⟨field, needed⟩)
    have some : ¬(requiredNames fields).isEmpty = true := by
      rw [List.isEmpty_iff]
      exact List.ne_nil_of_mem among
    have unicode : ∀ n ∈ requiredNames fields, n.isScalar = true := by
      rw [requiredNames, List.forall_mem_map]
      exact fun f member => names.unicode f (List.mem_of_mem_filter member)
    have kept : renamed ρ (.array ((requiredNames fields).map .text))
        = .array ((requiredNames fields).map .text) := by
      rw [renamed, renamedItems_texts]
    rw [if_neg some] at hasRequired
    refine ⟨(requiredNames fields).map .text, ?_, List.mem_map_of_mem among⟩
    rw [same _ (by decide), repeats.get? hasRequired (by simp [Keyword.table]) (by simp [isSpecial]), kept, recovered_texts unicode]
  · rw [same _ (by decide), repeats.get?_absent unmatched (by simp [Keyword.table])]
  · rw [same _ (by decide), repeats.get? (closed forbids) (by simp [Keyword.table]) (by simp [isSpecial])]
    rfl

/-- What describes a field repeats what is published of its shape, and refers to what its class refers to. -/
theorem Describes.exists_members {P : Text → Prop} {fields : List (Text × Presence × Shape)}
    {f : Text × Presence × Shape} {schemas : Text × Presence × Shape → Json}
    (describes : Describes fields schemas properties) (field : f ∈ fields) (shows : Shows last f.2.2 (schemas f))
    (refers : Refers P (classSchema kind name extra properties required)) (ρ : Text → Text) :
    ∃ ns, Repeats (schemas f) ns ∧ Refers P (.object ns) ∧
      ((lookup f.1 properties).map fun p => (renamed ρ p).recovered) = some (renamed ρ (.object ns)).recovered := by
  obtain ⟨ms, shown, plain, -⟩ := shows.exists_members
  obtain ⟨ns, is, repeats⟩ := repeats_fieldSchema f.1 f.2.1 f.2.2.isTitled plain
  have found : lookup f.1 properties = some (.object ns) := by
    rw [describes.found f field, shown, is]
  obtain ⟨members, object, hasProperties, -⟩ := classSchema_eq_object kind name extra properties required
  rw [object] at refers
  have refersProperties : RefersMembers P properties :=
    refersMembers_object.mp ((refers_object.mp refers).lookup hasProperties)
  refine ⟨ns, shown ▸ repeats, refersMembers_object.mp (refersProperties.lookup found), ?_⟩
  rw [found, Option.map_some]

end ClassSchema

/-! ### Telling -/

/-- **What is shown is told**: where references are recalled, what is published of a basic shape still tells
the shape when classes have names and every object was read back. -/
theorem Shows.told {g : Glossary} {target? : Text → Option Json}
    (recalls : ∀ n ∈ g.used, g.classes.Recalls target? g.names n) (shows : Shows g.classes s j) :
    ∀ {self : Option Nat} {ms : List (Text × Json)}, Repeats j ms → Refers (g.IsRight self) (.object ms) →
      Told target? s (renamed (namedReference g.names self) (.object ms)).recovered := by
  induction shows with
  | none =>
    intro self ms repeats _
    exact .none (repeats.get?_type rfl rfl)
  | bool =>
    intro self ms repeats _
    exact .bool (repeats.get?_type rfl rfl)
  | str =>
    intro self ms repeats _
    exact .str (repeats.get?_type rfl rfl)
  | int =>
    intro self ms repeats _
    exact .int (repeats.get?_type rfl rfl)
  | list inner ih =>
    intro self ms repeats refers
    obtain ⟨ns, rfl, plain, -⟩ := inner.exists_members
    have items : lookup "items" ms = some (.object ns) := by
      rw [repeats.same _ (by simp [Keyword.table])]
      simp
    have refersItems : Refers (g.IsRight self) (.object ns) :=
      refersMembers_object.mp ((refers_object.mp refers).lookup items)
    exact .list (repeats.get?_type (by simp [Json.str]) rfl) (repeats.get? (by simp) (by simp [Keyword.table]) (by simp [isSpecial]))
      (repeats.get?_absent (by simp) (by simp [Keyword.table])) (ih (.refl plain) refersItems)
  | dict inner ih =>
    intro self ms repeats refers
    obtain ⟨ns, rfl, plain, -⟩ := inner.exists_members
    have values : lookup "additionalProperties" ms = some (.object (remove "title" ns)) := by
      rw [repeats.same _ (by simp [Keyword.table])]
      simp [without]
    have refersValues : Refers (g.IsRight self) (.object (remove "title" ns)) :=
      refersMembers_object.mp ((refers_object.mp refers).lookup values)
    have repeatsValues : Repeats (.object ns) (remove "title" ns) := (Repeats.refl plain).without (by simp [Keyword.table])
    exact .dict (repeats.get?_type (by simp [Json.str]) rfl) (repeats.get? (by simp [without]) (by simp [Keyword.table]) (by simp [isSpecial]))
      (repeats.get?_absent (by simp) (by simp [Keyword.table])) (repeats.get?_absent (by simp) (by simp [Keyword.table]))
      (ih repeatsValues refersValues)
  | nullable inner ih =>
    intro self ms repeats refers
    obtain ⟨ns, rfl, plain, -⟩ := inner.exists_members
    have alternatives : lookup "anyOf" ms = some (.array [.object ns, .object (schemaType "null")]) := by
      rw [repeats.same _ (by simp [Keyword.table])]
      simp
    have refersEach := (refersMembers_array (by decide)).mp ((refers_object.mp refers).lookup alternatives)
    have either : (Json.record [("anyOf", .array [.object ns, .object (schemaType "null")])]).get? "anyOf"
        = some (.array [.object ns, .object (schemaType "null")]) := by simp
    have found : (renamed (namedReference g.names self) (.object ms)).recovered.get? "anyOf"
        = some (.array [(renamed (namedReference g.names self) (.object ns)).recovered,
          (renamed (namedReference g.names self) (.object (schemaType "null"))).recovered]) := by
      rw [repeats.get? either (by simp [Keyword.table]) (by simp [isSpecial]), renamed, renamedItems_eq_map, recovered_array]
      rfl
    have nothing : Repeats (.object (schemaType "null")) (schemaType "null") :=
      .refl (hasPlainKeys_of_keys ["type"] rfl (by decide))
    exact .nullable found (nothing.get?_type rfl rfl) (ih (.refl plain) (refersEach _ List.mem_cons_self))
  | @record options name fields n c schemas properties stands schema names describes inner ih =>
    intro self ms repeats refers
    have reference : lookup "$ref" ms = some (.text (referenceStart ++ Text.ofNat n)) := by
      rw [repeats.same _ (by simp [Keyword.table])]
      rfl
    have number := numberOf?_reference self n
    have right : g.IsRight self (referenceStart ++ Text.ofNat n) :=
      (refers_object.mp refers).lookup reference _ (by simp [referenceTextsMembers])
    have used := Glossary.mem_used_of_isRight right number
    obtain ⟨c', stands', leads⟩ := recalls n used
    obtain rfl : c = c' := Option.some.inj (stands.symm.trans stands')
    obtain ⟨unicode, target⟩ := leads self _ number
    rw [schema] at target
    obtain ⟨told, tells, found, -⟩ := describes.tells names (k := (renamed (namedReference g.names (some n))
      (classSchema (.model options) name .ignore properties (requiredNames fields))).recovered) fun _ _ => rfl
    refine .record (repeats.get?_ref rfl unicode) target tells fun f field p property => ?_
    -- Within the class references are those of the class, which is in use.
    have refersClass : Refers (g.IsRight (some n)) c.schema := Glossary.refers_class used stands
    rw [schema] at refersClass
    obtain ⟨ns, repeatsField, refersField, is⟩ :=
      describes.exists_members field (inner f field) refersClass (namedReference g.names (some n))
    rw [found, is, Option.some.injEq] at property
    exact property ▸ ih f field repeatsField refersField

/-! ### Classes of arguments -/

/-- What stands in a document that is read back beside the table is what stands in its root. -/
theorem get?_recovered_document {ds : Definitions} {root doc : Json} {names : List (Nat × Text)}
    (plain : hasPlainKeys ms = true) (members : ds.opened root = .object ms) (h : ds.document? root = some doc)
    (settled : ds.names? (.object ms) = some names) (key : Text) (other : key ≠ "$defs") :
    doc.recovered.get? key = (renamed (namedReference names Option.none) (.object ms)).recovered.get? key := by
  obtain ⟨names', settled', rfl⟩ := document?_eq_some members h
  obtain rfl := Option.some.inj (settled.symm.trans settled')
  have plainRoot := hasPlainKeys_renamedMembers (ρ := namedReference names Option.none) .schema plain
  rw [renamed, get?_recovered plainRoot]
  split
  · rw [get?_recovered plainRoot]
  · rw [get?_recovered (hasPlainKeys_put rfl plainRoot), lookup_put_ne other.symm]

/-- A class whose fields do not name it is opened at the root, and its fields are published on the way. -/
theorem opened_record {kind : ClassKind} {name : Text} {extra : Extra} {fields : List (Text × Presence × Shape)}
    {root : Json} {ds : Definitions} (closed : ∀ f ∈ fields, f.2.2.WellFormed false)
    (clean : Clean (record kind name extra fields).publishedData)
    (made : published [] (record kind name extra fields) = .ok (root, ds)) :
    ∃ properties, ds.opened root = classSchema kind name extra properties (requiredNames fields) ∧
      List.Forall₂ (fun f p => p.1 = f.1 ∧ ∃ j, PublishedAs ds f.2.2 j ∧
        p.2 = fieldSchema f.1 f.2.1 f.2.2.isTitled j) fields properties := by
  rw [published] at made
  obtain ⟨⟨properties, before⟩, found, made⟩ := bind_eq_ok.mp made
  have spec := publishedFields_spec closed clean .nil found
  have refers : Refers (Allowed before.length false)
      (classSchema kind name extra properties (requiredNames fields)) :=
    refers_classSchema (refersMembers_values spec)
  have made : referred ⟨moduleOf kind, name, classSchema kind name extra properties (requiredNames fields)⟩ before
      = (root, ds) := pure_eq_ok.mp made
  generalize is : (⟨moduleOf kind, name, classSchema kind name extra properties (requiredNames fields)⟩
    : ClassSchema) = c at made
  have schema : c.schema = classSchema kind name extra properties (requiredNames fields) := is ▸ rfl
  rw [← schema] at refers
  obtain ⟨rfl, rfl⟩ : (referred c before).1 = root ∧ (referred c before).2 = ds := Prod.mk.inj made
  have grows : before <+: (referred c before).2 := (spec.sound.add (refers.imp fun _ => Allowed.inClass)).1
  exact ⟨properties, (opened_referred spec.sound refers).trans schema,
    PublishedAs.of_fields closed clean .nil found grows⟩

variable {options : ModelOptions} {name : Text} {extra : Extra} {fields : List (Text × Presence × Shape)} {doc : Json}

/-- The document of a class whose fields are basic tells of its fields, and closes the class if it is
closed. -/
theorem exists_tells (names : HavePlainNames fields) (basic : ∀ f ∈ fields, f.2.2.Basic)
    (h : (record (.model options) name extra fields).schema = .ok doc) :
    ∃ told, TellsFields fields doc.recovered told ∧
      (∀ f ∈ fields, ∀ p, told.get? f.1 = some p → Told (Json.target? doc.recovered) f.2.2 p) ∧
      (∀ key, (told.get? key).isSome = true → key ∈ fields.map (·.1)) ∧
      doc.recovered.get? "patternProperties" = Option.none ∧
      (extra = .forbid → doc.recovered.get? "additionalProperties" = some (.bool false)) := by
  have closed : ∀ f ∈ fields, f.2.2.WellFormed false := fun f field => (basic f field).wellFormed false
  have wellFormed : (record (.model options) name extra fields).WellFormed false :=
    .record fun f field => (basic f field).wellFormed true
  obtain ⟨root, ds, made, clean, document⟩ := schema_eq_ok h
  have spec := published_spec wellFormed clean .nil made
  obtain ⟨properties, opened, published⟩ := opened_record closed clean made
  obtain ⟨schemas, describes, as⟩ := exists_describes names published
  have shows : ∀ f ∈ fields, Shows ds f.2.2 (schemas f) := fun f field => (basic f field).shows (as f field)
  -- The root is an object with plain keys, which has the names of its classes from a glossary.
  obtain ⟨ms, object, plain, -⟩ :=
    @classSchema_eq_plain (.model options) name extra properties (requiredNames fields)
  have members := opened.trans object
  obtain ⟨settled, named, -⟩ := document?_eq_some members document
  have refers := spec.sound.refers_glossary spec.refers members document named
  generalize glossary : spec.sound.glossary spec.refers members document named = g at refers
  have recalls : ∀ n ∈ g.used, g.classes.Recalls (Json.target? doc.recovered) g.names n := by
    subst glossary
    intro n used
    obtain ⟨c, stands, -⟩ := (spec.sound.glossary spec.refers members document named).leads n used
    exact recalls_of_mem_used members plain document named used (List.getElem?_eq_some_iff.mp stands).1
  have same : ∀ key : Text, key ≠ "$defs" → doc.recovered.get? key
      = (renamed (namedReference settled Option.none)
        (classSchema (.model options) name extra properties (requiredNames fields))).recovered.get? key := by
    rw [object]
    exact get?_recovered_document plain members document named
  obtain ⟨told, tells, found, unmatched, forbids⟩ := describes.tells names same
  rw [← object] at refers
  subst glossary
  refine ⟨told, tells, fun f field p property => ?_, fun key some => ?_, unmatched, forbids⟩
  · obtain ⟨ns, repeats, refersField, is⟩ :=
      describes.exists_members field (shows f field) refers (namedReference settled Option.none)
    rw [found, is, Option.some.injEq] at property
    have recalled := (shows f field).told recalls repeats refersField
    exact property ▸ recalled
  · rw [found, Option.isSome_map] at some
    obtain ⟨p, property⟩ := Option.isSome_iff_exists.mp some
    rw [← describes.keys]
    exact List.mem_map_of_mem (mem_of_lookup property)

/-- **A published class of arguments is heeded**: a closed class whose fields are basic takes every object
that is valid under its document as callers see it, if integers are written as integers. -/
theorem takes_of_isValid (names : HavePlainNames fields) (basic : ∀ f ∈ fields, f.2.2.Basic)
    (h : (record (.model options) name .forbid fields).schema = .ok doc)
    (valid : doc.sortKeys.readBack.IsValid (.object ms)) (integers : (Json.object ms).writesIntegers = true) :
    (record (.model options) name .forbid fields).Takes (.object ms) := by
  obtain ⟨told, tells, inner, declared, unmatched, closed⟩ := exists_tells names basic h
  obtain ⟨n, accepted⟩ : ∃ n, accepts (Json.target? doc.recovered) n doc.recovered (.object ms) = true :=
    valid.exists
  rw [writesIntegers_object] at integers
  have fieldsTake : ∀ f ∈ fields, TakesField ms f :=
    tells.takes accepted fun f field p property m j given acceptedField =>
      (inner f field p property).takes acceptedField (integers _ (mem_of_lookup given))
  -- Members that are not declared are refused by the schema already.
  have known : ∀ e ∈ ms, e.1 ∈ fields.map (·.1) := fun e member =>
    declared e.1 (declared_of_closed accepted (closed rfl) tells.declared unmatched e member)
  exact takes_record_forbid fieldsTake names.unicode known

end Shape

end GuardedTools
