import GuardedTools.Proofs.Json.Finite
import GuardedTools.Proofs.Shape.Document

/-!
# Numbers in published schemas

The floating-point numbers in a schema are those of the data that it is made of: limits, literals, members
of enumerations, defaults and notes.  If they are finite, so are all numbers of the schema
(`Shape.schema_isFinite`): making the schema of a shape adds none, and neither does giving names to classes.
-/

namespace GuardedTools

namespace Json

variable {key : Text} {j k : Json} {js ks : List Json} {ms ns : List (Text × Json)}

/-! ### Members -/

theorem areFinite_append :
    areFinite (js ++ ks) = true ↔ areFinite js = true ∧ areFinite ks = true := by
  rw [areFinite_iff, areFinite_iff, areFinite_iff]
  exact List.forall_mem_append

theorem areFiniteMembers_append :
    areFiniteMembers (ms ++ ns) = (areFiniteMembers ms && areFiniteMembers ns) := by
  induction ms with
  | nil => rfl
  | cons m ms ih => rw [List.cons_append, areFiniteMembers, areFiniteMembers, ih, Bool.and_assoc]

theorem areFiniteMembers_put (finite : j.isFinite = true) (h : areFiniteMembers ms = true) :
    areFiniteMembers (put key j ms) = true := by
  rw [areFiniteMembers_iff] at h ⊢
  intro m member
  rcases mem_put member with rfl | before
  · exact finite
  · exact h m before

theorem areFiniteMembers_optional {name : String} {value : Option Json}
    (h : ∀ j, value = some j → j.isFinite = true) : areFiniteMembers (optionalMember name value) = true := by
  cases value with
  | none => rfl
  | some j =>
    show (j.isFinite && true) = true
    rw [h j rfl]
    rfl

theorem areFiniteMembers_ite {c : Prop} [Decidable c] (h : areFiniteMembers ms = true) :
    areFiniteMembers (if c then ms else []) = true := by
  split
  · exact h
  · rfl

theorem isFinite_of_get? (h : j.isFinite = true) (found : j.get? key = some k) : k.isFinite = true := by
  cases j with
  | object ms => exact isFinite_object.mp h _ (mem_of_lookup found)
  | _ => cases found

theorem isFinite_withMembers (h : j.isFinite = true) (added : areFiniteMembers ns = true) :
    (j.withMembers ns).isFinite = true := by
  unfold withMembers
  split
  · refine isFinite_object.mpr fun m member => ?_
    rcases mem_of_mem_foldl_put member with new | before
    · exact areFiniteMembers_iff.mp added m new
    · exact isFinite_object.mp h m before
  · exact h

theorem isFinite_without (h : j.isFinite = true) : (j.without key).isFinite = true := by
  unfold without
  split
  · exact isFinite_object.mpr fun m member => isFinite_object.mp h m (List.mem_filter.mp member).1
  · exact h

/-! ### Alternatives -/

theorem isFinite_of_mem_alternatives (h : j.isFinite = true) (member : k ∈ j.alternatives) :
    k.isFinite = true := by
  unfold alternatives at member
  split at member
  next key members =>
    split at member
    · have items := isFinite_object.mp h _ List.mem_cons_self
      exact isFinite_array.mp items k member
    · exact List.mem_singleton.mp member ▸ h
  next => exact List.mem_singleton.mp member ▸ h

theorem isFinite_anyOf (h : areFinite js = true) : (anyOf js).isFinite = true := by
  have all : ∀ k ∈ distinct (js.flatMap alternatives), k.isFinite = true := by
    intro k member
    obtain ⟨j, among, member⟩ := List.mem_flatMap.mp (Definitions.mem_of_mem_distinct member)
    exact isFinite_of_mem_alternatives (areFinite_iff.mp h j among) member
  unfold anyOf
  split
  next single => exact all _ (single ▸ List.mem_cons_self)
  next =>
    show (areFinite (distinct (js.flatMap alternatives)) && true) = true
    rw [areFinite_iff.mpr all]
    rfl

/-! ### Names -/

mutual

/-- Writing references anew changes no number. -/
theorem isFinite_renamed (rename : Text → Text) (j : Json) :
    (Definitions.renamed rename j).isFinite = j.isFinite := by
  match j with
  | null | bool _ | int _ | float _ | text _ => rfl
  | array js => exact areFinite_renamedItems rename js
  | object ms => exact areFiniteMembers_renamedMembers rename .schema ms

theorem areFinite_renamedItems (rename : Text → Text) (js : List Json) :
    areFinite (Definitions.renamedItems rename js) = areFinite js := by
  match js with
  | [] => rfl
  | j :: js => rw [Definitions.renamedItems, areFinite, areFinite, isFinite_renamed, areFinite_renamedItems]

theorem areFiniteMembers_renamedMembers (rename : Text → Text) (part : Definitions.Part)
    (ms : List (Text × Json)) :
    areFiniteMembers (Definitions.renamedMembers rename part ms) = areFiniteMembers ms := by
  match ms with
  | [] => rfl
  | (key, j) :: ms =>
    rw [Definitions.renamedMembers, areFiniteMembers, areFiniteMembers, isFinite_renamedMember,
      areFiniteMembers_renamedMembers]

theorem isFinite_renamedMember (rename : Text → Text) (part : Definitions.Part) (key : Text) (j : Json) :
    (Definitions.renamedMember rename part key j).isFinite = j.isFinite := by
  match j with
  | null | bool _ | int _ | float _ | text _ => rfl
  | array js =>
    rw [Definitions.renamedMember]
    split
    · rfl
    · exact areFinite_renamedItems rename js
  | object ms =>
    rw [Definitions.renamedMember]
    split
    · exact areFiniteMembers_renamedMapping rename ms
    · exact areFiniteMembers_renamedMembers rename _ ms

theorem areFiniteMembers_renamedMapping (rename : Text → Text) (ms : List (Text × Json)) :
    areFiniteMembers (Definitions.renamedMapping rename ms) = areFiniteMembers ms := by
  match ms with
  | [] => rfl
  | (key, j) :: ms =>
    rw [Definitions.renamedMapping, areFiniteMembers, areFiniteMembers, isFinite_renamedTag,
      areFiniteMembers_renamedMapping]

theorem isFinite_renamedTag (rename : Text → Text) (j : Json) :
    (Definitions.renamedTag rename j).isFinite = j.isFinite := by
  match j with
  | null | bool _ | int _ | float _ | text _ | array _ => rfl
  | object ms => exact areFiniteMembers_renamedMembers rename .schema ms

end

end Json

/-! ### Classes -/

namespace Definitions

open Json

variable {ds : Definitions} {root doc : Json}

/-- All numbers in classes are finite. -/
def AreFinite (ds : Definitions) : Prop := ∀ c ∈ ds, c.schema.isFinite = true

theorem AreFinite.add {c : ClassSchema} (h : ds.AreFinite) (finite : c.schema.isFinite = true) :
    (ds.add c).2.AreFinite := by
  unfold Definitions.add
  split
  · exact h
  · exact List.forall_mem_append.mpr ⟨h, List.forall_mem_singleton.mpr finite⟩

theorem AreFinite.namedSchema (h : ds.AreFinite) (names : List (Nat × Text)) (n : Nat) :
    (ds.namedSchema names n).isFinite = true := by
  unfold Definitions.namedSchema
  split
  next c found => exact (isFinite_renamed _ _).trans (h c (List.mem_of_getElem? found))
  next => rfl

theorem AreFinite.table (h : ds.AreFinite) (names : List (Nat × Text)) :
    areFiniteMembers (ds.table names) = true := by
  have each : ∀ (ns : List (Nat × Text)) (ms : List (Text × Json)), areFiniteMembers ms = true →
      areFiniteMembers (ns.foldl (fun ms n => Json.put n.2 (ds.namedSchema names n.1) ms) ms) = true := by
    intro ns
    induction ns with
    | nil => exact fun ms finite => finite
    | cons n ns ih => exact fun ms finite => ih _ (areFiniteMembers_put (h.namedSchema names n.1) finite)
  exact each names [] rfl

theorem AreFinite.opened (h : ds.AreFinite) (finite : root.isFinite = true) :
    (ds.opened root).isFinite = true := by
  unfold Definitions.opened
  split
  · split
    next n number =>
      dsimp only
      split
      · cases found : ds[n]? with
        | none => exact finite
        | some c => exact h c (List.mem_of_getElem? found)
      · exact finite
    next => exact finite
  · exact finite

theorem AreFinite.document (h : ds.AreFinite) (finite : root.isFinite = true)
    (made : ds.document? root = some doc) : doc.isFinite = true := by
  obtain ⟨names, -, made⟩ := Option.bind_eq_some_iff.mp made
  have named := (isFinite_renamed (namedReference names none) _).trans (h.opened finite)
  split at made
  next members same =>
    rw [same] at named
    split at made
    · exact Option.some.inj made ▸ named
    · exact Option.some.inj made ▸ areFiniteMembers_put (h.table names) named
  next => exact Option.some.inj made ▸ named

end Definitions

/-! ### Schemas of shapes -/

namespace Shape

open Json

variable {ds ds' : Definitions} {j : Json} {js : List Json}

theorem areFiniteMembers_lengthMembers (least most : String) (l : LengthLimits) :
    areFiniteMembers (lengthMembers least most l) = true := by
  have counted {key : String} {n : Option Nat} :
      areFiniteMembers (Json.optionalMember key (n.map fun n => .int n)) = true := by
    refine areFiniteMembers_optional fun j found => ?_
    obtain ⟨n, -, rfl⟩ := Option.map_eq_some_iff.mp found
    rfl
  rw [lengthMembers, areFiniteMembers_append, counted, counted]
  rfl

theorem areFiniteMembers_type (kind : Option Text) :
    areFiniteMembers (Json.optionalMember "type" (kind.map .text)) = true := by
  refine areFiniteMembers_optional fun j found => ?_
  obtain ⟨t, -, rfl⟩ := Option.map_eq_some_iff.mp found
  rfl

/-- A schema of items has the numbers of the schema of one item. -/
theorem isFinite_items {ms : List (Text × Json)} (h : j.isFinite = true) (kind : String)
    (others : areFiniteMembers ms = true) :
    (Json.object (("items", j) :: ("type", .str kind) :: ms)).isFinite = true := by
  show (j.isFinite && (true && areFiniteMembers ms)) = true
  rw [h, others]
  rfl

theorem isFinite_tuple (h : areFinite js = true) (l : LengthLimits) :
    ((Json.object ((if js.isEmpty then [] else [(("prefixItems" : Text), Json.array js)])
      ++ Json.members [("minItems", .int js.length), ("maxItems", .int js.length),
        ("type", .str "array")])).withMembers (lengthMembers "minItems" "maxItems" l)).isFinite = true := by
  refine isFinite_withMembers ?_ (areFiniteMembers_lengthMembers _ _ l)
  rw [isFinite, areFiniteMembers_append]
  split
  · rfl
  · show ((areFinite js && true) && true) = true
    rw [h]
    rfl

theorem isFinite_dictSchema {kj vj : Json} (key : kj.isFinite = true) (value : vj.isFinite = true)
    (l : LengthLimits) : (dictSchema kj vj l).isFinite = true := by
  have untitled : (vj.without "title").isFinite = true := isFinite_without value
  unfold dictSchema
  rw [isFinite, areFiniteMembers_append, areFiniteMembers_append, areFiniteMembers_append,
    areFiniteMembers_lengthMembers, Bool.and_true, Bool.and_eq_true, Bool.and_eq_true]
  refine ⟨⟨rfl, ?_⟩, ?_⟩
  · split
    · show ((vj.without "title").isFinite && true && true) = true
      rw [untitled]
      rfl
    · split
      · rfl
      · show ((vj.without "title").isFinite && true) = true
        rw [untitled]
        rfl
  · have described : (if (kj.get? "$ref").isSome then kj
        else (kj.without "pattern").without "title").isFinite = true := by
      split
      · exact key
      · exact isFinite_without (isFinite_without key)
    refine areFiniteMembers_ite ?_
    rw [areFiniteMembers, isFinite_without described]
    rfl

theorem isFinite_nullable (h : j.isFinite = true) :
    (if j.same (.object (Json.schemaType "null")) then .object (Json.schemaType "null")
      else Json.anyOf [j, .object (Json.schemaType "null")]).isFinite = true := by
  split
  · rfl
  · refine isFinite_anyOf ?_
    rw [areFinite, h]
    rfl

theorem isFinite_union (h : areFinite js = true) :
    (match js with
      | [j] => j
      | js => Json.anyOf js).isFinite = true := by
  split
  next j =>
    rw [areFinite, Bool.and_eq_true] at h
    exact h.1
  next => exact isFinite_anyOf h

/-- The classes of a union under their tags have the numbers of the classes. -/
theorem isFinite_tagged {field : Text} {js : List (Text × Json)} (h : areFiniteMembers js = true) :
    (Json.record [
      ("discriminator", Json.record [("mapping", .object
        ((js.foldl (fun ms m => Json.put m.1 m.2 ms) []).map fun (tag, j) =>
          (tag, (j.get? "$ref").getD j))), ("propertyName", .text field)]),
      ("oneOf", .array (Json.distinct ((js.foldl (fun ms m => Json.put m.1 m.2 ms) []).map (·.2))))]).isFinite
      = true := by
  have named : ∀ m ∈ js.foldl (fun ms m => Json.put m.1 m.2 ms) [], m.2.isFinite = true := by
    intro m member
    exact areFiniteMembers_iff.mp h m ((mem_of_mem_foldl_put member).resolve_right List.not_mem_nil)
  generalize js.foldl _ [] = byTag at named ⊢
  have mapping : areFiniteMembers (byTag.map fun (tag, j) => (tag, (j.get? "$ref").getD j)) = true := by
    refine areFiniteMembers_iff.mpr fun m member => ?_
    obtain ⟨⟨tag, j⟩, among, rfl⟩ := List.mem_map.mp member
    have finite := named _ among
    dsimp only at finite ⊢
    cases found : j.get? "$ref" with
    | none => exact finite
    | some k => exact isFinite_of_get? finite found
  have several : areFinite (Json.distinct (byTag.map (·.2))) = true := by
    refine areFinite_iff.mpr fun j member => ?_
    obtain ⟨m, among, rfl⟩ := List.mem_map.mp (Definitions.mem_of_mem_distinct member)
    exact named m among
  show ((areFiniteMembers (byTag.map fun (tag, j) => (tag, (j.get? "$ref").getD j)) && true)
    && (areFinite (Json.distinct (byTag.map (·.2))) && true)) = true
  rw [mapping, several]
  rfl

theorem isFinite_literalSchema {vs : List Value} (h : areFinite (vs.map publishedValue) = true) :
    (literalSchema vs).isFinite = true := by
  unfold literalSchema
  dsimp only
  generalize vs.map publishedValue = js at h
  split
  next j =>
    rw [isFinite, areFiniteMembers_append, areFiniteMembers_type, Bool.and_true]
    exact h
  next =>
    rw [isFinite, areFiniteMembers_append, areFiniteMembers_type, Bool.and_true]
    exact (Bool.and_true _).trans h

theorem isFinite_enumSchema {name : Text} {members : List (Text × Value)}
    (h : areFinite (members.map fun m => publishedValue m.2) = true) :
    (enumSchema name members).isFinite = true := by
  unfold enumSchema
  rw [isFinite, areFiniteMembers_append, areFiniteMembers_type, Bool.and_true]
  exact (Bool.and_true _).trans h

theorem isFinite_classSchema {kind : ClassKind} {name : Text} {extra : Extra}
    {properties : List (Text × Json)} {required : List Text} (h : areFiniteMembers properties = true) :
    (classSchema kind name extra properties required).isFinite = true := by
  have texts : areFinite (required.map .text) = true := by
    refine areFinite_iff.mpr fun j member => ?_
    obtain ⟨t, -, rfl⟩ := List.mem_map.mp member
    rfl
  unfold classSchema
  rw [isFinite]
  simp only [areFiniteMembers_append, Bool.and_eq_true]
  refine ⟨⟨⟨⟨?_, ?_⟩, rfl⟩, ?_⟩, ?_⟩
  · show (areFiniteMembers properties && true) = true
    rw [h]
    rfl
  · split
    · rfl
    · show (areFinite (required.map .text) && true) = true
      rw [texts]
      rfl
  · split <;> rfl
  · split
    · split
      · split <;> rfl
      · rfl
    · rfl

/-- The schema of a field has the numbers of its default besides. -/
theorem isFinite_fieldSchema {name : Text} {presence : Presence} {titled : Bool} (h : j.isFinite = true)
    (default : ∀ v, presence = .default v → areFinite v.published?.toList = true) :
    (fieldSchema name presence titled j).isFinite = true := by
  have titledField {k : Json} (h : k.isFinite = true) :
      (if titled && (k.get? "title").isNone then
        k.withMembers [("title", .text name.fieldTitle)] else k).isFinite = true := by
    split
    · exact isFinite_withMembers h rfl
    · exact h
  cases presence with
  | default v =>
    cases shown : v.published? with
    | none =>
      simp only [fieldSchema, shown]
      exact titledField h
    | some d =>
      have finite := default v rfl
      rw [shown] at finite
      simp only [fieldSchema, shown]
      exact titledField (isFinite_withMembers h finite)
  | _ => exact titledField h

/-- A schema, and the classes that were found when it was made, have finite numbers only. -/
structure HasFinite (ds : Definitions) (j : Json) : Prop where
  classes : ds.AreFinite
  schema : j.isFinite = true

theorem hasFinite_referred {c : ClassSchema} (classes : ds.AreFinite) (finite : c.schema.isFinite = true) :
    HasFinite (referred c ds).2 (referred c ds).1 :=
  ⟨classes.add finite, rfl⟩

mutual

/-- What is published of finite data is finite: a schema, and the classes found with it. -/
theorem published_hasFinite {s : Shape} {ds ds' : Definitions} {j : Json}
    (finite : areFinite s.publishedData = true) (classes : ds.AreFinite)
    (h : published ds s = .ok (j, ds')) : HasFinite ds' j := by
  cases s with
  | any | none | bool | complex | time | dateTime | duration | uuid | self =>
    cases h
    exact ⟨classes, rfl⟩
  | callable | instances c => cases h
  | str l p =>
    cases h
    refine ⟨classes, ?_⟩
    rw [isFinite, areFiniteMembers_append, areFiniteMembers_append, areFiniteMembers_lengthMembers,
      areFiniteMembers_optional]
    · rfl
    · intro j found
      obtain ⟨t, -, rfl⟩ := Option.map_eq_some_iff.mp found
      rfl
  | int l | float f l =>
    cases h
    refine ⟨classes, ?_⟩
    rw [publishedData, areFinite, areFinite, Bool.and_true] at finite
    rw [isFinite, areFiniteMembers_append]
    exact finite
  | decimal f d l =>
    cases h
    refine ⟨classes, ?_⟩
    rw [publishedData, areFinite, areFinite, Bool.and_true] at finite
    have number : (Json.object (Json.schemaType "number" ++ decimalMembers l)).isFinite = true := by
      rw [isFinite, areFiniteMembers_append]
      exact finite
    show ((Json.isFinite (.object _) && true) && true) = true
    rw [number]
    rfl
  | bytes l =>
    cases h
    refine ⟨classes, ?_⟩
    rw [isFinite, areFiniteMembers_append, areFiniteMembers_lengthMembers]
    rfl
  | date l =>
    cases h
    rw [publishedData, areFinite, areFinite, Bool.and_true] at finite
    exact ⟨classes, isFinite_withMembers rfl finite⟩
  | list s l =>
    rw [published] at h
    obtain ⟨⟨k, ds₁⟩, found, h⟩ := bind_eq_ok.mp h
    cases pure_eq_ok.mp h
    rw [publishedData] at finite
    have item := published_hasFinite finite classes found
    exact ⟨item.classes, isFinite_items item.schema "array" (areFiniteMembers_lengthMembers _ _ l)⟩
  | set frozen s l =>
    rw [published] at h
    obtain ⟨⟨k, ds₁⟩, found, h⟩ := bind_eq_ok.mp h
    cases pure_eq_ok.mp h
    rw [publishedData] at finite
    have item := published_hasFinite finite classes found
    refine ⟨item.classes, isFinite_items item.schema "array" ?_⟩
    exact areFiniteMembers_lengthMembers _ _ l
  | tuple ss l =>
    rw [published] at h
    obtain ⟨⟨ks, ds₁⟩, found, h⟩ := bind_eq_ok.mp h
    cases pure_eq_ok.mp h
    obtain ⟨classes, items⟩ := publishedAll_finite finite classes found
    exact ⟨classes, isFinite_tuple items l⟩
  | tupleOf s l =>
    rw [published] at h
    obtain ⟨⟨k, ds₁⟩, found, h⟩ := bind_eq_ok.mp h
    cases pure_eq_ok.mp h
    rw [publishedData] at finite
    have item := published_hasFinite finite classes found
    exact ⟨item.classes, isFinite_items item.schema "array" (areFiniteMembers_lengthMembers _ _ l)⟩
  | dict k v l =>
    rw [published] at h
    obtain ⟨⟨kj, ds₁⟩, foundKey, h⟩ := bind_eq_ok.mp h
    obtain ⟨⟨vj, ds₂⟩, foundValue, h⟩ := bind_eq_ok.mp h
    cases pure_eq_ok.mp h
    rw [publishedData, areFinite_append] at finite
    have key := published_hasFinite finite.1 classes foundKey
    have value := published_hasFinite finite.2 key.classes foundValue
    exact ⟨value.classes, isFinite_dictSchema key.schema value.schema l⟩
  | nullable s =>
    rw [published] at h
    obtain ⟨⟨k, ds₁⟩, found, h⟩ := bind_eq_ok.mp h
    cases pure_eq_ok.mp h
    rw [publishedData] at finite
    have inner := published_hasFinite finite classes found
    exact ⟨inner.classes, isFinite_nullable inner.schema⟩
  | union ss =>
    cases h
    obtain ⟨classes, members⟩ := publishedPossible_finite finite classes
    exact ⟨classes, isFinite_union members⟩
  | tagged field ms =>
    cases h
    obtain ⟨classes, members⟩ := publishedTagged_finite finite classes
    exact ⟨classes, isFinite_tagged members⟩
  | literal vs =>
    cases h
    exact ⟨classes, isFinite_literalSchema finite⟩
  | enum name ms b =>
    rw [published] at h
    split at h
    · cases h
      exact ⟨classes, rfl⟩
    · cases h
      exact hasFinite_referred classes (isFinite_enumSchema finite)
  | record kind name extra fs =>
    rw [published] at h
    obtain ⟨⟨properties, ds₁⟩, found, h⟩ := bind_eq_ok.mp h
    obtain ⟨classes, fields⟩ := publishedFields_finite finite classes found
    cases pure_eq_ok.mp h
    exact hasFinite_referred classes (isFinite_classSchema fields)
  | noted notes s =>
    rw [published] at h
    obtain ⟨⟨k, ds₁⟩, found, h⟩ := bind_eq_ok.mp h
    cases pure_eq_ok.mp h
    rw [publishedData, areFinite, Bool.and_eq_true] at finite
    have inner := published_hasFinite finite.2 classes found
    exact ⟨inner.classes, isFinite_withMembers inner.schema finite.1⟩
  | bounded b s =>
    rw [publishedData] at finite
    exact published_hasFinite finite classes h

theorem publishedAll_finite {ss : List Shape} {ds ds' : Definitions} {js : List Json}
    (finite : areFinite (publishedDataAll ss) = true) (classes : ds.AreFinite)
    (h : publishedAll ds ss = .ok (js, ds')) : ds'.AreFinite ∧ areFinite js = true := by
  cases ss with
  | nil =>
    cases h
    exact ⟨classes, rfl⟩
  | cons s ss =>
    rw [publishedAll] at h
    obtain ⟨⟨j, ds₁⟩, found, h⟩ := bind_eq_ok.mp h
    obtain ⟨⟨js, ds₂⟩, others, h⟩ := bind_eq_ok.mp h
    cases pure_eq_ok.mp h
    rw [publishedDataAll, areFinite_append] at finite
    have first := published_hasFinite finite.1 classes found
    obtain ⟨classes, rest⟩ := publishedAll_finite finite.2 first.classes others
    refine ⟨classes, ?_⟩
    rw [areFinite, first.schema, rest]
    rfl

theorem publishedPossible_finite {ss : List Shape} {ds : Definitions}
    (finite : areFinite (publishedDataPossible ss) = true) (classes : ds.AreFinite) :
    (publishedPossible ds ss).2.AreFinite ∧ areFinite (publishedPossible ds ss).1 = true := by
  match ss with
  | [] => exact ⟨classes, rfl⟩
  | s :: ss =>
    rw [publishedDataPossible, areFinite_append] at finite
    rw [publishedPossible]
    split
    next j ds₁ found =>
      rw [if_pos (isSome_published_nil found)] at finite
      have first := published_hasFinite finite.1 classes found
      obtain ⟨classes, rest⟩ := publishedPossible_finite finite.2 first.classes
      refine ⟨classes, ?_⟩
      show (j.isFinite && areFinite _) = true
      rw [first.schema, rest]
      rfl
    next => exact publishedPossible_finite finite.2 classes

theorem publishedTagged_finite {ms : List (Value × Shape)} {ds : Definitions}
    (finite : areFinite (publishedDataTagged ms) = true) (classes : ds.AreFinite) :
    (publishedTagged ds ms).2.AreFinite ∧ areFiniteMembers (publishedTagged ds ms).1 = true := by
  match ms with
  | [] => exact ⟨classes, rfl⟩
  | (tag, s) :: ms =>
    rw [publishedDataTagged, areFinite_append] at finite
    rw [publishedTagged]
    split
    next j ds₁ found =>
      rw [if_pos (isSome_published_nil found)] at finite
      have first := published_hasFinite finite.1 classes found
      obtain ⟨classes, rest⟩ := publishedTagged_finite finite.2 first.classes
      refine ⟨classes, ?_⟩
      show (j.isFinite && areFiniteMembers _) = true
      rw [first.schema, rest]
      rfl
    next => exact publishedTagged_finite finite.2 classes

theorem publishedFields_finite {fs : List (Text × Presence × Shape)} {ds ds' : Definitions}
    {properties : List (Text × Json)} (finite : areFinite (publishedDataFields fs) = true)
    (classes : ds.AreFinite) (h : publishedFields ds fs = .ok (properties, ds')) :
    ds'.AreFinite ∧ areFiniteMembers properties = true := by
  match fs with
  | [] =>
    cases h
    exact ⟨classes, rfl⟩
  | (name, presence, s) :: fs =>
    rw [publishedFields] at h
    obtain ⟨⟨j, ds₁⟩, found, h⟩ := bind_eq_ok.mp h
    obtain ⟨⟨js, ds₂⟩, others, h⟩ := bind_eq_ok.mp h
    cases pure_eq_ok.mp h
    obtain ⟨finiteField, finiteOthers⟩ := areFinite_append.mp finite
    obtain ⟨finiteDefault, finiteShape⟩ := areFinite_append.mp finiteField
    have first := published_hasFinite finiteShape classes found
    obtain ⟨classes, rest⟩ := publishedFields_finite finiteOthers first.classes others
    have field : (fieldSchema name presence s.isTitled j).isFinite = true := by
      refine isFinite_fieldSchema first.schema fun v same => ?_
      subst same
      exact finiteDefault
    refine ⟨classes, ?_⟩
    rw [areFiniteMembers, field, rest]
    rfl

end

/-- **The numbers of a schema** are finite if those of the data are that it publishes. -/
theorem schema_isFinite {s : Shape} {doc : Json} (h : s.schema = .ok doc)
    (finite : areFinite s.publishedData = true) : doc.isFinite = true := by
  obtain ⟨root, ds, made, -, document⟩ := schema_eq_ok h
  have empty : Definitions.AreFinite [] := fun _ => List.not_mem_nil.elim
  have published := published_hasFinite finite empty made
  exact published.classes.document published.schema document

end Shape

end GuardedTools
