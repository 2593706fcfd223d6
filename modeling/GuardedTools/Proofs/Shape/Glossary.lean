import GuardedTools.Proofs.Shape.Alternatives

/-!
# Classes of a document

A schema is published class by class (`Shape.PublishedAs`), and the document that comes of it has names
for the classes that its root leads to.  A glossary (`Definitions.Glossary`) is what is left to know of the
document then: the classes, their names, and that references to the classes in use lead to their schemas.
What a published schema accepts under the glossary of a document, the document accepts
(`Definitions.isValid_of_fits`).
-/

namespace GuardedTools

open Definitions

/-! ### Publishing -/

namespace Shape

/-- A shape is published as a schema on the way to some classes. -/
inductive PublishedAs (last : Definitions) (s : Shape) (j : Json) : Prop where
  | intro {inClass : Bool} {found after : Definitions} (wellFormed : s.WellFormed inClass)
    (clean : Clean s.publishedData) (sound : Sound found)
    (published : s.published found = .ok (j, after)) (within : after <+: last)

namespace PublishedAs

variable {last : Definitions} {s t key value : Shape} {ss : List Shape} {j k : Json}

theorem isSchema (h : PublishedAs last s j) : IsSchema j := by
  obtain ⟨wellFormed, clean, sound, published, -⟩ := h
  exact (published_spec wellFormed clean sound published).isSchema

/-- What is published of a shape is made of what is published of the shape in it. -/
theorem of_inner (f : Json → Json)
    (made : ∀ found, t.published found = (do
      let (j, found) ← s.published found
      return (f j, found)))
    (wellFormed : ∀ inClass, t.WellFormed inClass → s.WellFormed inClass)
    (clean : Clean t.publishedData → Clean s.publishedData) (h : PublishedAs last t k) :
    ∃ j, PublishedAs last s j ∧ k = f j := by
  obtain ⟨wellFormed', clean', sound, published, within⟩ := h
  rw [made] at published
  obtain ⟨⟨j, found'⟩, inner, published⟩ := bind_eq_ok.mp published
  cases pure_eq_ok.mp published
  exact ⟨j, ⟨wellFormed _ wellFormed', clean clean', sound, inner, within⟩, rfl⟩

theorem of_list {l : LengthLimits} (h : PublishedAs last (list s l) k) :
    ∃ j, PublishedAs last s j ∧ k = .object (Json.members [("items", j), ("type", .str "array")]
      ++ lengthMembers "minItems" "maxItems" l) :=
  h.of_inner _ (fun _ => rfl) (fun _ => WellFormed.of_list) id

theorem of_set {frozen : Bool} {l : LengthLimits} (h : PublishedAs last (set frozen s l) k) :
    ∃ j, PublishedAs last s j ∧ k = .object (Json.members
      [("items", j), ("type", .str "array"), ("uniqueItems", .bool true)]
      ++ lengthMembers "minItems" "maxItems" l) :=
  h.of_inner _ (fun _ => rfl) (fun _ => WellFormed.of_set) id

theorem of_tupleOf {l : LengthLimits} (h : PublishedAs last (tupleOf s l) k) :
    ∃ j, PublishedAs last s j ∧ k = .object (Json.members [("items", j), ("type", .str "array")]
      ++ lengthMembers "minItems" "maxItems" l) :=
  h.of_inner _ (fun _ => rfl) (fun _ => WellFormed.of_tupleOf) id

theorem of_nullable (h : PublishedAs last (nullable s) k) :
    ∃ j, PublishedAs last s j ∧ k = (if j.same (.object (Json.schemaType "null"))
      then .object (Json.schemaType "null") else Json.anyOf [j, .object (Json.schemaType "null")]) :=
  h.of_inner _ (fun _ => rfl) (fun _ => WellFormed.of_nullable) id

theorem of_noted {notes : List (Text × Json)} (h : PublishedAs last (noted notes s) k) :
    ∃ j, PublishedAs last s j ∧ k = j.withMembers notes :=
  h.of_inner _ (fun _ => rfl) (fun _ wellFormed => wellFormed.of_noted.2)
    fun clean => (List.forall_mem_cons.mp clean).2

theorem of_bounded {b : Bound} (h : PublishedAs last (bounded b s) k) : PublishedAs last s k := by
  obtain ⟨wellFormed, clean, sound, published, within⟩ := h
  exact ⟨wellFormed.of_bounded, clean, sound, published, within⟩

theorem of_dict {l : LengthLimits} (h : PublishedAs last (dict key value l) k) :
    ∃ kj vj, PublishedAs last key kj ∧ PublishedAs last value vj ∧ k = dictSchema kj vj l := by
  obtain ⟨wellFormed, clean, sound, published, within⟩ := h
  rw [Shape.published] at published
  obtain ⟨⟨kj, found₁⟩, first, published⟩ := bind_eq_ok.mp published
  obtain ⟨⟨vj, found₂⟩, second, published⟩ := bind_eq_ok.mp published
  cases pure_eq_ok.mp published
  obtain ⟨cleanKey, cleanValue⟩ := Clean.append.mp clean
  have keySpec := published_spec wellFormed.of_dict.1 cleanKey sound first
  have valueSpec := published_spec wellFormed.of_dict.2 cleanValue keySpec.sound second
  exact ⟨kj, vj, ⟨wellFormed.of_dict.1, cleanKey, sound, first, valueSpec.grows.trans within⟩,
    ⟨wellFormed.of_dict.2, cleanValue, keySpec.sound, second, within⟩, rfl⟩

/-- The shapes of a list are published one by one. -/
theorem of_all {inClass : Bool} {found after : Definitions} {js : List Json}
    (wellFormed : ∀ s ∈ ss, s.WellFormed inClass) (clean : Clean (publishedDataAll ss))
    (sound : Sound found) (published : publishedAll found ss = .ok (js, after))
    (within : after <+: last) : List.Forall₂ (PublishedAs last) ss js := by
  induction ss generalizing found js with
  | nil =>
    cases published
    exact .nil
  | cons s ss ih =>
    rw [publishedAll] at published
    obtain ⟨⟨j, found₁⟩, first, published⟩ := bind_eq_ok.mp published
    obtain ⟨⟨js, found₂⟩, others, published⟩ := bind_eq_ok.mp published
    cases pure_eq_ok.mp published
    rw [List.forall_mem_cons] at wellFormed
    obtain ⟨cleanFirst, cleanOthers⟩ := Clean.append.mp clean
    have spec := published_spec wellFormed.1 cleanFirst sound first
    have rest := publishedAll_spec wellFormed.2 cleanOthers spec.sound others
    exact .cons ⟨wellFormed.1, cleanFirst, sound, first, rest.grows.trans within⟩
      (ih wellFormed.2 cleanOthers spec.sound others)

theorem of_tuple {l : LengthLimits} (h : PublishedAs last (tuple ss l) k) :
    ∃ js, List.Forall₂ (PublishedAs last) ss js ∧
      k = (Json.object ((if js.isEmpty then [] else [((("prefixItems" : Text)), Json.array js)])
        ++ Json.members [("minItems", .int js.length), ("maxItems", .int js.length),
          ("type", .str "array")])).withMembers (lengthMembers "minItems" "maxItems" l) := by
  obtain ⟨wellFormed, clean, sound, published, within⟩ := h
  rw [Shape.published] at published
  obtain ⟨⟨js, found'⟩, inner, published⟩ := bind_eq_ok.mp published
  cases pure_eq_ok.mp published
  exact ⟨js, of_all wellFormed.of_tuple clean sound inner within, rfl⟩

/-- Of the members of a union those are published that have a schema. -/
theorem of_possible {inClass : Bool} {found : Definitions}
    (wellFormed : ∀ s ∈ ss, s.WellFormed inClass) (clean : Clean (publishedDataPossible ss))
    (sound : Sound found) (within : (publishedPossible found ss).2 <+: last) :
    (∀ j ∈ (publishedPossible found ss).1, IsSchema j) ∧
      ∀ s ∈ ss, (Shape.published [] s).toOption.isSome = true →
        ∃ j ∈ (publishedPossible found ss).1, PublishedAs last s j := by
  refine ⟨(publishedPossible_spec wellFormed clean sound).isSchema, ?_⟩
  induction ss generalizing found with
  | nil => exact nofun
  | cons s ss ih =>
    rw [List.forall_mem_cons] at wellFormed
    obtain ⟨cleanFirst, cleanOthers⟩ := Clean.append.mp clean
    rw [publishedPossible] at within ⊢
    split at within
    next j found₁ first =>
      rw [if_pos (isSome_published_nil first)] at cleanFirst
      have spec := published_spec wellFormed.1 cleanFirst sound first
      have rest := publishedPossible_spec wellFormed.2 cleanOthers spec.sound
      refine List.forall_mem_cons.mpr ⟨fun _ => ⟨j, List.mem_cons_self, ?_⟩, fun t member some => ?_⟩
      · exact ⟨wellFormed.1, cleanFirst, sound, first, rest.grows.trans within⟩
      · obtain ⟨k, among, as⟩ := ih wellFormed.2 cleanOthers spec.sound within t member some
        exact ⟨k, List.mem_cons_of_mem _ among, as⟩
    next fault failed =>
      refine List.forall_mem_cons.mpr ⟨fun some => ?_, ih wellFormed.2 cleanOthers sound within⟩
      cases alone : Shape.published [] s with
      | error fault =>
        rw [alone] at some
        cases some
      | ok r =>
        obtain ⟨r', made⟩ := published_ok_of_ok alone found
        rw [made] at failed
        cases failed

/-- The fields of a class are published as properties of their names. -/
theorem of_fields {inClass : Bool} {found after : Definitions}
    {fields : List (Text × Presence × Shape)} {properties : List (Text × Json)}
    (wellFormed : ∀ f ∈ fields, f.2.2.WellFormed inClass) (clean : Clean (publishedDataFields fields))
    (sound : Sound found) (published : publishedFields found fields = .ok (properties, after))
    (within : after <+: last) :
    List.Forall₂ (fun f p => p.1 = f.1 ∧ ∃ j, PublishedAs last f.2.2 j ∧
      p.2 = fieldSchema f.1 f.2.1 f.2.2.isTitled j) fields properties := by
  induction fields generalizing found properties with
  | nil =>
    cases published
    exact .nil
  | cons f fields ih =>
    obtain ⟨name, presence, s⟩ := f
    rw [publishedFields] at published
    obtain ⟨⟨j, found₁⟩, first, published⟩ := bind_eq_ok.mp published
    obtain ⟨⟨js, found₂⟩, others, published⟩ := bind_eq_ok.mp published
    cases pure_eq_ok.mp published
    rw [List.forall_mem_cons] at wellFormed
    obtain ⟨cleanField, cleanOthers⟩ := Clean.append.mp clean
    obtain ⟨-, cleanShape⟩ := Clean.append.mp cleanField
    have spec := published_spec wellFormed.1 cleanShape sound first
    have rest := publishedFields_spec wellFormed.2 cleanOthers spec.sound others
    exact .cons ⟨rfl, j, ⟨wellFormed.1, cleanShape, sound, first, rest.grows.trans within⟩, rfl⟩
      (ih wellFormed.2 cleanOthers spec.sound others)

/-- A class stands as a reference to it. -/
theorem exists_of_referred {c : ClassSchema} {found after : Definitions} (sound : Sound found)
    (refers : Refers (Allowed found.length true) c.schema) (made : referred c found = (k, after))
    (within : after <+: last) :
    ∃ n c', k = referenceTo n ∧ last[n]? = some c' ∧ c'.schema = c.schema ∧ found <+: last := by
  obtain ⟨rfl, rfl⟩ := Prod.mk.inj (show (referenceTo (found.add c).1, (found.add c).2) = (k, _) from made)
  obtain ⟨grows, -, inside, c', stands, same⟩ := sound.add refers
  refine ⟨_, c', rfl, ?_, same, grows.trans within⟩
  obtain ⟨others, rfl⟩ := within
  rw [List.getElem?_append_left inside, stands]

/-- A class is published with its fields. -/
theorem of_record {kind : ClassKind} {name : Text} {extra : Extra}
    {fields : List (Text × Presence × Shape)} (h : PublishedAs last (record kind name extra fields) k) :
    ∃ n properties c, k = referenceTo n ∧ last[n]? = some c ∧
      c.schema = classSchema kind name extra properties
        ((fields.filter fun f => isRequired f.2.1).map (·.1)) ∧
      List.Forall₂ (fun f p => p.1 = f.1 ∧ ∃ j, PublishedAs last f.2.2 j ∧
        p.2 = fieldSchema f.1 f.2.1 f.2.2.isTitled j) fields properties := by
  obtain ⟨wellFormed, clean, sound, published, within⟩ := h
  rw [Shape.published] at published
  obtain ⟨⟨properties, found₁⟩, inner, published⟩ := bind_eq_ok.mp published
  have spec := publishedFields_spec wellFormed.of_record clean sound inner
  obtain ⟨n, c, rfl, stands, schema, grows⟩ := exists_of_referred spec.sound
    (refers_classSchema (refersMembers_values spec)) (pure_eq_ok.mp published) within
  exact ⟨n, properties, c, rfl, stands, schema,
    of_fields wellFormed.of_record clean sound inner grows⟩

/-- An enumeration that has members is published with their values. -/
theorem of_enum {name : Text} {members : List (Text × Value)} {base : EnumBase}
    (inhabited : members.isEmpty = false) (h : PublishedAs last (enum name members base) k) :
    ∃ n c, k = referenceTo n ∧ last[n]? = some c ∧ c.schema = enumSchema name members := by
  obtain ⟨wellFormed, clean, sound, published, within⟩ := h
  rw [Shape.published, if_neg (by simp [inhabited])] at published
  obtain ⟨n, c, rfl, stands, schema, -⟩ := exists_of_referred sound
    (refers_data (refers_enumSchema clean)) (Except.ok.inj published) within
  exact ⟨n, c, rfl, stands, schema⟩

end PublishedAs

end Shape

/-! ### Names of classes -/

namespace Definitions

open Json Filter

/-- Classes with their names in a document: references to those in use lead to their schemas, and these
refer to classes in use only. -/
structure Glossary where
  classes : Definitions
  sound : Sound classes
  target? : Text → Option Json
  names : List (Nat × Text)
  used : List Nat
  leads : ∀ n ∈ used, classes.Leads target? names n
  closed : ∀ n ∈ used, ∀ m ∈ classes.referencesOf n, m ∈ used

namespace Glossary

/-- Classes of which none is in use. -/
def idle (classes : Definitions) (sound : Sound classes) : Glossary :=
  { classes, sound, target? := fun _ => none, names := [], used := [], leads := nofun, closed := nofun }

variable (g : Glossary)

/-- Where references lead that stand in the class of a number, and what becomes of their texts. -/
def naming (self : Option Nat) : Naming where
  target? := g.target?
  rename := namedReference g.names self

/-- A reference is one to a class in use, or leads to another document. -/
def IsRight (self : Option Nat) (t : Text) : Prop :=
  Shape.leadsAway t = true ∨ ∃ n ∈ g.used, numberOf? self t = some n

/-- The schema of a class accepts a value where it stands outside of classes. -/
def IsOpen (v : Json) (n : Nat) : Prop :=
  ∃ c ms, g.classes[n]? = some c ∧ c.schema = .object ms ∧
    (Asks (g.IsRight none) c.schema → Accepts (g.naming none) c.schema v)

/-- A value fits a schema that stands in the class of a number: one of its alternatives accepts it, if it
refers to classes in use, and is open to it, if it is a reference. -/
def Fits (self : Option Nat) (v k : Json) : Prop :=
  One (Good (g.naming self) (g.IsRight self) (g.IsOpen v) v) k

variable {g} {self : Option Nat} {n : Nat} {c : ClassSchema} {v : Json} {t : Text}

/-- A class in use refers to classes in use. -/
theorem refers_class (used : n ∈ g.used) (stands : g.classes[n]? = some c) :
    Refers (g.IsRight (some n)) c.schema := by
  intro t member
  rcases g.sound n c stands t member with away | ⟨m, -, rfl⟩ | ⟨-, rfl⟩
  · exact Or.inl away
  · refine Or.inr ⟨m, g.closed n used m ?_, numberOf?_reference _ _⟩
    rw [referencesOf, stands]
    exact List.mem_filterMap.mpr ⟨_, member, numberOf?_reference _ _⟩
  · exact Or.inr ⟨n, used, rfl⟩

/-- What a right reference says the number of is in use. -/
theorem mem_used_of_isRight (right : g.IsRight self t) (number : numberOf? self t = some n) : n ∈ g.used := by
  rcases right with away | ⟨m, used, is⟩
  · have none : numberOf? self t = none := numberOf?_eq_none away
    rw [none] at number
    cases number
  · obtain rfl := Option.some.inj (number.symm.trans is)
    exact used

/-- A reference to a class in use accepts what the class accepts. -/
theorem accepts_reference (used : n ∈ g.used) (stands : g.classes[n]? = some c)
    (number : numberOf? self t = some n) :
    Accepts (g.naming self) (.object [("$ref", .text t)]) v ↔
      Accepts (g.naming (some n)) c.schema v := by
  obtain ⟨c', stands', leads⟩ := g.leads n used
  obtain rfl : c = c' := Option.some.inj (stands.symm.trans stands')
  rw [accepts_object_iff, List.forall_mem_singleton]
  exact holds_ref (leads self t number)

/-- A reference to a class fits what the class accepts, inside of it and outside. -/
theorem fits_reference {ms : List (Text × Json)} (stands : g.classes[n]? = some c)
    (object : c.schema = .object ms)
    (accepts : ∀ self : Option Nat, (∀ m, self = some m → m = n) → Asks (g.IsRight self) c.schema →
      Accepts (g.naming self) c.schema v) : g.Fits self v (referenceTo n) := by
  have plain : IsPlain (referenceTo n) :=
    IsSchema.isPlain_of_member (k := "$ref") List.mem_cons_self (by decide)
  refine (one_of_isPlain plain).mpr ⟨fun asks => ?_, fun m same => ?_⟩
  · have leads : leadsOn "$ref" = true := by simp [leadsOn, Keyword.table]
    have refers := asks_object.mp asks _ List.mem_cons_self leads
    have number := numberOf?_reference self n
    have used := mem_used_of_isRight (refers _ (by simp [referenceTextsMembers])) number
    refine (accepts_reference used stands number).mpr ?_
    exact accepts (some n) (fun _ same => (Option.some.inj same).symm)
      (asks_of_refers (refers_class used stands))
  · have number := numberOf?_reference self m
    have text := congrArg (fun j => j.get? "$ref") same
    have texts : referenceStart ++ Text.ofNat n = referenceStart ++ Text.ofNat m := by
      simpa [referenceTo, Json.get?, Json.lookup] using text
    rw [← texts, numberOf?_reference] at number
    obtain rfl := Option.some.inj number
    exact ⟨c, ms, stands, object, accepts none fun m none => absurd none.symm (Option.some_ne_none m)⟩

/-- What fits a reference is open to its class. -/
theorem isOpen_of_fits (fits : g.Fits self v (referenceTo n)) : g.IsOpen v n := by
  have plain : IsPlain (referenceTo n) :=
    IsSchema.isPlain_of_member (k := "$ref") List.mem_cons_self (by decide)
  exact ((one_of_isPlain plain).mp fits).2 n rfl

/-- What fits the reference to a class fits the reference of the class to itself. -/
theorem fits_selfReference (h : ∀ n, self = some n → g.Fits self v (referenceTo n)) :
    g.Fits self v selfReference := by
  have plain {t : Text} : IsPlain (.object [("$ref", .text t)]) :=
    IsSchema.isPlain_of_member (k := "$ref") List.mem_cons_self (by decide)
  refine (one_of_isPlain plain).mpr ⟨fun asks => ?_, fun n same => ?_⟩
  · have leads : leadsOn "$ref" = true := by simp [leadsOn, Keyword.table]
    have refers := asks_object.mp asks _ List.mem_cons_self leads
    rcases refers selfMark (by simp [referenceTextsMembers]) with away | ⟨n, used, number⟩
    · exact absurd away (by decide)
    · have own : self = some n := (if_pos rfl).symm.trans number
      obtain ⟨c, stands, -⟩ := g.leads n used
      refine (accepts_reference used stands number).mpr
        ((accepts_reference used stands (numberOf?_reference self n)).mp ?_)
      refine ((one_of_isPlain plain).mp (h n own)).1 (asks_of_refers fun t member => ?_)
      exact Or.inr ⟨n, used, List.mem_singleton.mp member ▸ numberOf?_reference self n⟩
  · have number := numberOf?_reference none n
    have text := congrArg (fun j => j.get? "$ref") same
    have texts : selfMark = referenceStart ++ Text.ofNat n := by
      simpa [selfReference, referenceTo, Json.get?, Json.lookup] using text
    rw [← texts] at number
    cases number

end Glossary

/-! ### Documents -/

section Document

variable {ds : Definitions} {root doc v : Json} {ms : List (Text × Json)}

/-- What a schema leads to are classes that there are. -/
theorem Sound.lt_of_mem_used (sound : Sound ds) {schema : Json}
    (inside : ∀ n ∈ references none schema, n < ds.length) : ∀ n ∈ ds.used schema, n < ds.length :=
  of_mem_reachable (fun _ _ _ refers => sound.lt_of_mem_referencesOf refers)
    fun n member => inside n (List.mem_eraseDups.mp member)

/-- The root of a document is opened, or stands as it is. -/
theorem opened_cases (refers : Refers (Allowed ds.length false) root) :
    ds.opened root = root ∨ ∃ n c, root = referenceTo n ∧ ds[n]? = some c ∧ ds.opened root = c.schema ∧
      n ∉ (ds.reachable ds.length [n]).flatMap ds.referencesOf := by
  unfold opened
  split
  next key t =>
    split
    next n number =>
      dsimp only
      split
      next opens =>
        rw [Bool.and_eq_true, decide_eq_true_eq, Bool.not_eq_true'] at opens
        obtain ⟨rfl, last⟩ := opens
        rcases refers t (by simp [referenceTexts, referenceTextsMembers]) with away | ⟨m, below, rfl⟩ | own
        · rw [numberOf?_eq_none away] at number
          cases number
        · rw [numberOf?_reference] at number
          obtain rfl := Option.some.inj number
          rw [List.getElem?_eq_getElem below, Option.map_some, Option.getD_some]
          exact Or.inr ⟨m, _, rfl, List.getElem?_eq_getElem below, rfl, by simpa using last⟩
        · cases own.1
      next => exact Or.inl rfl
    next => exact Or.inl rfl
  next => exact Or.inl rfl

/-- An opened root refers to classes that there are, and never as to its own. -/
theorem Sound.refers_opened (sound : Sound ds) (refers : Refers (Allowed ds.length false) root) :
    Refers (Allowed ds.length false) (ds.opened root) := by
  rcases opened_cases refers with same | ⟨n, c, -, stands, same, last⟩
  · exact same.symm ▸ refers
  · intro t member
    rw [same] at member
    rcases sound n c stands t member with away | ⟨m, below, rfl⟩ | ⟨-, rfl⟩
    · exact Or.inl away
    · exact Or.inr (Or.inl ⟨m, below.trans (List.getElem?_eq_some_iff.mp stands).1, rfl⟩)
    · refine absurd (List.mem_flatMap.mpr ⟨n, subset_reachable _ _ _ n List.mem_cons_self, ?_⟩) last
      rw [referencesOf, stands]
      exact List.mem_filterMap.mpr ⟨_, member, rfl⟩

/-- The glossary of a document. -/
def Sound.glossary (sound : Sound ds) (refers : Refers (Allowed ds.length false) root)
    (members : ds.opened root = .object ms) (h : ds.document? root = some doc)
    {names : List (Nat × Text)} (settled : ds.names? (.object ms) = some names) : Glossary where
  classes := ds
  sound := sound
  target? := Json.target? doc.sortKeys
  names := names
  used := ds.used (.object ms)
  closed := (sound.references_used _).2
  leads n used := by
    refine leads_of_mem_used members h settled used (sound.lt_of_mem_used (fun n member => ?_) n used)
    obtain ⟨t, among, number⟩ := List.mem_filterMap.mp member
    rw [← members] at among
    exact ((sound.refers_opened refers t among).numberOf?_eq number).resolve_right nofun

/-- The opened root refers to classes in use. -/
theorem Sound.refers_glossary (sound : Sound ds) (refers : Refers (Allowed ds.length false) root)
    (members : ds.opened root = .object ms) (h : ds.document? root = some doc)
    {names : List (Nat × Text)} (settled : ds.names? (.object ms) = some names) :
    Refers ((sound.glossary refers members h settled).IsRight none) (.object ms) := by
  intro t member
  rcases sound.refers_opened refers t (members.symm ▸ member) with away | ⟨m, -, rfl⟩ | ⟨own, -⟩
  · exact Or.inl away
  · have named := (sound.references_used (.object ms)).1 m
      (List.mem_filterMap.mpr ⟨_, member, numberOf?_reference _ _⟩)
    exact Or.inr ⟨m, named, numberOf?_reference _ _⟩
  · cases own

/-- A root that accepts a value makes a document under which it is valid. -/
theorem isValid_of_accepts {names : List (Nat × Text)} (members : ds.opened root = .object ms)
    (h : ds.document? root = some doc) (settled : ds.names? (.object ms) = some names)
    (accepts : Accepts ⟨Json.target? doc.sortKeys, namedReference names none⟩ (.object ms) v) :
    doc.IsValid v := by
  obtain ⟨names', settled', is⟩ := document?_eq_some members h
  obtain rfl := Option.some.inj (settled.symm.trans settled')
  rw [IsValid]
  generalize Json.target? doc.sortKeys = target? at accepts
  unfold Accepts at accepts
  rw [renamed] at accepts
  rw [is]
  split
  · exact accepts
  · refine eventually_of_succ (((tendsto_add_atTop_nat 1).eventually accepts).mono fun n accepted => ?_)
    rw [Json.accepts_object, List.all_eq_true] at accepted ⊢
    intro m member
    have note : Keyword.of? "$defs" = Option.none := by simp [Keyword.table]
    rcases mem_put member with rfl | before
    · rw [Json.holdsMember, note]
    · rw [← accepted m before]
      refine Alike.holdsMember (.of_keywords fun key keyword => lookup_put_ne ?_) _ _ _ _ _
      exact ne_of_note note keyword

end Document

end Definitions

/-! ### Validity -/

namespace Shape

/-- What fits a published shape, whatever names its classes have, is valid under its document. -/
theorem isValid_of_fits {s : Shape} {doc v : Json} (wellFormed : s.WellFormed false)
    (h : s.schema = .ok doc)
    (fits : ∀ (g : Glossary) (root : Json), PublishedAs g.classes s root → g.Fits Option.none v root) :
    doc.IsValid v := by
  obtain ⟨root, ds, made, clean, document⟩ := schema_eq_ok h
  have spec := published_spec wellFormed clean .nil made
  have as : PublishedAs ds s root := ⟨wellFormed, clean, .nil, made, List.prefix_rfl⟩
  have opening := opened_cases spec.refers
  have object : ∃ ms, ds.opened root = .object ms := by
    rcases opening with same | ⟨n, c, rfl, stands, same, -⟩
    · rw [same]
      cases spec.isSchema <;> exact ⟨_, rfl⟩
    · -- that the class of a root is an object is seen before its names are known
      obtain ⟨c', ms, stands', object, -⟩ :=
        Glossary.isOpen_of_fits (fits (.idle ds spec.sound) _ as)
      obtain rfl : c = c' := Option.some.inj (stands.symm.trans stands')
      exact ⟨ms, same.trans object⟩
  obtain ⟨ms, object⟩ := object
  obtain ⟨names, settled, -⟩ := document?_eq_some object document
  have refers := spec.sound.refers_glossary spec.refers object document settled
  have fits := fits (spec.sound.glossary spec.refers object document settled) root as
  refine isValid_of_accepts object document settled ?_
  rw [← object] at refers ⊢
  rcases opening with same | ⟨n, c, rfl, stands, same, -⟩
  · rw [same] at refers ⊢
    exact accepts_of_one spec.isSchema fits (each_of_refers refers)
  · obtain ⟨c', -, stands', -, accepts⟩ := Glossary.isOpen_of_fits fits
    obtain rfl : c = c' := Option.some.inj (stands.symm.trans stands')
    rw [same] at refers ⊢
    exact accepts (asks_of_refers refers)

end Shape

end GuardedTools
