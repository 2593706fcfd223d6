import GuardedTools.Proofs.Basic
import GuardedTools.Proofs.Shape.Glossary

/-!
# What conforms to a shape is valid

What it means that a JSON value conforms to a shape (`Shape.Conforms`) is said by recursion on the shape:
what its scalars are written as, that its parts conform to the parts of the shape, and that its limits are
kept.  The schema that is published of a shape accepts what conforms to it: class by class, whatever names
the classes have in the document (`Shape.fits_of_conforms`), and so it is valid under the document
(`Shape.isValid_of_conforms`).
-/

namespace GuardedTools

open Definitions Json

/-- Limits allow a number of parts. -/
structure LengthLimits.Allows (l : LengthLimits) (n : Nat) : Prop where
  least : ∀ m, l.min = some m → m ≤ n
  most : ∀ m, l.max = some m → n ≤ m

namespace Json

/-- A value has no parts. -/
def isAtom : Json → Bool
  | array _ => false
  | object _ => false
  | _ => true

/-- A value keeps a limit that is published as a number. -/
def Keeps (v : Json) (m : Text × Json) : Prop :=
  m.2.place?.isSome = true ∧ ∀ follow sub ms, holdsMember follow sub ms m.1 m.2 v = true

end Json

namespace Shape

/-- Whether all values of a shape are written as texts that nothing is asked of. -/
def isWorded : Shape → Bool
  | decimal _ _ _ => true
  | complex => true
  | date l => (numberMembers l).isEmpty
  | time _ => true
  | dateTime _ => true
  | duration _ => true
  | uuid => true
  | _ => false

/-- Whether something may be asked of the names in a map whose keys are of a shape. -/
def asksNames : Shape → Bool
  | any => false
  | none => false
  | bool => false
  | int _ => false
  | float _ _ => false
  | tuple _ _ => false
  | tupleOf _ _ => false
  | noted _ s => s.asksNames
  | bounded _ s => s.asksNames
  | _ => true

/-- A value is one of those that are published, which have no parts. -/
def IsListed (vs : List Value) (v : Json) : Prop :=
  v ∈ vs.map publishedValue ∧ ∀ w ∈ vs.map publishedValue, w.isAtom = true

/-- A JSON value conforms to a shape within a class. -/
inductive Conforms : Shape → Shape → Json → Prop where
  | any {own : Shape} {v : Json} : Conforms own any v
  | null {own : Shape} : Conforms own none .null
  | bool {own : Shape} {b : Bool} : Conforms own bool (.bool b)
  | str {own : Shape} {l : LengthLimits} {p : Option Text} {t : Text} (length : l.Allows t.length)
    (form : ∀ source, p = some source → Pattern.isMet source t = true) : Conforms own (str l p) (.text t)
  | int {own : Shape} {l : Limits} {n : Int} (limits : ∀ m ∈ numberMembers l, Keeps (.int n) m) :
    Conforms own (int l) (.int n)
  | float {own : Shape} {finite : Bool} {l : Limits} {x : Binary64}
    (limits : ∀ m ∈ numberMembers l, Keeps (.float x) m) : Conforms own (float finite l) (.float x)
  | bytes {own : Shape} {l : LengthLimits} {t : Text} (length : l.Allows t.length) :
    Conforms own (bytes l) (.text t)
  | worded {own s : Shape} {t : Text} (worded : s.isWorded = true) : Conforms own s (.text t)
  | list {own s : Shape} {l : LengthLimits} {vs : List Json} (items : ∀ v ∈ vs, Conforms own s v)
    (length : l.Allows vs.length) : Conforms own (list s l) (.array vs)
  | set {own s : Shape} {frozen : Bool} {l : LengthLimits} {vs : List Json}
    (items : ∀ v ∈ vs, Conforms own s v) (distinct : areDistinct vs = true)
    (length : l.Allows vs.length) : Conforms own (set frozen s l) (.array vs)
  | tuple {own : Shape} {ss : List Shape} {l : LengthLimits} {vs : List Json}
    (count : ss.length = vs.length) (items : ∀ m ∈ ss.zip vs, Conforms own m.1 m.2)
    (length : l.Allows vs.length) : Conforms own (tuple ss l) (.array vs)
  | tupleOf {own s : Shape} {l : LengthLimits} {vs : List Json} (items : ∀ v ∈ vs, Conforms own s v)
    (length : l.Allows vs.length) : Conforms own (tupleOf s l) (.array vs)
  | dict {own key value : Shape} {l : LengthLimits} {ms : List (Text × Json)}
    (names : key.asksNames = true → ∀ m ∈ ms, Conforms own key (.text m.1))
    (values : ∀ m ∈ ms, Conforms own value m.2) (length : l.Allows ms.length) :
    Conforms own (dict key value l) (.object ms)
  | nothing {own s : Shape} : Conforms own (nullable s) .null
  | nullable {own s : Shape} {v : Json} (inner : Conforms own s v) : Conforms own (nullable s) v
  | union {own s : Shape} {ss : List Shape} {v : Json} (member : s ∈ ss)
    (published : (published [] s).toOption.isSome = true) (inner : Conforms own s v) :
    Conforms own (union ss) v
  | literal {own : Shape} {vs : List Value} {v : Json} (listed : IsListed vs v) :
    Conforms own (literal vs) v
  | enum {own : Shape} {name : Text} {members : List (Text × Value)} {base : EnumBase} {v : Json}
    (listed : IsListed (members.map (·.2)) v) : Conforms own (enum name members base) v
  | record {own : Shape} {kind : ClassKind} {name : Text} {extra : Extra}
    {fields : List (Text × Presence × Shape)} {ms : List (Text × Json)}
    (required : ∀ f ∈ fields, isRequired f.2.1 = true → ∃ m ∈ ms, m.1 = f.1)
    (declared : ∀ m ∈ ms, ∀ f ∈ fields, f.1 = m.1 →
      Conforms (record kind name extra fields) f.2.2 m.2)
    (closed : extra = .forbid → ∀ m ∈ ms, ∃ f ∈ fields, f.1 = m.1) :
    Conforms own (record kind name extra fields) (.object ms)
  | self {own : Shape} {v : Json} (inner : Conforms own own v) : Conforms own self v
  | noted {own s : Shape} {ns : List (Text × Json)} {v : Json} (notes : AreNotes ns)
    (inner : Conforms own s v) : Conforms own (noted ns s) v
  | bounded {own s : Shape} {b : Bound} {v : Json} (inner : Conforms own s v) :
    Conforms own (bounded b s) v

end Shape

/-! ### Members of schemas -/

namespace Definitions

variable {N : Naming} {P : Text → Prop} {ms : List (Text × Json)} {key : Text} {j v : Json}

/-- What is published of lengths holds of a value if both limits do. -/
theorem holds_lengthMembers {least most : String} {l : LengthLimits}
    (atLeast : ∀ n : Nat, l.min = some n → Holds N ms (Text.ofString least) (.int n) v)
    (atMost : ∀ n : Nat, l.max = some n → Holds N ms (Text.ofString most) (.int n) v) :
    ∀ m ∈ Shape.lengthMembers least most l, Holds N ms m.1 m.2 v := by
  have counted {key : String} {limit : Option Nat}
      (h : ∀ n : Nat, limit = some n → Holds N ms (Text.ofString key) (.int n) v) :
      ∀ m ∈ Json.optionalMember key (limit.map fun n => .int n), Holds N ms m.1 m.2 v := by
    cases limit with
    | none => exact nofun
    | some n => exact List.forall_mem_singleton.mpr (h n rfl)
  exact List.forall_mem_append.mpr ⟨counted atLeast, counted atMost⟩

theorem holds_itemCounts {l : LengthLimits} {vs : List Json} (length : l.Allows vs.length) :
    ∀ m ∈ Shape.lengthMembers "minItems" "maxItems" l, Holds N ms m.1 m.2 (.array vs) :=
  holds_lengthMembers (fun n limit => holds_minItems (length.least n limit))
    fun n limit => holds_maxItems (length.most n limit)

theorem holds_pointCounts {l : LengthLimits} {t : Text} (length : l.Allows t.length) :
    ∀ m ∈ Shape.lengthMembers "minLength" "maxLength" l, Holds N ms m.1 m.2 (.text t) :=
  holds_lengthMembers (fun n limit => holds_minLength (length.least n limit))
    fun n limit => holds_maxLength (length.most n limit)

theorem holds_memberCounts {l : LengthLimits} {members : List (Text × Json)}
    (length : l.Allows members.length) :
    ∀ m ∈ Shape.lengthMembers "minProperties" "maxProperties" l, Holds N ms m.1 m.2 (.object members) :=
  holds_lengthMembers (fun n limit => holds_minProperties (length.least n limit))
    fun n limit => holds_maxProperties (length.most n limit)

/-- A limit that a value keeps holds of it. -/
theorem holds_of_keeps {m : Text × Json} (keeps : Keeps v m) : Holds N ms m.1 m.2 v := by
  obtain ⟨key, k⟩ := m
  obtain ⟨number, holds⟩ := keeps
  refine Filter.Eventually.of_forall fun n => ?_
  cases k with
  | int n => exact holds _ _ _
  | float x => exact holds _ _ _
  | _ => cases number

/-- A keyword under which a schema stands refers to what the schema does. -/
theorem refers_of_asks (asks : Asks P (.object ms)) (schema : IsSchema j) (member : (key, j) ∈ ms)
    (leads : leadsOn key = true) : Refers P j := by
  have refers := asks_object.mp asks _ member leads
  cases schema <;> exact refersMembers_object.mp refers

/-- The schema of a field is that of its shape with notes beside it. -/
theorem fieldSchema_induction {P : Json → Prop} {name : Text} {presence : Presence} {titled : Bool} (h : P j)
    (note : ∀ key k j, Keyword.of? key = none → key.isScalar = true → P j → P (j.withMembers [(key, k)])) :
    P (Shape.fieldSchema name presence titled j) := by
  have entitled {j : Json} (h : P j) : P (if titled && (j.get? "title").isNone then
      j.withMembers [("title", .text name.fieldTitle)] else j) := by
    split
    · exact note _ _ _ (by simp [Keyword.table] : Keyword.of? "title" = none) rfl h
    · exact h
  unfold Shape.fieldSchema
  refine entitled ?_
  split
  · split
    · exact note _ _ _ (by simp [Keyword.table] : Keyword.of? "default" = none) rfl h
    · exact h
  · exact h

theorem IsSchema.isSome_object? (schema : IsSchema j) : j.object?.isSome = true := by
  cases schema <;> rfl

theorem IsSchema.note {k : Json} (schema : IsSchema j) (note : Keyword.of? key = none) :
    IsSchema (j.withMembers [(key, k)]) :=
  schema.withMembers (List.forall_mem_singleton.mpr (ne_of_note note (by simp [Keyword.table])))

/-- What accepts every value. -/
theorem accepts_true : Accepts N (.bool true) v :=
  eventually_of_succ (Filter.Eventually.of_forall fun _ => rfl)

/-! ### Names in maps -/

/-- Whether a schema of keys asks something of the names in a map. -/
def asksNamesOf (key : Json) : Bool :=
  (key.get? "$ref").isSome
    || (match ((key.without "pattern").without "title").get? "type" with
      | some (.text t) => t = "string"
      | _ => false)

/-- A map says what its values are, and of its names what the schema of its keys asks of texts. -/
theorem dictSchema_eq (key value : Json) (l : LengthLimits) : ∃ values names,
    Shape.dictSchema key value l = .object (members [("type", .str "object")] ++ values ++ names
      ++ Shape.lengthMembers "minProperties" "maxProperties" l) ∧
    ((∃ p, values = members [("patternProperties", .object [(p, value.without "title")])]) ∨
      values = members [("additionalProperties", value.without "title")] ∨
      values = members [("additionalProperties", .bool true)]) ∧
    (names = [] ∨ asksNamesOf key = true ∧ ∃ k,
      (k = key ∨ k = (key.without "pattern").without "title") ∧
      names = members [("propertyNames", k.without "type")]) := by
  unfold Shape.dictSchema
  refine ⟨_, _, rfl, ?_, ?_⟩
  · split
    · exact Or.inl ⟨_, rfl⟩
    · split
      · exact Or.inr (Or.inr rfl)
      · exact Or.inr (Or.inl rfl)
  · by_cases reference : (key.get? "$ref").isSome = true
    · refine Or.inr ⟨by rw [asksNamesOf, reference, Bool.true_or], key, Or.inl rfl, ?_⟩
      rw [if_pos reference, if_pos (by rw [reference, Bool.true_or])]
      rfl
    · rw [if_neg reference]
      split_ifs with asked
      · -- What decides that names are told is `asksNamesOf`, and that there is something to tell.
        rw [Bool.or_eq_true, Bool.and_eq_true] at asked
        exact Or.inr ⟨Bool.or_eq_true_iff.mpr (asked.imp_right And.left), _, Or.inr rfl, rfl⟩
      · exact Or.inl rfl

namespace Glossary

variable {g : Glossary} {self : Option Nat} {x : Json}

/-- A schema under a keyword accepts what fits it. -/
theorem Fits.accepts (fits : g.Fits self v j) (schema : IsSchema j)
    (asks : Asks (g.IsRight self) (.object ms)) (member : (key, j) ∈ ms)
    (leads : leadsOn key = true) : Accepts (g.naming self) j v :=
  accepts_of_one schema fits (each_of_refers (refers_of_asks asks schema member leads))

/-- What all members of a schema hold of fits it. -/
theorem fits_object (member : (key, x) ∈ ms) (noReference : key ≠ "$ref") (noAlternatives : key ≠ "anyOf")
    (h : Asks (g.IsRight self) (.object ms) → ∀ m ∈ ms, Holds (g.naming self) ms m.1 m.2 v) :
    g.Fits self v (.object ms) := by
  refine (one_of_isPlain (IsSchema.isPlain_of_member member noAlternatives)).mpr ?_
  exact good_of_member member noReference fun asks => accepts_object (h asks)

/-- What is of the type of a schema fits it if its other members hold. -/
theorem fits_typed {name : String} {others : List (Text × Json)} (type : isOfType name v = true)
    (h : ∀ m ∈ others, ∀ ms, Holds (g.naming self) ms m.1 m.2 v) :
    g.Fits self v (.object (schemaType name ++ others)) :=
  fits_object (List.mem_append_left _ (Shape.mem_schemaType _)) (by decide) (by decide) fun _ =>
    List.forall_mem_append.mpr ⟨List.forall_mem_singleton.mpr (holds_type type), fun m member => h m member _⟩

/-- What is of a type fits the schema that asks for the type. -/
theorem fits_type {name : String} (type : isOfType name v = true) :
    g.Fits self v (.object (schemaType name)) :=
  fits_object (Shape.mem_schemaType _) (by decide) (by decide) fun _ =>
    List.forall_mem_singleton.mpr (holds_type type)

/-! ### Arrays -/

/-- Items that fit make an array that fits. -/
theorem fits_items {vs : List Json} {others : List (Text × Json)} (schema : IsSchema j)
    (items : ∀ v ∈ vs, g.Fits self v j)
    (h : ∀ m ∈ others, ∀ ms, Holds (g.naming self) ms m.1 m.2 (.array vs)) :
    g.Fits self (.array vs)
      (.object (members [("items", j), ("type", .str "array")] ++ others)) := by
  have first : (("items" : Text), j) ∈ members [("items", j), ("type", .str "array")] ++ others :=
    List.mem_append_left _ List.mem_cons_self
  refine fits_object first (by decide) (by decide) fun asks => ?_
  refine List.forall_mem_append.mpr ⟨?_, fun m member => h m member _⟩
  refine List.forall_mem_cons.mpr ⟨?_, List.forall_mem_singleton.mpr (holds_type rfl)⟩
  refine holds_items fun v member => ?_
  exact (items v member).accepts schema asks first (by decide)

/-- Items that fit one by one make an array that fits. -/
theorem fits_prefixItems {js vs : List Json} {l : LengthLimits} (schemas : ∀ j ∈ js, IsSchema j)
    (items : List.Forall₂ (fun j v => g.Fits self v j) js vs) (length : l.Allows vs.length) :
    g.Fits self (.array vs) ((Json.object ((if js.isEmpty then []
      else [(("prefixItems" : Text), Json.array js)]) ++ members [("minItems", .int js.length),
        ("maxItems", .int js.length), ("type", .str "array")])).withMembers
      (Shape.lengthMembers "minItems" "maxItems" l)) := by
  have counted := items.length_eq
  have typed : ((("type" : Text)), Json.str "array") ∈ (if js.isEmpty then []
      else [((("prefixItems" : Text)), Json.array js)]) ++ members [("minItems", .int js.length),
        ("maxItems", .int js.length), ("type", .str "array")] :=
    List.mem_append_right _ (by simp [members])
  have others : ∀ m ∈ Shape.lengthMembers "minItems" "maxItems" l, m.1 ≠ "type" := fun m member => by
    rcases Shape.key_of_mem_lengthMembers member with same | same <;> rw [same] <;> decide
  have kept := mem_foldl_put typed others
  refine fits_object kept (by decide) (by decide) fun asks m member => ?_
  rcases mem_of_mem_foldl_put member with limit | before
  · exact holds_itemCounts length m limit
  rcases List.mem_append.mp before with first | counts
  · split at first
    · cases first
    · obtain rfl := List.mem_singleton.mp first
      have leads : leadsOn "prefixItems" = true := by simp [leadsOn, Keyword.table]
      have refers := (refersMembers_array (by decide)).mp (asks_object.mp asks _ member leads)
      refine holds_prefixItems (List.forall₂_iff_zip.mpr ⟨counted, fun {j v} within => ?_⟩)
      have part := (List.of_mem_zip within).1
      exact accepts_of_one (schemas j part) (List.forall₂_zip items within) (each_of_refers (refers j part))
  · simp only [members, List.map_cons, List.map_nil, List.mem_cons, List.not_mem_nil, or_false] at counts
    rcases counts with rfl | rfl | rfl
    · exact holds_minItems counted.le
    · exact holds_maxItems counted.ge
    · exact holds_type rfl

/-! ### Maps -/

/-- What is asked of names in a map is part of what the schema of keys asks of texts. -/
theorem accepts_name {t : Text} (schema : IsSchema j) (fits : g.Fits self (.text t) j)
    (named : asksNamesOf j = true) (k : Json)
    (is : k = j ∨ k = (j.without "pattern").without "title")
    (asks : Refers (g.IsRight self) (k.without "type")) :
    Accepts (g.naming self) (k.without "type") (.text t) := by
  cases schema with
  | anyOf alternatives => cases named
  | @plain ms other =>
    have good := ((one_of_isPlain ⟨ms, rfl, other⟩).mp fits).1
    -- the keys that are left out lead nowhere
    have notes : ∀ key ∈ [("type" : Text), "title", "pattern"], leadsOn key = false := by
      simp [leadsOn, Keyword.table]
    simp only [List.forall_mem_cons, List.not_mem_nil, false_implies, implies_true, and_true] at notes
    obtain ⟨type, title, pattern⟩ := notes
    rcases is with rfl | rfl
    · exact accepts_text_without (good (.of_without type (asks_of_refers asks)))
    · refine accepts_text_without (accepts_text_without (accepts_text_without (good ?_)))
      exact .of_without pattern (.of_without title (.of_without type (asks_of_refers asks)))

/-- Values that fit, under names that do if something is asked of them, make a map that fits. -/
theorem fits_dict {kj vj : Json} {ms : List (Text × Json)} {l : LengthLimits} (key : IsSchema kj)
    (value : IsSchema vj) (names : asksNamesOf kj = true → ∀ m ∈ ms, g.Fits self (.text m.1) kj)
    (values : ∀ m ∈ ms, g.Fits self m.2 vj) (length : l.Allows ms.length) :
    g.Fits self (.object ms) (Shape.dictSchema kj vj l) := by
  obtain ⟨vs, ns, is, ofValues, ofNames⟩ := dictSchema_eq kj vj l
  rw [is]
  have first : (("type" : Text), Json.str "object") ∈ members [("type", .str "object")] ++ vs ++ ns
      ++ Shape.lengthMembers "minProperties" "maxProperties" l := by simp [members]
  refine fits_object first (by decide) (by decide) fun asks => ?_
  have plainValue (refers : Refers (g.IsRight self) (vj.without "title")) :
      ∀ m ∈ ms, Accepts (g.naming self) (vj.without "title") m.2 := by
    intro m member
    have accepted := accepts_of_one value (values m member)
      (each_of_without value (by simp [leadsOn, Keyword.table]) refers)
    cases value <;> exact accepts_without (by simp [Keyword.table]) accepted
  obtain ⟨us, object⟩ := value.without (k := "title")
  refine List.forall_mem_append.mpr ⟨List.forall_mem_append.mpr ⟨List.forall_mem_append.mpr
    ⟨List.forall_mem_singleton.mpr (holds_type rfl), ?_⟩, ?_⟩, holds_memberCounts length⟩
  · have among : ∀ m ∈ vs, leadsOn m.1 = true → RefersMembers (g.IsRight self) [m] := fun m member =>
      asks_object.mp asks m (List.mem_append_left _ (List.mem_append_left _ (List.mem_append_right _ member)))
    rcases ofValues with ⟨p, rfl⟩ | rfl | rfl
    · have leads : leadsOn "patternProperties" = true := by simp [leadsOn, Keyword.table]
      have refers := refersMembers_object.mp (among _ List.mem_cons_self leads)
      rw [object] at refers
      refine List.forall_mem_singleton.mpr (holds_patternProperties (by rw [object]; rfl) ?_)
      exact plainValue (object ▸ refersMembers_object.mp refers)
    · have leads : leadsOn "additionalProperties" = true := by simp [leadsOn, Keyword.table]
      have refers := among _ List.mem_cons_self leads
      rw [object] at refers
      refine List.forall_mem_singleton.mpr (holds_additionalProperties ?_)
      exact plainValue (object ▸ refersMembers_object.mp refers)
    · exact List.forall_mem_singleton.mpr (holds_additionalProperties fun _ _ => accepts_true)
  · rcases ofNames with rfl | ⟨named, k, is', rfl⟩
    · exact List.forall_mem_nil _
    · have leads : leadsOn "propertyNames" = true := by simp [leadsOn, Keyword.table]
      have refers := asks_object.mp asks _
        (List.mem_append_left _ (List.mem_append_right _ List.mem_cons_self)) leads
      have object : ∃ ns, k.without "type" = .object ns := by
        rcases is' with rfl | rfl <;> cases key <;> exact ⟨_, rfl⟩
      obtain ⟨ns, object⟩ := object
      dsimp only at refers
      rw [object] at refers
      refine List.forall_mem_singleton.mpr (holds_propertyNames fun m member => ?_)
      exact accepts_name key (names named m member) named k is' (object ▸ refersMembers_object.mp refers)

/-! ### Classes -/

/-- Notes beside a schema change nothing about what fits it. -/
theorem fits_withMembers {ns : List (Text × Json)} (schema : IsSchema j) (notes : AreNotes ns)
    (fits : g.Fits self v j) : g.Fits self v (j.withMembers ns) := one_withMembers schema notes fits

/-- What fits the schema of a field's shape fits that of the field. -/
theorem fits_fieldSchema (name : Text) (presence : Presence) (titled : Bool) (schema : IsSchema j)
    (fits : g.Fits self v j) : g.Fits self v (Shape.fieldSchema name presence titled j) := by
  refine (fieldSchema_induction (P := fun j => IsSchema j ∧ g.Fits self v j) ⟨schema, fits⟩
    fun key k j note _ h => ⟨h.1.note note, ?_⟩).2
  exact fits_withMembers h.1 (List.forall_mem_singleton.mpr note) h.2

end Glossary

/-- A class accepts an object whose members its properties accept, if those are there that it needs, and no
others where it takes no others. -/
theorem accepts_classSchema {kind : ClassKind} {name : Text} {extra : Extra}
    {properties members : List (Text × Json)} {required : List Text}
    (schemas : ∀ p ∈ properties, p.2.object?.isSome = true)
    (declared : ∀ m ∈ members, ∀ k, lookup m.1 properties = some k → Accepts N k m.2)
    (given : ∀ n ∈ required, ∃ m ∈ members, m.1 = n)
    (closed : extra = .forbid → ∀ m ∈ members, (lookup m.1 properties).isSome = true) :
    Accepts N (Shape.classSchema kind name extra properties required) (.object members) := by
  unfold Shape.classSchema
  refine accepts_object ?_
  refine List.forall_mem_append.mpr ⟨List.forall_mem_append.mpr ⟨List.forall_mem_append.mpr
    ⟨List.forall_mem_append.mpr ⟨List.forall_mem_singleton.mpr (holds_properties schemas declared), ?_⟩,
    ?_⟩, ?_⟩, fun m member => ?_⟩
  · split
    · exact List.forall_mem_nil _
    · exact List.forall_mem_singleton.mpr (holds_required given)
  · refine List.forall_mem_cons.mpr ⟨holds_note (by simp [Keyword.table] : Keyword.of? "title" = none),
      List.forall_mem_singleton.mpr (holds_type rfl)⟩
  · cases extra with
    | ignore => exact List.forall_mem_nil _
    | allow => exact List.forall_mem_singleton.mpr (holds_additionalProperties fun _ _ => accepts_true)
    | forbid =>
      refine List.forall_mem_singleton.mpr (holds_additionalProperties_declared fun m member => ?_)
      simp only [declares, Json.members, List.map_cons, List.map_nil, List.cons_append, lookup, if_true,
        Option.bind_some, get?]
      exact closed rfl m member
  · -- a description is there if the class has one
    refine holds_note ?_
    split at member
    · split at member
      · split at member
        · cases member
        · exact List.mem_singleton.mp member ▸ (by simp [Keyword.table] : Keyword.of? "description" = none)
      · cases member
    · cases member

/-! ### Listed values -/

/-- A value without parts is equal to itself. -/
theorem equal_self (atom : v.isAtom = true) : equal v v = true := by
  have places (p : Binary64.Place) : p.compare p = .eq := by cases p <;> simp [Binary64.Place.compare]
  cases v with
  | array items => cases atom
  | object ms => cases atom
  | int n => simp [equal, place?, places]
  | float x =>
    rw [equal]
    · split
      next p q first second =>
        obtain rfl := Option.some.inj (first.symm.trans second)
        exact beq_iff_eq.mpr (places p)
      next => exact beq_iff_eq.mpr rfl
    all_goals nofun
  | _ => simp [equal, place?, same]

/-- A value without parts has no references and no keys. -/
theorem renamed_eq_self {ρ : Text → Text} (atom : v.isAtom = true) : (renamed ρ v).sortKeys = v := by
  cases v <;> first | rfl | cases atom

/-- The type of a list of values, if it is said, is that of each of them. -/
theorem holds_commonType {js : List Json} (member : v ∈ js) (atom : v.isAtom = true) :
    ∀ m ∈ optionalMember "type" ((commonType js).map .text), Holds N ms m.1 m.2 v := by
  cases common : commonType js with
  | none => exact nofun
  | some t =>
    refine List.forall_mem_singleton.mpr (holds_type ?_)
    obtain _ | ⟨j, js⟩ := js
    · cases member
    unfold commonType at common
    extract_lets kind at common
    dsimp only at common
    obtain ⟨all, first⟩ : (js.all fun k => kind k == kind j) = true ∧ kind j = some t := by
      by_cases all : (js.all fun k => kind k == kind j) = true
      · exact ⟨all, (if_pos all).symm.trans common⟩
      · rw [if_neg all] at common
        cases common
    have own : kind v = some t := by
      rcases List.mem_cons.mp member with rfl | later
      · exact first
      · exact (eq_of_beq (List.all_eq_true.mp all v later)).trans first
    cases v with
    | null => cases show Option.none = some t from own
    | bool b => exact Option.some.inj (show some (Text.ofString "boolean") = some t from own) ▸ rfl
    | int n => exact Option.some.inj (show some (Text.ofString "integer") = some t from own) ▸ rfl
    | float x => exact Option.some.inj (show some (Text.ofString "number") = some t from own) ▸ by simp [isOfType]
    | text u => exact Option.some.inj (show some (Text.ofString "string") = some t from own) ▸ rfl
    | array js => cases atom
    | object ms => cases atom

namespace Glossary

variable {g : Glossary} {self : Option Nat}

/-- A listed value fits a literal. -/
theorem fits_literal {vs : List Value} (listed : Shape.IsListed vs v) :
    g.Fits self v (Shape.literalSchema vs) := by
  obtain ⟨member, atoms⟩ := listed
  unfold Shape.literalSchema
  dsimp only
  split
  next j alone =>
    obtain rfl := List.mem_singleton.mp (alone ▸ member)
    have first : (("const" : Text), v) ∈ members [("const", v)]
        ++ optionalMember "type" ((commonType (vs.map Shape.publishedValue)).map .text) :=
      List.mem_append_left _ List.mem_cons_self
    refine fits_object first (by decide) (by decide) fun _ => List.forall_mem_append.mpr
      ⟨List.forall_mem_singleton.mpr ?_, holds_commonType member (atoms v member)⟩
    exact holds_const (renamed_eq_self (atoms v member)) (equal_self (atoms v member))
  next =>
    have first : (("enum" : Text), Json.array (vs.map Shape.publishedValue)) ∈
        members [("enum", .array (vs.map Shape.publishedValue))]
        ++ optionalMember "type" ((commonType (vs.map Shape.publishedValue)).map .text) :=
      List.mem_append_left _ List.mem_cons_self
    refine fits_object first (by decide) (by decide) fun _ => List.forall_mem_append.mpr
      ⟨List.forall_mem_singleton.mpr ?_, holds_commonType member (atoms v member)⟩
    exact holds_enum (fun k among => renamed_eq_self (atoms k among))
      ⟨v, member, equal_self (atoms v member)⟩

end Glossary

/-- A listed value is accepted as a member of an enumeration. -/
theorem accepts_enumSchema {name : Text} {members : List (Text × Value)}
    (listed : Shape.IsListed (members.map (·.2)) v) : Accepts N (Shape.enumSchema name members) v := by
  obtain ⟨member, atoms⟩ := listed
  rw [List.map_map] at member atoms
  unfold Shape.enumSchema
  refine accepts_object (List.forall_mem_append.mpr ⟨List.forall_mem_cons.mpr ⟨?_,
    List.forall_mem_singleton.mpr (holds_note (by simp [Keyword.table] : Keyword.of? "title" = none))⟩,
    holds_commonType member (atoms v member)⟩)
  exact holds_enum (fun k among => renamed_eq_self (atoms k among))
    ⟨v, member, equal_self (atoms v member)⟩

end Definitions

namespace Shape

/-! ### Shapes -/

variable {g : Glossary}

theorem lookup_eq_none {key : Text} {ms : List (Text × Json)} (others : ∀ m ∈ ms, m.1 ≠ key) :
    lookup key ms = Option.none := by
  cases found : lookup key ms with
  | none => rfl
  | some j => exact absurd rfl (others _ (mem_of_lookup found))

/-- What is published of keys that are no texts is no reference, and is not of the type of texts. -/
theorem lookup_of_silent {last : Definitions} {s : Shape} {k : Json} (as : PublishedAs last s k)
    (silent : s.asksNames = false) : ∃ ms, k = .object ms ∧ lookup "$ref" ms = Option.none ∧
      ∀ t, lookup "type" ms = some (.text t) → t ≠ "string" := by
  have typed {name : String} (others : List (Text × Json)) (other : Text.ofString name ≠ "string")
      (absent : ∀ m ∈ others, m.1 ≠ "$ref") :
      lookup "$ref" (schemaType name ++ others) = Option.none ∧
        ∀ t, lookup "type" (schemaType name ++ others) = some (.text t) → t ≠ "string" := by
    refine ⟨lookup_eq_none (List.forall_mem_append.mpr
      ⟨List.forall_mem_singleton.mpr (by decide : ("type" : Text) ≠ "$ref"), absent⟩), fun t found => ?_⟩
    have first : lookup "type" (schemaType name ++ others) = some (.text (Text.ofString name)) :=
      if_pos rfl
    exact Json.text.inj (Option.some.inj (first.symm.trans found)) ▸ other
  have limits {l : Limits} : ∀ m ∈ numberMembers l, m.1 ≠ "$ref" := by
    intro m member
    have others : ∀ key ∈ limitKeys, key ≠ "$ref" := by simp [limitKeys]
    exact others _ (key_of_mem_limitMembers member)
  have keys : ∀ key ∈ [("prefixItems" : Text), "items", "minItems", "maxItems"],
      key ≠ "$ref" ∧ key ≠ "type" := by simp
  have typeKey : ("type" : Text) ≠ "$ref" := by decide
  simp only [List.forall_mem_cons, List.not_mem_nil, false_implies, implies_true, and_true] at keys
  have array {ms : List (Text × Json)} (found : lookup "type" ms = some (.str "array")) :
      ∀ t, lookup "type" ms = some (.text t) → t ≠ "string" := by
    rintro t again rfl
    have same := Option.some.inj (found.symm.trans again)
    simp [Json.str] at same
  cases s with
  | any =>
    obtain ⟨-, -, -, published, -⟩ := as
    cases published
    exact ⟨_, rfl, rfl, fun t found => absurd found.symm (Option.some_ne_none _)⟩
  | none =>
    obtain ⟨-, -, -, published, -⟩ := as
    cases published
    exact ⟨_, rfl, typed [] (by decide) (List.forall_mem_nil _)⟩
  | bool =>
    obtain ⟨-, -, -, published, -⟩ := as
    cases published
    exact ⟨_, rfl, typed [] (by decide) (List.forall_mem_nil _)⟩
  | int l =>
    obtain ⟨-, -, -, published, -⟩ := as
    cases published
    exact ⟨_, rfl, typed _ (by decide) limits⟩
  | float finite l =>
    obtain ⟨-, -, -, published, -⟩ := as
    cases published
    exact ⟨_, rfl, typed _ (by decide) limits⟩
  | tuple ss l =>
    obtain ⟨js, -, rfl⟩ := as.of_tuple
    have counts {key : Text} (first : key ≠ "minItems") (second : key ≠ "maxItems") :
        ∀ m ∈ lengthMembers "minItems" "maxItems" l, m.1 ≠ key := by
      intro m member
      rcases key_of_mem_lengthMembers member with same | same <;> rw [same]
      · exact first.symm
      · exact second.symm
    refine ⟨_, rfl, ?_⟩
    rw [lookup_foldl_put (counts (by decide) (by decide)), lookup_foldl_put (counts (by decide) (by decide))]
    split
    · exact ⟨by simp [members, lookup, keys, typeKey], array (by simp [members, lookup, keys])⟩
    · exact ⟨by simp [members, lookup, keys, typeKey], array (by simp [members, lookup, keys])⟩
  | tupleOf s l =>
    obtain ⟨j, -, rfl⟩ := as.of_tupleOf
    refine ⟨_, rfl, lookup_eq_none (List.forall_mem_append.mpr ⟨by simp [members, keys, typeKey], ?_⟩),
      array (by simp [members, lookup, keys])⟩
    intro m member
    rcases key_of_mem_lengthMembers member with same | same <;> rw [same] <;> simp [keys]
  | noted notes s =>
    obtain ⟨j, inner, rfl⟩ := as.of_noted
    obtain ⟨ms, rfl, noReference, other⟩ := lookup_of_silent inner silent
    have keys : ∀ m ∈ notes, m.1 ∈ noteKeys := by
      obtain ⟨wellFormed, -, -, -, -⟩ := as
      exact wellFormed.of_noted.1
    refine ⟨_, rfl, ?_⟩
    have known : ∀ key ∈ noteKeys, key ≠ "$ref" ∧ key ≠ "type" := by simp [noteKeys]
    rw [lookup_foldl_put fun m member => (known _ (keys m member)).1,
      lookup_foldl_put fun m member => (known _ (keys m member)).2]
    exact ⟨noReference, other⟩
  | bounded b s => exact lookup_of_silent as.of_bounded silent
  | _ => cases silent

/-- Of the names in a map nothing is asked by keys that are no texts. -/
theorem asksNamesOf_eq_false {last : Definitions} {s : Shape} {k : Json} (as : PublishedAs last s k)
    (silent : s.asksNames = false) : asksNamesOf k = false := by
  obtain ⟨ms, rfl, noReference, other⟩ := lookup_of_silent as silent
  have kept : lookup "type" (remove "title" (remove "pattern" ms)) = lookup "type" ms := by
    rw [lookup_remove_ne (by decide), lookup_remove_ne (by decide)]
  rw [asksNamesOf, get?, noReference, without, without, get?, kept]
  split
  next t found => simpa using other t found
  next => rfl

/-- A text fits what is published of a shape of texts that nothing is asked of. -/
theorem fits_worded {s : Shape} {k : Json} {self : Option Nat} {t : Text} (worded : s.isWorded = true)
    (as : PublishedAs g.classes s k) : g.Fits self (.text t) k := by
  have form (format : String) : g.Fits self (.text t) (formatted format) := by
    have second : (("type" : Text), Json.str "string") ∈
        members [("format", .str format), ("type", .str "string")] := by simp [members]
    exact Glossary.fits_object second (by decide) (by decide) fun _ => List.forall_mem_cons.mpr
      ⟨holds_note (by simp [Keyword.table] : Keyword.of? "format" = Option.none),
        List.forall_mem_singleton.mpr (holds_type rfl)⟩
  obtain ⟨-, -, -, published, -⟩ := as
  cases s with
  | decimal finite digits l =>
    cases published
    refine one_alternatives.mpr ⟨_, List.mem_cons_of_mem _ List.mem_cons_self, ?_⟩
    refine good_of_member (mem_schemaType _) (by decide) fun _ => accepts_object ?_
    exact List.forall_mem_singleton.mpr (holds_type rfl)
  | complex =>
    cases published
    exact Glossary.fits_type rfl
  | date l =>
    cases published
    rw [List.isEmpty_iff.mp worded]
    exact form "date"
  | time l =>
    cases published
    exact form "time"
  | dateTime l =>
    cases published
    exact form "date-time"
  | duration l =>
    cases published
    exact form "duration"
  | uuid =>
    cases published
    exact form "uuid"
  | _ => cases worded

/-- Nothing fits what is published of what may be missing. -/
theorem fits_nullable {j v : Json} {self : Option Nat} (schema : IsSchema j)
    (h : v = .null ∨ g.Fits self v j) :
    g.Fits self v (if j.same (.object (schemaType "null")) then .object (schemaType "null")
      else Json.anyOf [j, .object (schemaType "null")]) := by
  have nothing : IsSchema (.object (schemaType "null")) :=
    .of_member (List.mem_singleton.mpr rfl) (by decide : ("type" : Text) ≠ "anyOf")
  have null : g.Fits self .null (.object (schemaType "null")) :=
    Glossary.fits_type rfl
  split
  next same =>
    rcases h with rfl | fits
    · exact null
    · exact eq_of_same same ▸ fits
  next =>
    have schemas := List.forall_mem_cons.mpr ⟨schema, List.forall_mem_singleton.mpr nothing⟩
    rcases h with rfl | fits
    · exact one_anyOf Good.congr schemas (List.mem_cons_of_mem _ List.mem_cons_self) null
    · exact one_anyOf Good.congr schemas List.mem_cons_self fits

/-- **What conforms fits**: a value that conforms to a shape fits the schema that is published of it. -/
theorem fits_of_conforms {own s : Shape} {v : Json} (h : Conforms own s v) :
    ∀ {self : Option Nat} {k : Json}, PublishedAs g.classes s k →
      (∀ n, self = some n → PublishedAs g.classes own (referenceTo n)) → g.Fits self v k := by
  induction h with
  | any =>
    rintro self k ⟨-, -, -, published, -⟩ -
    cases published
    have plain : IsPlain (.object []) := ⟨[], rfl, fun js same => absurd same.symm (List.cons_ne_nil _ _)⟩
    refine (one_of_isPlain plain).mpr ⟨fun _ => accepts_object (List.forall_mem_nil _), fun n same => ?_⟩
    cases same
  | null =>
    rintro self k ⟨-, -, -, published, -⟩ -
    cases published
    exact Glossary.fits_type rfl
  | bool =>
    rintro self k ⟨-, -, -, published, -⟩ -
    cases published
    exact Glossary.fits_type rfl
  | @str own l p t length form =>
    rintro self k ⟨-, -, -, published, -⟩ -
    cases published
    rw [List.append_assoc]
    refine Glossary.fits_typed rfl fun m member ms => ?_
    rcases List.mem_append.mp member with limit | pattern
    · exact holds_pointCounts length m limit
    · cases p with
      | none => cases pattern
      | some source => exact List.mem_singleton.mp pattern ▸ holds_pattern (form source rfl)
  | int limits =>
    rintro self k ⟨-, -, -, published, -⟩ -
    cases published
    exact Glossary.fits_typed rfl fun m member ms => holds_of_keeps (limits m member)
  | float limits =>
    rintro self k ⟨-, -, -, published, -⟩ -
    cases published
    exact Glossary.fits_typed (by simp [isOfType]) fun m member ms => holds_of_keeps (limits m member)
  | @bytes own l t length =>
    rintro self k ⟨-, -, -, published, -⟩ -
    cases published
    have typed : (("type" : Text), Json.str "string") ∈
        members [("format", .str "binary"), ("type", .str "string")]
          ++ lengthMembers "minLength" "maxLength" l := by simp [members]
    refine Glossary.fits_object typed (by decide) (by decide) fun _ => List.forall_mem_append.mpr
      ⟨List.forall_mem_cons.mpr ⟨holds_note (by simp [Keyword.table] : Keyword.of? "format" = Option.none), ?_⟩,
        holds_pointCounts length⟩
    exact List.forall_mem_singleton.mpr (holds_type rfl)
  | worded worded => exact fun as _ => fits_worded worded as
  | list items length ih =>
    intro self k as within
    obtain ⟨j, inner, rfl⟩ := as.of_list
    exact Glossary.fits_items inner.isSchema (fun v member => ih v member inner within)
      fun m member ms => holds_itemCounts length m member
  | set items distinct length ih =>
    intro self k as within
    obtain ⟨j, inner, rfl⟩ := as.of_set
    refine Glossary.fits_items inner.isSchema (fun v member => ih v member inner within)
      fun m (member : m ∈ _ :: _) ms => ?_
    rcases List.mem_cons.mp member with rfl | limit
    · exact holds_uniqueItems distinct
    · exact holds_itemCounts length m limit
  | tuple count items length ih =>
    intro self k as within
    obtain ⟨js, inner, rfl⟩ := as.of_tuple
    refine Glossary.fits_prefixItems (fun j member => ?_) ?_ length
    · obtain ⟨s, -, as⟩ := exists_left_of_mem inner member
      exact as.isSchema
    · have each : List.Forall₂ (fun s v => ∀ j, PublishedAs g.classes s j → g.Fits self v j) _ _ :=
        List.forall₂_iff_zip.mpr ⟨count, fun among j as => ih _ among as within⟩
      exact forall₂_trans (fun as fits => fits _ as) inner.flip each
  | tupleOf items length ih =>
    intro self k as within
    obtain ⟨j, inner, rfl⟩ := as.of_tupleOf
    exact Glossary.fits_items inner.isSchema (fun v member => ih v member inner within)
      fun m member ms => holds_itemCounts length m member
  | dict names values length ihKey ihValue =>
    intro self k as within
    obtain ⟨kj, vj, key, value, rfl⟩ := as.of_dict
    refine Glossary.fits_dict key.isSchema value.isSchema (fun named m member => ?_)
      (fun m member => ihValue m member value within) length
    refine ihKey ?_ m member key within
    by_contra silent
    rw [asksNamesOf_eq_false key (by simpa using silent)] at named
    cases named
  | nothing =>
    intro self k as within
    obtain ⟨j, inner, rfl⟩ := as.of_nullable
    exact fits_nullable inner.isSchema (Or.inl rfl)
  | nullable inner ih =>
    intro self k as within
    obtain ⟨j, inner, rfl⟩ := as.of_nullable
    exact fits_nullable inner.isSchema (Or.inr (ih inner within))
  | union member isPublished inner ih =>
    rintro self k ⟨wellFormed, clean, sound, published, inside⟩ within
    cases published
    obtain ⟨schemas, found⟩ := PublishedAs.of_possible wellFormed.of_union clean sound inside
    obtain ⟨j, among, as⟩ := found _ member isPublished
    have fits := ih as within
    split
    next j' alone => exact List.mem_singleton.mp (alone ▸ among) ▸ fits
    next => exact one_anyOf Good.congr schemas among fits
  | literal listed =>
    rintro self k ⟨-, -, -, published, -⟩ -
    cases published
    exact Glossary.fits_literal listed
  | @enum own name members base v listed =>
    intro self k as within
    have inhabited : members.isEmpty = false := by
      rw [List.isEmpty_eq_false_iff]
      rintro rfl
      cases listed.1
    obtain ⟨n, c, rfl, stands, schema⟩ := as.of_enum inhabited
    refine Glossary.fits_reference stands (schema.trans rfl) fun _ _ _ => ?_
    rw [schema]
    exact accepts_enumSchema listed
  | @record own kind name extra fields ms required declared closed ih =>
    intro self k as within
    obtain ⟨n, properties, c, rfl, stands, schema, published⟩ := as.of_record
    obtain ⟨members, object, has, -⟩ := classSchema_eq_object kind name extra properties
      ((fields.filter fun f => isRequired f.2.1).map (·.1))
    refine Glossary.fits_reference stands (schema.trans object) fun self' own' asks => ?_
    rw [schema] at asks ⊢
    have refers : RefersMembers (g.IsRight self') properties := by
      rw [object] at asks
      exact refersMembers_object.mp (asks_object.mp asks _ (mem_of_lookup has)
        (by simp [leadsOn, Keyword.table] : leadsOn "properties" = true))
    refine accepts_classSchema (fun p member => ?_) (fun m member p found => ?_) (fun name member => ?_)
      fun forbids m member => ?_
    · obtain ⟨f, -, -, j, inner, is⟩ := exists_left_of_mem published member
      rw [is]
      exact (fieldSchema_induction inner.isSchema fun _ _ _ note _ h => h.note note).isSome_object?
    · obtain ⟨f, field, named, j, inner, is⟩ := exists_left_of_mem published (mem_of_lookup found)
      dsimp only at named is
      have schema : IsSchema p :=
        is ▸ fieldSchema_induction inner.isSchema fun _ _ _ note _ h => h.note note
      have fits := Glossary.fits_fieldSchema f.1 f.2.1 f.2.2.isTitled inner.isSchema
        (ih m member f field named.symm inner fun n' same => own' n' same ▸ as)
      rw [← is] at fits
      refine accepts_of_one schema fits (each_of_refers ?_)
      have refers := refers.lookup found
      cases schema <;> exact refersMembers_object.mp refers
    · obtain ⟨f, needed, rfl⟩ := List.mem_map.mp member
      exact required f (List.mem_of_mem_filter needed) (List.mem_filter.mp needed).2
    · obtain ⟨f, field, named⟩ := closed forbids m member
      obtain ⟨p, property, same, -⟩ := exists_right_of_mem published field
      exact isSome_lookup ⟨p, property, same.trans named⟩
  | self inner ih =>
    rintro self k ⟨-, -, -, published, -⟩ within
    cases published
    exact Glossary.fits_selfReference fun n same => ih (within n same) within
  | noted notes inner ih =>
    intro self k as within
    obtain ⟨j, inner, rfl⟩ := as.of_noted
    exact Glossary.fits_withMembers inner.isSchema notes (ih inner within)
  | bounded inner ih => exact fun as within => ih as.of_bounded within

/-- **Validity**: what conforms to a shape is valid under its JSON schema. -/
theorem isValid_of_conforms {own s : Shape} {doc v : Json} (wellFormed : s.WellFormed false)
    (published : s.schema = .ok doc) (h : Conforms own s v) : doc.IsValid v :=
  isValid_of_fits wellFormed published fun _ _ as => fits_of_conforms h as nofun

end Shape

end GuardedTools
