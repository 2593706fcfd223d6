import GuardedTools.Proofs.Shape.Carries
import GuardedTools.Shape.Schema

/-!
# Schemas that are told

A value that a schema accepts is as each keyword of the schema says (`Json.exists_holds`), and for some
shapes this is all that the check of the shape asks: a schema tells such a shape if it has the keywords by
which the values of the shape are known (`Shape.Told`).  Then the shape takes every value that the schema
accepts, provided that integers are written as integers (`Shape.Told.takes`).

The proof is by induction on how the shape is told.  The bound of the search only has to be kept in view
where a keyword leads to another schema, and there it becomes smaller.
-/

namespace GuardedTools

/-! ### Integers -/

namespace Json

mutual

/-- Whether integers are written as integers, and never as floating-point numbers. -/
def writesIntegers : Json → Bool
  | float x => x.toInt?.isNone
  | array items => writesIntegersItems items
  | object members => writesIntegersMembers members
  | _ => true

def writesIntegersItems : List Json → Bool
  | [] => true
  | j :: js => writesIntegers j && writesIntegersItems js

def writesIntegersMembers : List (Text × Json) → Bool
  | [] => true
  | (_, j) :: ms => writesIntegers j && writesIntegersMembers ms

end

theorem writesIntegers_array {js : List Json} :
    (array js).writesIntegers = true ↔ ∀ j ∈ js, j.writesIntegers = true := by
  show writesIntegersItems js = true ↔ _
  induction js with
  | nil => simp [writesIntegersItems]
  | cons j js ih => rw [writesIntegersItems, Bool.and_eq_true, ih, List.forall_mem_cons]

theorem writesIntegers_object {ms : List (Text × Json)} :
    (object ms).writesIntegers = true ↔ ∀ m ∈ ms, m.2.writesIntegers = true := by
  show writesIntegersMembers ms = true ↔ _
  induction ms with
  | nil => simp [writesIntegersMembers]
  | cons m ms ih => rw [writesIntegersMembers, Bool.and_eq_true, ih, List.forall_mem_cons]

/-! ### What types say -/

section Types

variable {v : Json}

theorem eq_null_of_isOfType (h : isOfType "null" v = true) : v = null := by
  cases v with
  | null => rfl
  | _ => simp +decide [isOfType] at h

theorem exists_bool_of_isOfType (h : isOfType "boolean" v = true) : ∃ b, v = bool b := by
  cases v with
  | bool b => exact ⟨b, rfl⟩
  | _ => simp +decide [isOfType] at h

theorem exists_text_of_isOfType (h : isOfType "string" v = true) : ∃ t, v = text t := by
  cases v with
  | text t => exact ⟨t, rfl⟩
  | _ => simp +decide [isOfType] at h

theorem exists_array_of_isOfType (h : isOfType "array" v = true) : ∃ js, v = array js := by
  cases v with
  | array js => exact ⟨js, rfl⟩
  | _ => simp +decide [isOfType] at h

theorem exists_object_of_isOfType (h : isOfType "object" v = true) : ∃ ms, v = object ms := by
  cases v with
  | object ms => exact ⟨ms, rfl⟩
  | _ => simp +decide [isOfType] at h

/-- What is of the type of integers is written as an integer, where integers are. -/
theorem exists_int_of_isOfType (h : isOfType "integer" v = true) (integers : v.writesIntegers = true) :
    ∃ n, v = int n := by
  cases v with
  | int n => exact ⟨n, rfl⟩
  | float x =>
    have whole : x.toInt?.isSome = true := by simpa +decide [isOfType] using h
    have notWhole : x.toInt?.isNone = true := integers
    rw [Option.isNone_iff_eq_none] at notWhole
    rw [notWhole] at whole
    cases whole
  | _ => simp +decide [isOfType] at h

end Types

/-! ### What keywords say -/

section Keywords

variable {target? : Text → Option Json} {n : Nat} {k j v : Json} {key : Text}

/-- Every keyword of a schema holds of what the schema accepts. -/
theorem exists_holds {keyword : Keyword} (accepted : accepts target? n k v = true)
    (found : k.get? key = some j) (named : Keyword.of? key = some keyword) :
    ∃ m ms, k = object ms ∧ holds (followed target? m) (accepts target? m) ms keyword j v = true := by
  obtain ⟨ms, rfl⟩ : ∃ ms, k = object ms := by
    cases k with
    | object ms => exact ⟨ms, rfl⟩
    | _ => cases found
  cases n with
  | zero => cases accepted
  | succ n =>
    rw [accepts, List.all_eq_true] at accepted
    have holdsKey := accepted (key, j) (mem_of_lookup found)
    rw [holdsMember, named] at holdsKey
    exact ⟨n, ms, rfl, holdsKey⟩

variable {js : List Json} {members : List (Text × Json)}

theorem isOfType_of_accepts {t : Text} (accepted : accepts target? n k v = true)
    (type : k.get? "type" = some (.text t)) : isOfType t v = true := by
  obtain ⟨m, ms, rfl, holdsType⟩ := exists_holds accepted type (by simp [Keyword.table] : Keyword.of? "type" = some .type)
  exact holdsType

/-- All items are accepted by the schema of items, if no items have schemas of their own. -/
theorem accepts_items (accepted : accepts target? n k (.array js) = true) (items : k.get? "items" = some j)
    (whole : k.get? "prefixItems" = none) : ∃ m, ∀ v ∈ js, accepts target? m j v = true := by
  obtain ⟨m, ms, rfl, holdsItems⟩ := exists_holds accepted items (by simp [Keyword.table] : Keyword.of? "items" = some .items)
  have none : prefixLength ms = 0 := by
    have absent : lookup "prefixItems" ms = Option.none := whole
    rw [prefixLength, absent]
    rfl
  rw [holds, none, List.drop_zero, List.all_eq_true] at holdsItems
  exact ⟨m, holdsItems⟩

/-- All members of an object are accepted by the schema of further properties, if a schema describes no
others. -/
theorem accepts_additionalProperties (accepted : accepts target? n k (.object members) = true)
    (values : k.get? "additionalProperties" = some j) (undeclared : k.get? "properties" = none)
    (unmatched : k.get? "patternProperties" = none) :
    ∃ m, ∀ e ∈ members, accepts target? m j e.2 = true := by
  obtain ⟨m, ms, rfl, holdsValues⟩ := exists_holds accepted values
    (by simp [Keyword.table] : Keyword.of? "additionalProperties" = some .additionalProperties)
  have undeclared : lookup "properties" ms = Option.none := undeclared
  have unmatched : lookup "patternProperties" ms = Option.none := unmatched
  refine ⟨m, fun e member => ?_⟩
  rw [holds, List.all_eq_true] at holdsValues
  have further := holdsValues e member
  rw [declares, matchesName, undeclared, unmatched] at further
  exact further

/-- Where further properties are forbidden, all members of an object are described. -/
theorem declared_of_closed {properties : Json} (accepted : accepts target? n k (.object members) = true)
    (closed : k.get? "additionalProperties" = some (.bool false))
    (declared : k.get? "properties" = some properties) (unmatched : k.get? "patternProperties" = none) :
    ∀ e ∈ members, (properties.get? e.1).isSome = true := by
  obtain ⟨m, ms, rfl, holdsClosed⟩ := exists_holds accepted closed
    (by simp [Keyword.table] : Keyword.of? "additionalProperties" = some .additionalProperties)
  have declared : lookup "properties" ms = some properties := declared
  have unmatched : lookup "patternProperties" ms = Option.none := unmatched
  intro e member
  rw [holds, List.all_eq_true] at holdsClosed
  have described := holdsClosed e member
  rw [declares, matchesName, declared, unmatched] at described
  -- nothing is accepted by the schema that stands for what is forbidden
  have refused : accepts target? m (.bool false) e.2 = false := by cases m <;> rfl
  rw [refused, Bool.or_false, Option.any_none, Bool.or_false] at described
  exact described

/-- A member of an object is accepted by the schema of the property of its name. -/
theorem accepts_property {properties : Json} {name : Text} {x p : Json}
    (accepted : accepts target? n k (.object members) = true)
    (declared : k.get? "properties" = some properties) (property : properties.get? name = some p)
    (given : lookup name members = some x) : ∃ m, accepts target? m p x = true := by
  obtain ⟨m, ms, rfl, holdsProperties⟩ := exists_holds accepted declared
    (by simp [Keyword.table] : Keyword.of? "properties" = some .properties)
  cases properties with
  | object properties =>
    rw [holds, List.all_eq_true] at holdsProperties
    have member := holdsProperties _ (mem_of_lookup given)
    have property : lookup name properties = some p := property
    rw [property] at member
    exact ⟨m, member⟩
  | _ => cases property

/-- What is required is given. -/
theorem exists_given {names : List Json} {name : Text}
    (accepted : accepts target? n k (.object members) = true)
    (required : k.get? "required" = some (.array names)) (among : text name ∈ names) :
    ∃ x, lookup name members = some x := by
  obtain ⟨m, ms, rfl, holdsRequired⟩ := exists_holds accepted required
    (by simp [Keyword.table] : Keyword.of? "required" = some .required)
  rw [holds, List.all_eq_true] at holdsRequired
  exact Option.isSome_iff_exists.mp (holdsRequired _ among)

theorem accepts_alternative (accepted : accepts target? n k v = true)
    (alternatives : k.get? "anyOf" = some (.array js)) : ∃ m, ∃ j ∈ js, accepts target? m j v = true := by
  obtain ⟨m, ms, rfl, holdsOne⟩ := exists_holds accepted alternatives
    (by simp [Keyword.table] : Keyword.of? "anyOf" = some .anyOf)
  rw [holds, List.any_eq_true] at holdsOne
  exact ⟨m, holdsOne⟩

/-- What a reference accepts is accepted where it leads. -/
theorem accepts_target {t : Text} (accepted : accepts target? n k v = true)
    (reference : k.get? "$ref" = some (.text t)) (leads : target? t = some j) :
    ∃ m, accepts target? m j v = true := by
  obtain ⟨m, ms, rfl, holdsRef⟩ := exists_holds accepted reference (by simp [Keyword.table] : Keyword.of? "$ref" = some .ref)
  rw [holds, followed, leads] at holdsRef
  exact ⟨m, holdsRef⟩

end Keywords

end Json

/-! ### Telling shapes -/

namespace Shape

open Check Json

/-- A schema says of the fields of a class which they are, and which of them must be given. -/
structure TellsFields (fields : List (Text × Presence × Shape)) (k properties : Json) : Prop where
  type : k.get? "type" = some (.text "object")
  declared : k.get? "properties" = some properties
  named : ∀ f ∈ fields, ∃ p, properties.get? f.1 = some p
  required : ∀ f ∈ fields, isRequired f.2.1 = true →
    ∃ names, k.get? "required" = some (.array names) ∧ Json.text f.1 ∈ names

/-- A schema tells a shape: it has the keywords by which the values of the shape are known. -/
inductive Told (target? : Text → Option Json) : Shape → Json → Prop where
  | none {k : Json} (type : k.get? "type" = some (.text "null")) : Told target? none k
  | bool {k : Json} (type : k.get? "type" = some (.text "boolean")) : Told target? bool k
  | str {k : Json} (type : k.get? "type" = some (.text "string")) : Told target? (str {} Option.none) k
  | int {k : Json} (type : k.get? "type" = some (.text "integer")) : Told target? (int {}) k
  | list {s : Shape} {k j : Json} (type : k.get? "type" = some (.text "array"))
    (items : k.get? "items" = some j) (whole : k.get? "prefixItems" = Option.none)
    (inner : Told target? s j) : Told target? (list s {}) k
  | dict {s : Shape} {k j : Json} (type : k.get? "type" = some (.text "object"))
    (values : k.get? "additionalProperties" = some j) (undeclared : k.get? "properties" = Option.none)
    (unmatched : k.get? "patternProperties" = Option.none) (inner : Told target? s j) :
    Told target? (dict (str {} Option.none) s {}) k
  | nullable {s : Shape} {k j nothing : Json} (alternatives : k.get? "anyOf" = some (.array [j, nothing]))
    (type : nothing.get? "type" = some (.text "null")) (inner : Told target? s j) :
    Told target? (nullable s) k
  | record {options : ModelOptions} {name : Text} {fields : List (Text × Presence × Shape)} {t : Text}
    {k c properties : Json} (reference : k.get? "$ref" = some (.text t)) (leads : target? t = some c)
    (tells : TellsFields fields c properties)
    (inner : ∀ f ∈ fields, ∀ p, properties.get? f.1 = some p → Told target? f.2.2 p) :
    Told target? (record (.model options) name .ignore fields) k

variable {target? : Text → Option Json} {n : Nat} {s : Shape} {k v : Json}

/-- A shape makes something of a value, in whatever class it stands. -/
def Takes (s : Shape) (v : Json) : Prop := ∀ self, ∃ x, Makes (s.checkWithin self) (.ofJson v) x

theorem Carries.takes {x : Value} {written : Json} (h : s.Carries v x written) : s.Takes v :=
  fun self => ⟨x, h.makes self⟩

theorem takes_list {vs : List Json} (h : ∀ v ∈ vs, s.Takes v) : (list s {}).Takes (.array vs) := by
  intro self
  have each : ∀ v ∈ vs, ∃ x, Makes (s.checkWithin self) (.ofJson v) x := fun v member => h v member self
  choose! x made using each
  refine ⟨.list (vs.map x), ?_⟩
  rw [Value.ofJson, Value.ofJsonItems_eq_map]
  exact gives_sequence (forall₂_map_map made)

theorem takes_dict {ms : List (Text × Json)} (h : ∀ m ∈ ms, s.Takes m.2) :
    (dict (str {} Option.none) s {}).Takes (.object ms) := by
  intro self
  have each : ∀ m ∈ ms, ∃ x, Makes (s.checkWithin self) (.ofJson m.2) x := fun m member => h m member self
  choose! x made using each
  refine ⟨.dict (lastEntries (ms.map fun m => (.text m.1, x m))), ?_⟩
  rw [Value.ofJson_object, Value.ofMembers, List.map_map]
  refine gives_dictOf_entries (forall₂_map_map fun m member => ?_) ?_
  · exact ⟨(carries_text m.1).makes self, made m member⟩
  · rw [List.forall_mem_map]
    exact fun m member => rfl

theorem takes_nullable (h : v = .null ∨ s.Takes v) : (nullable s).Takes v := by
  intro self
  by_cases null : v = .null
  · exact ⟨_, null ▸ carries_nullable_null.makes self⟩
  · obtain ⟨x, made⟩ := h.resolve_left null self
    exact ⟨x, by rwa [Makes, checkWithin_nullable null]⟩

/-! ### Fields -/

/-- What is given for a field is taken, and what need not be given may be absent. -/
def TakesField (ms : List (Text × Json)) (f : Text × Presence × Shape) : Prop :=
  (∃ j, lookup f.1 ms = some j ∧ f.2.2.Takes j) ∨ lookup f.1 ms = Option.none ∧ isRequired f.2.1 = false

/-- An object that a schema accepts which tells of fields gives what these fields take. -/
theorem TellsFields.takes {fields : List (Text × Presence × Shape)} {properties : Json} {ms : List (Text × Json)}
    (tells : TellsFields fields k properties) (accepted : accepts target? n k (.object ms) = true)
    (inner : ∀ f ∈ fields, ∀ p, properties.get? f.1 = some p → ∀ m j, lookup f.1 ms = some j →
      accepts target? m p j = true → f.2.2.Takes j) : ∀ f ∈ fields, TakesField ms f := by
  intro f field
  cases given : lookup f.1 ms with
  | some j =>
    obtain ⟨p, property⟩ := tells.named f field
    obtain ⟨m, acceptedField⟩ := accepts_property accepted tells.declared property given
    exact Or.inl ⟨j, given, inner f field p property m j given acceptedField⟩
  | none =>
    -- A field that must be given is given, since the schema requires it.
    refine Or.inr ⟨given, ?_⟩
    by_contra required
    obtain ⟨names, listed, among⟩ := tells.required f field (by simpa using required)
    obtain ⟨j, present⟩ := exists_given accepted listed among
    rw [given] at present
    cases present

/-- The fields of a class come to values if each of them takes what is given. -/
theorem exists_fieldValues_of_takes {fields : List (Text × Presence × Shape)} {ms : List (Text × Json)}
    (h : ∀ f ∈ fields, TakesField ms f) (self : Value → Verdict) :
    ∃ values fit, fieldValues (checkFields self fields
      ((ms.map fun m => (m.1, Value.ofJson m.2)).map fun m => (.text m.1, m.2))) = .ok (values, fit) := by
  apply exists_fieldValues
  rw [checkFields_eq_map, List.forall_mem_map]
  intro f field
  dsimp only
  rw [Value.find?_ofMembers]
  rcases h f field with ⟨j, given, takes⟩ | ⟨absent, needless⟩
  · obtain ⟨x, made⟩ := takes self
    rw [given]
    exact Or.inl ⟨_, rfl, x, made⟩
  · have presence : f.2.1 ≠ .required := by
      intro required
      rw [required] at needless
      cases needless
    rw [absent]
    exact Or.inr ⟨rfl, presence⟩

theorem takes_record {options : ModelOptions} {name : Text} {fields : List (Text × Presence × Shape)}
    {ms : List (Text × Json)} (h : ∀ f ∈ fields, TakesField ms f) :
    (record (.model options) name .ignore fields).Takes (.object ms) := by
  intro self
  obtain ⟨values, found⟩ := exists_fieldValues_of_takes h (nested
    (fun self => classOf (.model options) name .ignore (checkFields self fields)) 254)
  refine ⟨.record .model name values [], ?_⟩
  rw [Value.ofJson_object]
  exact gives_assemble _ found

/-- A closed class takes an object if all its members are declared, under Unicode names. -/
theorem takes_record_forbid {options : ModelOptions} {name : Text} {fields : List (Text × Presence × Shape)}
    {ms : List (Text × Json)} (h : ∀ f ∈ fields, TakesField ms f) (unicode : ∀ f ∈ fields, f.1.isScalar = true)
    (known : ∀ m ∈ ms, m.1 ∈ fields.map (·.1)) :
    (record (.model options) name .forbid fields).Takes (.object ms) := by
  intro self
  obtain ⟨values, found⟩ := exists_fieldValues_of_takes h (nested
    (fun self => classOf (.model options) name .forbid (checkFields self fields)) 254)
  refine ⟨.record .model name values [], ?_⟩
  rw [Value.ofJson_object]
  refine gives_assemble_forbid _ found ?_
  rw [checkFields_eq_map, List.map_map, List.forall_mem_map]
  intro m member
  obtain ⟨f, field, named⟩ := List.mem_map.mp (known m member)
  exact ⟨known m member, named ▸ unicode f field⟩

/-! ### Taking what is accepted -/

/-- **What is told is heeded**: a shape takes every value that a schema accepts which tells the shape, if
integers are written as integers. -/
theorem Told.takes (told : Told target? s k) (accepted : accepts target? n k v = true)
    (integers : v.writesIntegers = true) : s.Takes v := by
  induction told generalizing n v with
  | none type =>
    obtain rfl := eq_null_of_isOfType (isOfType_of_accepts accepted type)
    exact carries_null.takes
  | bool type =>
    obtain ⟨b, rfl⟩ := exists_bool_of_isOfType (isOfType_of_accepts accepted type)
    exact (carries_bool b).takes
  | str type =>
    obtain ⟨t, rfl⟩ := exists_text_of_isOfType (isOfType_of_accepts accepted type)
    exact (carries_text t).takes
  | int type =>
    obtain ⟨i, rfl⟩ := exists_int_of_isOfType (isOfType_of_accepts accepted type) integers
    exact (carries_int i).takes
  | list type items whole _ ih =>
    obtain ⟨vs, rfl⟩ := exists_array_of_isOfType (isOfType_of_accepts accepted type)
    obtain ⟨m, each⟩ := accepts_items accepted items whole
    rw [writesIntegers_array] at integers
    exact takes_list fun v member => ih (each v member) (integers v member)
  | dict type values undeclared unmatched _ ih =>
    obtain ⟨ms, rfl⟩ := exists_object_of_isOfType (isOfType_of_accepts accepted type)
    obtain ⟨m, each⟩ := accepts_additionalProperties accepted values undeclared unmatched
    rw [writesIntegers_object] at integers
    exact takes_dict fun e member => ih (each e member) (integers e member)
  | nullable alternatives type _ ih =>
    obtain ⟨m, j, among, acceptedOne⟩ := accepts_alternative accepted alternatives
    -- What the second alternative accepts is nothing, which need not be taken by the inner shape.
    apply takes_nullable
    rcases List.mem_cons.mp among with rfl | other
    · exact Or.inr (ih acceptedOne integers)
    · obtain rfl := List.mem_singleton.mp other
      exact Or.inl (eq_null_of_isOfType (isOfType_of_accepts acceptedOne type))
  | record reference leads tells _ ih =>
    obtain ⟨m, acceptedClass⟩ := accepts_target accepted reference leads
    obtain ⟨ms, rfl⟩ := exists_object_of_isOfType (isOfType_of_accepts acceptedClass tells.type)
    rw [writesIntegers_object] at integers
    have fields := tells.takes acceptedClass fun f field p property m j given acceptedField =>
      ih f field p property acceptedField (integers _ (mem_of_lookup given))
    exact takes_record fields

end Shape

end GuardedTools
