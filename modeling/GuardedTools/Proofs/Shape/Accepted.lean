import GuardedTools.Proofs.Json.Validity
import GuardedTools.Proofs.Shape.Document
import Mathlib.Order.Filter.Finite

/-!
# What published schemas accept

A schema is made with numbers for its classes and published with names.  `Definitions.Accepts` says of a
schema as it was made that it accepts a value once its references have names and its keys are in order.
There is one lemma for each keyword that schemas of shapes have.
-/

namespace GuardedTools

namespace Definitions

open Json Filter

/-! ### Renamed parts -/

section Renamed

variable {ρ : Text → Text} {key : Text}

theorem renamedItems_eq_map (ρ : Text → Text) (js : List Json) :
    renamedItems ρ js = js.map (renamed ρ) := by
  induction js with
  | nil => rfl
  | cons j js ih => rw [renamedItems, List.map_cons, ih]

/-- The keys of a schema under which references are written in another way than in a value. -/
def isSpecial (key : Text) : Bool :=
  key = "$ref" || key = "examples" || key = "discriminator" || key = "properties"
    || key = "patternProperties"

/-- Under most keys stands a schema, or a list of them, or what has no references. -/
theorem renamedMember_eq_renamed (plain : isSpecial key = false) (k : Json) :
    renamedMember ρ .schema key k = renamed ρ k := by
  simp only [isSpecial, Bool.or_eq_false_iff, decide_eq_false_iff_not] at plain
  obtain ⟨⟨⟨⟨noReference, noExamples⟩, noTags⟩, noNames⟩, noPatterns⟩ := plain
  cases k with
  | text t => simp only [renamedMember, renamed, if_neg noReference]
  | array js => simp only [renamedMember, renamed, if_neg noExamples]
  | object ms =>
    have part : Part.within key .schema = .schema := by
      simp [Part.within, noTags, noNames, noPatterns]
    rw [renamedMember, part, if_neg (by simp), renamed]
  | _ => simp only [renamedMember, renamed]

/-- Under names stand schemas. -/
theorem renamedMember_names (name : Text) (ms : List (Text × Json)) :
    renamedMember ρ .names name (.object ms) = renamed ρ (.object ms) := by
  rw [renamedMember, if_neg (by simp), renamed]
  rfl

/-- An object of names with schemas is renamed schema by schema. -/
theorem lookup_renamedMembers_names (name : Text) {props : List (Text × Json)}
    (schemas : ∀ m ∈ props, m.2.object?.isSome) :
    lookup name (renamedMembers ρ .names props) = (lookup name props).map (renamed ρ) := by
  induction props with
  | nil => rfl
  | cons m props ih =>
    obtain ⟨key, k⟩ := m
    rw [List.forall_mem_cons] at schemas
    rw [renamedMembers, lookup, lookup]
    by_cases same : key = name
    · rw [if_pos same, if_pos same, Option.map_some]
      cases k with
      | object ms => rw [renamedMember_names]
      | _ => cases schemas.1
    · rw [if_neg same, if_neg same, ih schemas.2]

/-- Renaming keeps the names of properties, the patterns of names and the number of items. -/
theorem alike_renamedMembers (ρ : Text → Text) (ms : List (Text × Json)) :
    Alike (renamedMembers ρ .schema ms) ms :=
  .of_lookup (renamedMember ρ .schema) (fun key => lookup_renamedMembers ρ .schema key ms)
    (fun j name => by
      cases j with
      | object props =>
        rw [renamedMember, if_neg (by simp), get?, lookup_renamedMembers, Option.isSome_map, get?]
      | _ => simp only [renamedMember, get?])
    (fun j name => by
      cases j with
      | object patterns =>
        rw [renamedMember, if_neg (by simp), renamedMembers_eq_map, hasPatternFor, hasPatternFor,
          List.any_map]
        rfl
      | _ => simp only [renamedMember, hasPatternFor])
    (fun j => by
      cases j with
      | array js =>
        rw [renamedMember, if_neg (by decide), itemCount, itemCount, renamedItems_eq_map,
          List.length_map]
      | _ => simp only [renamedMember, itemCount])

end Renamed

/-! ### Acceptance -/

/-- Where references lead, by their published texts, and what the texts of references become. -/
structure Naming where
  target? : Text → Option Json
  rename : Text → Text

variable {N : Naming}

/-- A schema accepts a value once it is published. -/
def Accepts (N : Naming) (k j : Json) : Prop :=
  ∀ᶠ n in atTop, accepts N.target? n (renamed N.rename k).sortKeys j = true

/-- A member of a schema holds of a value once it is published. -/
def Holds (N : Naming) (ms : List (Text × Json)) (key : Text) (k j : Json) : Prop :=
  ∀ᶠ n in atTop, holdsMember (followed N.target? n) (accepts N.target? n) ms key
    (renamedMember N.rename .schema key k).sortKeys j = true

variable {ms : List (Text × Json)} {k j : Json} {ks js : List Json}

theorem eventually_of_succ {P : Nat → Prop} (h : ∀ᶠ n in atTop, P (n + 1)) : ∀ᶠ n in atTop, P n := by
  obtain ⟨bound, h⟩ := eventually_atTop.mp h
  refine eventually_atTop.mpr ⟨bound + 1, fun n large => ?_⟩
  obtain ⟨m, rfl⟩ : ∃ m, n = m + 1 := ⟨n - 1, by omega⟩
  exact h m (by omega)

theorem eventually_forall_mem {α : Type} {P : Nat → α → Prop} {as : List α}
    (h : ∀ a ∈ as, ∀ᶠ n in atTop, P n a) : ∀ᶠ n in atTop, ∀ a ∈ as, P n a :=
  (eventually_all_finite (List.finite_toSet as)).mpr h

/-- A published schema accepts what all its members hold of, as they are published. -/
theorem accepts_renamed_object (N : Naming) (n : Nat) (ms : List (Text × Json)) (j : Json) :
    accepts N.target? (n + 1) (renamed N.rename (.object ms)).sortKeys j = ms.all fun m =>
      holdsMember (followed N.target? n) (accepts N.target? n) ms m.1
        (renamedMember N.rename .schema m.1 m.2).sortKeys j := by
  rw [renamed, Json.accepts_object, renamedMembers_eq_map, List.all_map]
  refine congrArg (List.all ms) (funext fun m => ?_)
  have alike : Alike (ms.map fun m => (m.1, renamedMember N.rename .schema m.1 m.2)) ms :=
    renamedMembers_eq_map N.rename .schema ms ▸ alike_renamedMembers N.rename ms
  exact alike.holdsMember _ _ _ _ _

/-- A schema accepts what all its members hold of. -/
theorem accepts_object_iff : Accepts N (.object ms) j ↔ ∀ m ∈ ms, Holds N ms m.1 m.2 j := by
  constructor
  · intro h m member
    refine ((tendsto_add_atTop_nat 1).eventually h).mono fun n accepted => ?_
    rw [accepts_renamed_object, List.all_eq_true] at accepted
    exact accepted m member
  · intro h
    refine eventually_of_succ ((eventually_forall_mem h).mono fun n all => ?_)
    rw [accepts_renamed_object, List.all_eq_true]
    exact all

theorem accepts_object (h : ∀ m ∈ ms, Holds N ms m.1 m.2 j) : Accepts N (.object ms) j :=
  accepts_object_iff.mpr h

/-- What says nothing about values holds of all of them. -/
theorem holds_note {key : Text} (note : Keyword.of? key = none) : Holds N ms key k j := by
  refine Eventually.of_forall fun n => ?_
  rw [holdsMember, note]

/-- What a keyword says under its name. -/
theorem holds_of_keyword {key : Text} (keyword : Keyword) (named : Keyword.of? key = some keyword)
    (plain : isSpecial key = false)
    (h : ∀ᶠ n in atTop, holds (followed N.target? n) (accepts N.target? n) ms keyword
      (renamed N.rename k).sortKeys j = true) : Holds N ms key k j := by
  refine h.mono fun n h => ?_
  rw [holdsMember, named, renamedMember_eq_renamed plain]
  exact h

/-- What a keyword says that asks no schema. -/
theorem holds_of_scalar {key : Text} (keyword : Keyword) (named : Keyword.of? key = some keyword)
    (plain : isSpecial key = false) (scalar : (renamed N.rename k).sortKeys = k)
    (h : ∀ follow sub, holds follow sub ms keyword k j = true) : Holds N ms key k j :=
  holds_of_keyword keyword named plain (Eventually.of_forall fun n => by rw [scalar]; exact h _ _)

theorem holds_type {name : Text} (h : isOfType name j = true) : Holds N ms "type" (.text name) j :=
  holds_of_scalar .type (by simp [Keyword.table]) (by simp [isSpecial]) rfl fun _ _ => h

/-! ### Arrays -/

theorem holds_items (h : ∀ x ∈ js, Accepts N k x) : Holds N ms "items" k (.array js) := by
  refine holds_of_keyword .items (by simp [Keyword.table]) (by simp [isSpecial]) ?_
  refine (eventually_forall_mem h).mono fun n all => ?_
  rw [holds, List.all_eq_true]
  exact fun x member => all x (List.mem_of_mem_drop member)

theorem holds_prefixItems (h : List.Forall₂ (Accepts N) ks js) :
    Holds N ms "prefixItems" (.array ks) (.array js) := by
  refine holds_of_keyword .prefixItems (by simp [Keyword.table]) (by simp [isSpecial]) ?_
  have each : ∀ m ∈ ks.zip js, Accepts N m.1 m.2 := by
    intro m member
    exact List.forall₂_zip h member
  refine (eventually_forall_mem each).mono fun n all => ?_
  rw [renamed, sortKeys, sortKeysItems_eq_map, renamedItems_eq_map, List.map_map, holds,
    List.all_eq_true]
  intro m member
  rw [List.zip_map_left] at member
  obtain ⟨m', among, rfl⟩ := List.mem_map.mp member
  exact all m' among

/-! ### Alternatives -/

theorem holds_anyOf (member : k ∈ ks) (h : Accepts N k j) : Holds N ms "anyOf" (.array ks) j := by
  refine holds_of_keyword .anyOf (by simp [Keyword.table]) (by simp [isSpecial]) ?_
  refine h.mono fun n accepted => ?_
  rw [renamed, sortKeys, sortKeysItems_eq_map, renamedItems_eq_map, List.map_map, holds,
    List.any_eq_true]
  exact ⟨_, List.mem_map_of_mem member, accepted⟩

/-! ### Objects -/

variable {props members : List (Text × Json)}

theorem holds_properties (schemas : ∀ m ∈ props, m.2.object?.isSome)
    (h : ∀ m ∈ members, ∀ k, lookup m.1 props = some k → Accepts N k m.2) :
    Holds N ms "properties" (.object props) (.object members) := by
  have each : ∀ m ∈ members, ∀ᶠ n in atTop, ∀ k, lookup m.1 props = some k →
      accepts N.target? n (renamed N.rename k).sortKeys m.2 = true := by
    intro m member
    cases found : lookup m.1 props with
    | none => exact Eventually.of_forall fun n k same => by cases same
    | some k =>
      refine (h m member k found).mono fun n accepted k' same => ?_
      exact Option.some.inj same ▸ accepted
  refine (eventually_forall_mem each).mono fun n all => ?_
  have named : Keyword.of? "properties" = some .properties := by simp [Keyword.table]
  have part : Part.within "properties" .schema = .names := by decide
  rw [holdsMember, named, renamedMember, if_neg (by decide), part, sortKeys_object]
  simp only [holds, List.all_eq_true]
  intro m member
  rw [lookup_sortedMembers, lookup_renamedMembers_names m.1 schemas, Option.map_map]
  cases found : lookup m.1 props with
  | none => rfl
  | some k => exact all m member k found

theorem holds_required {names : List Text} (h : ∀ n ∈ names, ∃ m ∈ members, m.1 = n) :
    Holds N ms "required" (.array (names.map .text)) (.object members) := by
  have scalar : (renamed N.rename (.array (names.map .text))).sortKeys = .array (names.map .text) := by
    rw [renamed, renamedItems_texts, sortKeys, sortKeysItems_eq_map, List.map_map]
    rfl
  refine holds_of_scalar .required (by simp [Keyword.table]) (by simp [isSpecial]) scalar fun _ _ => ?_
  simp only [holds, List.all_map, List.all_eq_true]
  exact fun n member => isSome_lookup (h n member)

/-- No property is left to a schema for further ones. -/
theorem holds_additionalProperties_declared (h : ∀ m ∈ members, declares ms m.1 = true) :
    Holds N ms "additionalProperties" k (.object members) := by
  refine holds_of_keyword .additionalProperties (by simp [Keyword.table]) (by simp [isSpecial]) ?_
  refine Eventually.of_forall fun n => ?_
  simp only [holds, List.all_eq_true]
  intro m member
  rw [h m member, Bool.true_or, Bool.true_or]

theorem holds_additionalProperties (h : ∀ m ∈ members, Accepts N k m.2) :
    Holds N ms "additionalProperties" k (.object members) := by
  refine holds_of_keyword .additionalProperties (by simp [Keyword.table]) (by simp [isSpecial]) ?_
  refine (eventually_forall_mem h).mono fun n all => ?_
  simp only [holds, List.all_eq_true]
  intro m member
  rw [all m member, Bool.or_true]

theorem holds_patternProperties {p : Text} (object : k.object?.isSome)
    (h : ∀ m ∈ members, Accepts N k m.2) :
    Holds N ms "patternProperties" (.object [(p, k)]) (.object members) := by
  refine (eventually_forall_mem h).mono fun n all => ?_
  have named : Keyword.of? "patternProperties" = some .patternProperties := by simp [Keyword.table]
  have part : Part.within "patternProperties" .schema = .names := by decide
  have renames : renamedMember N.rename .names p k = renamed N.rename k := by
    cases k with
    | object ms => exact renamedMember_names p ms
    | _ => cases object
  rw [holdsMember, named, renamedMember, if_neg (by decide), part, sortKeys_object, renamedMembers,
    renamedMembers, renames]
  simp only [holds, sortedMembers, sortKeysMembers, List.mergeSort_singleton, List.all_cons,
    List.all_nil, List.all_eq_true]
  intro m member
  rw [all m member, Bool.or_true, Bool.and_true]

theorem holds_propertyNames (h : ∀ m ∈ members, Accepts N k (.text m.1)) :
    Holds N ms "propertyNames" k (.object members) := by
  refine holds_of_keyword .propertyNames (by simp [Keyword.table]) (by simp [isSpecial]) ?_
  refine (eventually_forall_mem h).mono fun n all => ?_
  simp only [holds, List.all_eq_true]
  exact all

/-! ### Values and references -/

theorem holds_const (scalar : (renamed N.rename k).sortKeys = k) (h : equal k j = true) :
    Holds N ms "const" k j :=
  holds_of_scalar .const (by simp [Keyword.table]) (by simp [isSpecial]) scalar fun _ _ => h

theorem holds_enum (scalar : ∀ k ∈ ks, (renamed N.rename k).sortKeys = k)
    (h : ∃ k ∈ ks, equal k j = true) : Holds N ms "enum" (.array ks) j := by
  have all : (renamed N.rename (.array ks)).sortKeys = .array ks := by
    rw [renamed, renamedItems_eq_map, sortKeys, sortKeysItems_eq_map, List.map_map]
    exact congrArg _ ((List.map_congr_left scalar).trans (List.map_id ks))
  refine holds_of_scalar .enum (by simp [Keyword.table]) (by simp [isSpecial]) all fun _ _ => ?_
  exact List.any_eq_true.mpr h

/-- A reference leads to a schema in which references may have other names. -/
theorem holds_ref {t : Text} {rename : Text → Text}
    (found : N.target? (N.rename t) = some (renamed rename k).sortKeys) :
    Holds N ms "$ref" (.text t) j ↔ Accepts { N with rename } k j := by
  refine eventually_congr (Eventually.of_forall fun n => ?_)
  have named : Keyword.of? "$ref" = some .ref := by simp [Keyword.table]
  rw [holdsMember, named, renamedMember, if_pos rfl]
  simp only [sortKeys, holds, followed, found, Option.any_some]

/-! ### Counts and limits -/

theorem holds_minItems {n : Nat} (h : n ≤ js.length) : Holds N ms "minItems" (.int n) (.array js) :=
  holds_of_scalar .minItems (by simp [Keyword.table]) (by simp [isSpecial]) rfl fun _ _ => by
    simpa [holds, counts, itemCount] using h

theorem holds_maxItems {n : Nat} (h : js.length ≤ n) : Holds N ms "maxItems" (.int n) (.array js) :=
  holds_of_scalar .maxItems (by simp [Keyword.table]) (by simp [isSpecial]) rfl fun _ _ => by
    simpa [holds, counts, itemCount] using h

theorem holds_uniqueItems (h : areDistinct js = true) :
    Holds N ms "uniqueItems" (.bool true) (.array js) :=
  holds_of_scalar .uniqueItems (by simp [Keyword.table]) (by simp [isSpecial]) rfl fun _ _ => h

theorem holds_minProperties {n : Nat} {members : List (Text × Json)} (h : n ≤ members.length) :
    Holds N ms "minProperties" (.int n) (.object members) :=
  holds_of_scalar .minProperties (by simp [Keyword.table]) (by simp [isSpecial]) rfl fun _ _ => by
    simpa [holds, counts, memberCount] using h

theorem holds_maxProperties {n : Nat} {members : List (Text × Json)} (h : members.length ≤ n) :
    Holds N ms "maxProperties" (.int n) (.object members) :=
  holds_of_scalar .maxProperties (by simp [Keyword.table]) (by simp [isSpecial]) rfl fun _ _ => by
    simpa [holds, counts, memberCount] using h

theorem holds_minLength {n : Nat} {t : Text} (h : n ≤ t.length) :
    Holds N ms "minLength" (.int n) (.text t) :=
  holds_of_scalar .minLength (by simp [Keyword.table]) (by simp [isSpecial]) rfl fun _ _ => by
    simpa [holds, counts, pointCount] using h

theorem holds_maxLength {n : Nat} {t : Text} (h : t.length ≤ n) :
    Holds N ms "maxLength" (.int n) (.text t) :=
  holds_of_scalar .maxLength (by simp [Keyword.table]) (by simp [isSpecial]) rfl fun _ _ => by
    simpa [holds, counts, pointCount] using h

theorem holds_pattern {source t : Text} (h : Pattern.isMet source t = true) :
    Holds N ms "pattern" (.text source) (.text t) :=
  holds_of_scalar .pattern (by simp [Keyword.table]) (by simp [isSpecial]) rfl fun _ _ => h

end Definitions

end GuardedTools
