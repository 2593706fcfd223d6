import GuardedTools.Proofs.Json.RoundTrip
import GuardedTools.Proofs.Shape.Canonical
import GuardedTools.Proofs.Shape.Depth
import GuardedTools.Proofs.Text
import GuardedTools.Proofs.Tool.Made

/-!
# Rendered types

The name in the tag of a type is recovered from a JSON schema, and for the types that are built of texts,
numbers, truth values, nothing, constants, enumerations and models by containers and options it is what the
type says itself: its rendering (`TypeExpr.Rendered`), which is made of the renderings of the types in it.

What is published of such a type, before classes have names, spells its rendering (`TypeTag.Spells`,
`TypeExpr.Rendered.publishedAs`): each form of schema is one that the search for a name goes through as it
was made.  A document gives the classes names, and the search follows these to a schema with the name of the
class (`Definitions.isFollowed_of_mem_used`), so that the name that is spelled is found
(`TypeTag.Spells.nameOf`, `TypeTag.nameOf_published`).  A class at the root stands there itself, and has the
same name.
-/

namespace GuardedTools

/-! ### Renderings of types -/

namespace TypeExpr

/-- The name of a model with a title. -/
def modelName (title : Text) : Text := if title.isEmpty then "object" else "object:" ++ title

/-- The types that have a rendering, with it. -/
inductive Rendered : TypeExpr → Text → Prop where
  | str : Rendered (atom .str) "string"
  | int : Rendered (atom .int) "integer"
  | float : Rendered (atom .float) "number"
  | bool : Rendered (atom .bool) "boolean"
  | none : Rendered (atom .none) "null"
  | literal (values : List Value) : Rendered (literal values) "enum"
  | enum (name : Text) (members : List (Text × Value)) (base : EnumBase) :
    Rendered (enum name members base) "enum"
  | model (options : ModelOptions) (name : Text) (fields : List (Text × Presence × TypeExpr)) :
    Rendered (record (.model options) name fields) (modelName (options.title.getD name))
  | list {t : TypeExpr} {name : Text} (item : Rendered t name) : Rendered (list t) ("array<" ++ name ++ ">")
  | set {t : TypeExpr} {name : Text} (item : Rendered t name) : Rendered (set t) ("array<" ++ name ++ ">")
  | frozenSet {t : TypeExpr} {name : Text} (item : Rendered t name) :
    Rendered (frozenSet t) ("array<" ++ name ++ ">")
  | tupleOf {t : TypeExpr} {name : Text} (item : Rendered t name) :
    Rendered (tupleOf t) ("array<" ++ name ++ ">")
  | dict {t : TypeExpr} {name : Text} (value : Rendered t name) :
    Rendered (dict (atom .str) t) ("map<" ++ name ++ ">")
  | optional {t : TypeExpr} {name : Text} (inner : Rendered t name) (one : t.isSingle = true) :
    Rendered t.optional ("optional<" ++ name ++ ">")

mutual

/-- How deeply containers and unions are nested in a type; those in a class do not count. -/
def nesting : TypeExpr → Nat
  | list t => nesting t + 1
  | set t => nesting t + 1
  | frozenSet t => nesting t + 1
  | tuple ts => nestingAll ts + 1
  | tupleOf t => nesting t + 1
  | dict k v => max (nesting k) (nesting v) + 1
  | union ts => nestingAll ts + 1
  | annotated t _ => nesting t
  | _ => 0

def nestingAll : List TypeExpr → Nat
  | [] => 0
  | t :: ts => max (nesting t) (nestingAll ts)

end

variable {t t' : TypeExpr} {name : Text}

/-- A type that has a rendering is read as one with the same rendering. -/
theorem Rendered.resolve (rendered : t.Rendered name) (read : t.resolve = .ok t') :
    t'.Rendered name ∧ t'.nesting = t.nesting ∧ t'.isSingle = t.isSingle := by
  induction rendered generalizing t' with
  | str | int | float | bool | none | literal | enum =>
    obtain rfl := Except.ok.inj read
    exact ⟨by constructor, rfl, rfl⟩
  | model options name fields =>
    obtain rfl := Except.ok.inj read
    exact ⟨.model options name _, rfl, rfl⟩
  | list _ ih | set _ ih | frozenSet _ ih | tupleOf _ ih =>
    obtain ⟨item, inner, read⟩ := bind_eq_ok.mp read
    obtain rfl := pure_eq_ok.mp read
    obtain ⟨rendered, nesting, -⟩ := ih inner
    exact ⟨by constructor; exact rendered, congrArg (· + 1) nesting, rfl⟩
  | dict _ ih =>
    obtain ⟨key, keyRead, read⟩ := bind_eq_ok.mp read
    obtain ⟨value, inner, read⟩ := bind_eq_ok.mp read
    obtain rfl := pure_eq_ok.mp read
    obtain rfl := Except.ok.inj keyRead
    obtain ⟨rendered, nesting, -⟩ := ih inner
    exact ⟨.dict rendered, congrArg (max 0 · + 1) nesting, rfl⟩
  | optional _ one ih =>
    obtain ⟨types, all, read⟩ := bind_eq_ok.mp read
    obtain rfl := pure_eq_ok.mp read
    rw [resolveAll] at all
    obtain ⟨type, inner, rest⟩ := bind_eq_ok.mp all
    obtain rfl : [type, atom .none] = types := pure_eq_ok.mp rest
    obtain ⟨rendered, nesting, single⟩ := ih inner
    have one' := single.trans one
    rw [unionOf_single one']
    exact ⟨.optional rendered one', congrArg (max · 0 + 1) nesting, rfl⟩

end TypeExpr

/-! ### Names of classes in a document -/

namespace Definitions

open Json

variable {ds : Definitions} {names : List (Nat × Text)} {ms ns : List (Text × Json)}

theorem slash_plainName (t : Text) : (ClassSchema.plainName t).containsChar '/' = false := by
  refine Text.containsChar_eq_false_of_notMem fun member => ?_
  obtain ⟨q, -, member⟩ := List.mem_flatMap.mp member
  split at member
  · exact absurd member (by decide)
  split at member
  next plain =>
    obtain rfl := List.mem_singleton.mp member
    exact absurd plain (by decide)
  next => exact absurd member (by decide)

theorem slash_append {s t : Text} : (s ++ t).containsChar '/' = (s.containsChar '/' || t.containsChar '/') :=
  List.any_append

theorem slash_ofNat (n : Nat) : (Text.ofNat n).containsChar '/' = false :=
  Text.containsChar_eq_false_of_notMem fun member => absurd (Text.isDigit_of_mem_ofNat member) (by decide)

/-- No class has a name with a slash in it, which would be cut. -/
theorem slash_candidates (c : ClassSchema) (occurrence : Nat) :
    ∀ name ∈ c.candidates occurrence, name.containsChar '/' = false := by
  have input : Text.containsChar "-Input" '/' = false := by decide
  have mark : Text.containsChar "__" '/' = false := by decide
  simp only [ClassSchema.candidates, List.forall_mem_cons, ClassSchema.shortName, ClassSchema.fullName,
    slash_append, slash_plainName, slash_ofNat, input, mark, Bool.or_false, true_and]
  exact List.forall_mem_nil _

theorem slash_names {schema : Json} (h : ds.names? schema = some names) :
    ∀ n ∈ names, n.2.containsChar '/' = false := by
  intro n member
  obtain ⟨⟨k, own⟩, candidate, -, chosen⟩ :=
    exists_left_of_mem (namesOf?_eq_some (settleNames_eq_some h)) member
  obtain ⟨i, -, found⟩ := List.mem_filterMap.mp candidate
  obtain ⟨c, -, same⟩ := Option.map_eq_some_iff.mp found
  cases same
  exact slash_candidates c _ n.2 (List.mem_of_find?_eq_some chosen)

/-- The name of a class stays when references in it are written otherwise and its members are sorted. -/
theorem kindName_of_sortKeys {rename : Text → Text} {title : Text} (titled : lookup "title" ms = some (.text title))
    (same : (object ns).sortKeys = (object (renamedMembers rename .schema ms)).sortKeys) :
    kindName ns = kindName ms := by
  -- the name is made of which members there are, and of the title
  have alike (key : Text) :
      (lookup key ns).map sortKeys = ((lookup key ms).map (renamedMember rename .schema key)).map sortKeys := by
    have under := congrArg (·.get? key) same
    rwa [get?_sortKeys, get?_sortKeys, get?, get?, lookup_renamedMembers] at under
  have there (key : Text) : (lookup key ns).isSome = (lookup key ms).isSome := by
    have some := congrArg Option.isSome (alike key)
    rwa [Option.isSome_map, Option.isSome_map, Option.isSome_map] at some
  have title : lookup "title" ns = some (.text title) := by
    have under := alike "title"
    rw [titled, Option.map_some, renamedMember, if_neg (by decide), Option.map_some] at under
    obtain ⟨j, found, sorted⟩ := Option.map_eq_some_iff.mp under
    cases j <;> cases sorted
    exact found
  rw [kindName, kindName, there, there, title, titled]

theorem namedSchema_eq {n : Nat} {c : ClassSchema} (stands : ds[n]? = some c) (same : c.schema = .object ms) :
    ds.namedSchema names n = .object (renamedMembers (namedReference names (some n)) .schema ms) := by
  rw [namedSchema, stands]
  exact congrArg _ same

/-- The reference to the class of a number is followed to a schema that has the name of the class. -/
def IsFollowed (definitions : List (Text × Json)) (rename : Text → Text) (ds : Definitions) (n : Nat) : Prop :=
  ∀ c ms title, ds[n]? = some c → c.schema = .object ms → lookup "title" ms = some (.text title) →
    ∃ k, TypeTag.step definitions (renamed rename (referenceTo n)) = .reference k ∧
      TypeTag.step definitions k = .settled (.ok (kindName ms))

/-- In a document references to the classes that its root leads to are followed. -/
theorem isFollowed_of_mem_used {root doc : Json} (classes : ds.TellKinds) (members : ds.opened root = .object ms)
    (h : ds.document? root = some doc) (settled : ds.names? (.object ms) = some names) {n : Nat}
    (used : n ∈ ds.used (.object ms)) (inside : n < ds.length) :
    IsFollowed (TypeTag.definitionsOf doc) (namedReference names none) ds n := by
  intro c cs title stands schema titled
  obtain ⟨name, found⟩ := names?_eq_some settled used inside
  have member : (n, name) ∈ names := List.mem_of_find?_eq_some found
  obtain ⟨m, among, defined⟩ := lookup_table ds member
  have definitions : TypeTag.definitionsOf doc = ds.table names := by
    obtain ⟨names', settled', rfl⟩ := document?_eq_some members h
    obtain rfl := Option.some.inj (settled.symm.trans settled')
    have some : ¬names.isEmpty = true := by
      rw [List.isEmpty_iff]
      exact List.ne_nil_of_mem member
    rw [TypeTag.definitionsOf, if_neg some, get?, lookup_put_self]
    rfl
  -- the table may have the schema of another class of this name, which is the same but for its order
  have one := named_eq (settleNames_eq_some settled) among member
  obtain ⟨ks, object, tells⟩ : ∃ ks, ds.namedSchema names m = .object ks ∧ TellsKind ks := by
    cases at' : ds[m]? with
    | none =>
      rw [namedSchema, at', namedSchema_eq stands schema] at one
      cases one
    | some c' =>
      obtain ⟨ns, same, tells⟩ := classes c' (List.mem_of_getElem? at')
      exact ⟨_, namedSchema_eq at' same, tells.renamed _⟩
  have alike : (Json.object ks).sortKeys
      = (Json.object (renamedMembers (namedReference names (some n)) .schema cs)).sortKeys := by
    rw [← object, one, namedSchema_eq stands schema]
  have kind : kindName ks = kindName cs := kindName_of_sortKeys titled alike
  have named : (namedReference names none (referenceStart ++ Text.ofNat n)).afterLast '/' = name := by
    rw [namedReference_eq (numberOf?_reference none n) found]
    have ends : ("#/$defs/" : Text).points = ("#/$defs" : Text).points ++ [.scalar '/'] := rfl
    exact Text.afterLast_append ends (slash_names settled _ member)
  refine ⟨.object ks, ?_, kind ▸ tells.step _⟩
  let reference := namedReference names none (referenceStart ++ Text.ofNat n)
  have points : lookup "$ref" [("$ref", Json.text reference)] = some (.text reference) := rfl
  have lone : renamed (namedReference names none) (referenceTo n) = .object [("$ref", .text reference)] := rfl
  rw [lone, TypeTag.step_reference points, named, definitions, defined, object]

end Definitions

/-! ### Schemas that spell a name -/

namespace TypeTag

open Definitions Json

/-- The members of a schema that are looked at before its type. -/
def earlierKeys : List Text := ["$ref", "enum", "const", "anyOf", "oneOf"]

/-- A schema tells its type, and nothing that is looked at before. -/
structure TellsType (ms : List (Text × Json)) (type : Text) : Prop where
  earlier : ∀ key ∈ earlierKeys, lookup key ms = none
  type : lookup "type" ms = some (.text type)

/-- A schema among classes spells a name, which is found in a number of steps. -/
inductive Spells (classes : Definitions) : Nat → Json → Text → Prop where
  | scalar {d : Nat} {ms : List (Text × Json)} {type : Text} (tells : TellsType ms type)
    (notArray : type ≠ "array") (notObject : type ≠ "object") : Spells classes (d + 1) (.object ms) type
  | constants {d : Nat} {ms : List (Text × Json)} (reference : lookup "$ref" ms = none)
    (listed : ((lookup "enum" ms).isSome || (lookup "const" ms).isSome) = true) :
    Spells classes (d + 1) (.object ms) "enum"
  | array {d : Nat} {ms ns : List (Text × Json)} {name : Text} (tells : TellsType ms "array")
    (items : lookup "items" ms = some (.object ns)) (inner : Spells classes d (.object ns) name) :
    Spells classes (d + 1) (.object ms) ("array<" ++ name ++ ">")
  | map {d : Nat} {ms ns : List (Text × Json)} {name : Text} (tells : TellsType ms "object")
    (plain : lookup "properties" ms = none) (values : lookup "additionalProperties" ms = some (.object ns))
    (inner : Spells classes d (.object ns) name) :
    Spells classes (d + 1) (.object ms) ("map<" ++ name ++ ">")
  | optional {d : Nat} {ns : List (Text × Json)} {name : Text} (other : lookup "type" ns ≠ some (.text "null"))
    (inner : Spells classes d (.object ns) name) :
    Spells classes (d + 1) (.object [("anyOf", .array [.object ns, .object (schemaType "null")])])
      ("optional<" ++ name ++ ">")
  -- one step goes to the class, and one ends there
  | reference {d n : Nat} {c : ClassSchema} {ms : List (Text × Json)} {title : Text}
    (stands : classes[n]? = some c) (same : c.schema = .object ms)
    (titled : lookup "title" ms = some (.text title)) :
    Spells classes (d + 2) (referenceTo n) (kindName ms)

variable {definitions ms ns : List (Text × Json)} {type key name : Text} {rename : Text → Text}

theorem TellsType.renamed (h : TellsType ms type) : TellsType (renamedMembers rename .schema ms) type where
  earlier key among := by rw [lookup_renamedMembers, h.earlier key among, Option.map_none]
  type := by
    rw [lookup_renamedMembers, h.type, Option.map_some]
    exact congrArg some (congrArg Json.text (if_neg (by decide)))

theorem TellsType.without (h : TellsType ms type) : TellsType (remove "title" ms) type where
  earlier key among := by
    have other : ∀ key ∈ earlierKeys, ("title" : Text) ≠ key := by decide
    rw [lookup_remove_ne (other key among), h.earlier key among]
  type := by rw [lookup_remove_ne (by decide), h.type]

theorem isEmpty_of_lookup {j : Json} (found : lookup key ms = some j) : ms.isEmpty = false := by
  cases ms with
  | nil => cases found
  | cons m ms => rfl

/-- What tells its type is searched by its type. -/
theorem TellsType.step (h : TellsType ms type) : step definitions (.object ms) = stepTyped ms type := by
  have absent : ∀ key ∈ earlierKeys, lookup key ms = none := h.earlier
  simp only [earlierKeys, List.forall_mem_cons] at absent
  obtain ⟨reference, enum, const, anyOf, oneOf, -⟩ := absent
  have elsewhere (t : Text) : lookup "$ref" ms ≠ some (.text t) := by
    rw [reference]
    exact (Option.some_ne_none _).symm
  rw [step_plain (isEmpty_of_lookup h.type) elsewhere, stepPlain, enum, const, alternatives?_eq_none anyOf oneOf,
    h.type]
  rfl

/-- What lists constants is searched no further. -/
theorem step_constants (reference : lookup "$ref" ms = none)
    (listed : ((lookup "enum" ms).isSome || (lookup "const" ms).isSome) = true) :
    step definitions (.object ms) = .settled (.ok "enum") := by
  have some : ms.isEmpty = false := by
    rcases Bool.or_eq_true_iff.mp listed with found | found
    · exact isEmpty_of_lookup (Option.eq_some_of_isSome found)
    · exact isEmpty_of_lookup (Option.eq_some_of_isSome found)
  have elsewhere (t : Text) : lookup "$ref" ms ≠ .some (.text t) := by
    rw [reference]
    exact (Option.some_ne_none _).symm
  rw [step_plain some elsewhere, stepPlain, if_pos listed]

theorem scalarName_eq_error (untyped : ∀ t, lookup "type" ms ≠ some (.text t)) :
    ∃ fault, scalarName ms = .error fault := by
  unfold scalarName
  split
  next t type => exact absurd type (untyped t)
  next => split <;> exact ⟨_, rfl⟩

theorem lookup_put_defs {k : Json} (other : ("$defs" : Text) ≠ key) :
    lookup key (put "$defs" k ms) = lookup key ms := lookup_put_ne other

theorem stepPlain_put {k : Json} (goesOn : ∀ fault, stepPlain ms ≠ .settled (.error fault)) :
    stepPlain (put "$defs" k ms) = stepPlain ms := by
  have typed (type : Text) : stepTyped (put "$defs" k ms) type = stepTyped ms type := by
    unfold stepTyped
    iterate 4 rw [lookup_put_defs (by decide)]
  have alternatives : alternatives? (put "$defs" k ms) = alternatives? ms := by
    unfold alternatives?
    dsimp only
    iterate 2 rw [lookup_put_defs (by decide)]
  unfold stepPlain at goesOn ⊢
  rw [lookup_put_defs (by decide), lookup_put_defs (by decide), alternatives, lookup_put_defs (by decide)]
  split
  · rfl
  next plain =>
    rw [if_neg plain] at goesOn
    split
    next => rfl
    next => rfl
    next alone =>
      rw [alone] at goesOn
      split
      next type _ => exact typed type
      next untyped =>
        -- the search ends here without a name
        obtain ⟨fault, failed⟩ := scalarName_eq_error untyped
        refine absurd ?_ (goesOn fault)
        dsimp only
        split
        next t type => exact absurd type (untyped t)
        next => rw [failed]

/-- Definitions beside a schema change nothing about how the search goes on from it, unless it fails. -/
theorem step_put {k : Json} (goesOn : ∀ fault, step definitions (.object ms) ≠ .settled (.error fault)) :
    step definitions (.object (put "$defs" k ms)) = step definitions (.object ms) := by
  have some : ms.isEmpty = false := by
    cases ms with
    | nil => exact absurd rfl (goesOn .unconstrained)
    | cons m ms => rfl
  have some' : (put "$defs" k ms).isEmpty = false := isEmpty_of_lookup (lookup_put_self _ _ _)
  have reference : lookup "$ref" (put "$defs" k ms) = lookup "$ref" ms := lookup_put_defs (by decide)
  by_cases refers : ∃ t, lookup "$ref" ms = .some (.text t)
  · obtain ⟨t, found⟩ := refers
    rw [step_reference found, step_reference (reference.trans found)]
  · have elsewhere (t : Text) : lookup "$ref" ms ≠ .some (.text t) := fun found => refers ⟨t, found⟩
    rw [step_plain some elsewhere] at goesOn ⊢
    rw [step_plain some' fun t => reference ▸ elsewhere t, stepPlain_put goesOn]

/-- An option goes on with what is not nothing. -/
theorem step_optional (other : lookup "type" ns ≠ some (.text "null")) :
    step definitions (.object [("anyOf", .array [.object ns, .object (schemaType "null")])])
      = .within "optional<" (.object ns) := by
  have present : isNullType (.object ns) = false := by
    rw [isNullType, get?]
    split
    next t told =>
      rw [decide_eq_false_iff_not]
      rintro rfl
      exact other told
    next => rfl
  have one : [Json.object ns, .object (schemaType "null")].filter (fun v => !isNullType v) = [.object ns] := by
    rw [List.filter_cons_of_pos (by rw [present]; rfl)]
    rfl
  have into : stepInto [.object ns, .object (schemaType "null")] = .within "optional<" (.object ns) := by
    rw [stepInto, one]
    rfl
  exact into

namespace Spells

variable {classes : Definitions} {d : Nat} {j : Json}

theorem exists_object (h : Spells classes d j name) : ∃ ms, j = .object ms := by
  cases h <;> exact ⟨_, rfl⟩

/-- A name does not depend on the title of a schema. -/
theorem without (h : Spells classes d j name) : Spells classes d (j.without "title") name := by
  cases h with
  | scalar tells notArray notObject => exact .scalar tells.without notArray notObject
  | constants reference listed =>
    refine .constants ?_ ?_
    · rw [lookup_remove_ne (by decide), reference]
    · rw [lookup_remove_ne (by decide), lookup_remove_ne (by decide), listed]
  | array tells items inner =>
    refine .array tells.without ?_ inner
    rw [lookup_remove_ne (by decide), items]
  | map tells plain values inner =>
    refine .map tells.without ?_ ?_ inner
    · rw [lookup_remove_ne (by decide), plain]
    · rw [lookup_remove_ne (by decide), values]
  | optional other inner => exact .optional other inner
  | reference stands same titled => exact .reference stands same titled

/-- **A name that is spelled is found**, if the references of the schema are followed. -/
theorem nameOf (h : Spells classes d j name)
    (followed : Refers (fun t => ∀ n, numberOf? none t = some n → IsFollowed definitions rename classes n) j) :
    TypeTag.nameOf definitions d (renamed rename j) = .ok name := by
  -- as the name is spelled: the references of what stands in a schema are among those of the schema
  induction h with
  | scalar tells notArray notObject =>
    rw [nameOf_succ, renamed, tells.renamed.step, stepTyped, if_neg notArray, if_neg notObject]
    rfl
  | @constants d ms reference listed =>
    have reference' : lookup "$ref" (renamedMembers rename .schema ms) = none := by
      rw [lookup_renamedMembers, reference, Option.map_none]
    have listed' : ((lookup "enum" (renamedMembers rename .schema ms)).isSome
        || (lookup "const" (renamedMembers rename .schema ms)).isSome) = true := by
      rwa [lookup_renamedMembers, lookup_renamedMembers, Option.isSome_map, Option.isSome_map]
    rw [nameOf_succ, renamed, step_constants reference' listed']
    rfl
  | @array d ms ns name tells items inner ih =>
    have found := ih (refersMembers_object.mp ((refers_object.mp followed).lookup items))
    have items' : lookup "items" (renamedMembers rename .schema ms) = some (renamed rename (.object ns)) := by
      rw [lookup_renamedMembers, items]
      rfl
    have into : stepTyped (renamedMembers rename .schema ms) "array"
        = .within "array<" (renamed rename (.object ns)) := by
      rw [stepTyped, if_pos rfl, items']
      rfl
    rw [nameOf_succ, renamed, tells.renamed.step, into, Step.name, found]
    rfl
  | @map d ms ns name tells plain values inner ih =>
    have found := ih (refersMembers_object.mp ((refers_object.mp followed).lookup values))
    have values' : lookup "additionalProperties" (renamedMembers rename .schema ms)
        = some (renamed rename (.object ns)) := by
      rw [lookup_renamedMembers, values]
      rfl
    have plain' : lookup "properties" (renamedMembers rename .schema ms) = none := by
      rw [lookup_renamedMembers, plain, Option.map_none]
    have into : stepTyped (renamedMembers rename .schema ms) "object"
        = .within "map<" (renamed rename (.object ns)) := by
      rw [stepTyped, if_neg (by decide), if_pos rfl, plain', values']
      rfl
    rw [nameOf_succ, renamed, tells.renamed.step, into, Step.name, found]
    rfl
  | @optional d ns name other inner ih =>
    have found := ih (IsSchema.refers_alternatives.mp followed _ List.mem_cons_self)
    have other' : lookup "type" (renamedMembers rename .schema ns) ≠ some (.text "null") := by
      rw [lookup_renamedMembers]
      intro told
      obtain ⟨j, type, same⟩ := Option.map_eq_some_iff.mp told
      cases j with
      | text t => exact other (type.trans (congrArg some same))
      | _ => cases same
    have alternatives : renamed rename (.object [("anyOf", .array [.object ns, .object (schemaType "null")])])
        = .object [("anyOf", .array [renamed rename (.object ns), .object (schemaType "null")])] := rfl
    rw [nameOf_succ, alternatives, renamed, step_optional other', ← renamed, Step.name, found]
    rfl
  | @reference d n c ms title stands same titled =>
    obtain ⟨k, follows, settled⟩ :=
      followed _ List.mem_cons_self n (numberOf?_reference none n) c ms title stands same titled
    have kind : TypeTag.nameOf definitions (d + 1) k = .ok (kindName ms) := by
      rw [nameOf_succ, settled]
      rfl
    rw [nameOf_succ, follows]
    exact kind

end Spells

end TypeTag

/-! ### What is published of a rendered type -/

namespace TypeExpr

open Definitions Json Shape TypeTag

/-- What is published of a type spells a name, and stands for something if the type does. -/
structure Published (last : Definitions) (t : TypeExpr) (name : Text) (j : Json) : Prop where
  spells : Spells last (t.nesting + 2) j name
  present : t.isSingle = true → IsPlain j ∧ j.get? "type" ≠ some (.text "null")

variable {last : Definitions} {context : Context} {t : TypeExpr} {s : Shape} {name : Text} {j : Json}

/-- What has a type is no alternative, and none of nothing unless its type is. -/
theorem isPresent_of_type {ms : List (Text × Json)} {type : Text} (typed : lookup "type" ms = some (.text type))
    (other : type ≠ "null") : IsPlain (.object ms) ∧ (Json.object ms).get? "type" ≠ some (.text "null") := by
  refine ⟨IsSchema.isPlain_of_member (mem_of_lookup typed) (by decide), fun null => ?_⟩
  exact other (Json.text.inj (Option.some.inj (typed.symm.trans null)))

theorem lookup_type (kind : String) : lookup "type" (schemaType kind) = some (.text kind) := by
  simp [schemaType, members, lookup, Json.str]

/-- A scalar is published with its type. -/
theorem published_scalar {kind : String} (notArray : Text.ofString kind ≠ "array")
    (notObject : Text.ofString kind ≠ "object") (present : t.isSingle = true → Text.ofString kind ≠ "null") :
    Published last t kind (.object (schemaType kind)) := by
  refine ⟨?_, fun one => isPresent_of_type (lookup_type kind) (present one)⟩
  refine .scalar ⟨fun key among => ?_, lookup_type kind⟩ notArray notObject
  have other : ∀ key ∈ earlierKeys, ("type" : Text) ≠ key := by decide
  exact lookup_eq_none (List.forall_mem_singleton.mpr (other key among))

theorem titled_enumSchema (name : Text) (members : List (Text × Value)) :
    ∃ ms, enumSchema name members = .object ms ∧ lookup "title" ms = some (.text name) ∧
      kindName ms = "enum" := by
  refine ⟨_, rfl, by simp +decide [Json.members, lookup], ?_⟩
  rw [kindName, if_pos]
  simp +decide [Json.members, lookup]

theorem titleOf_text (t : Text) : titleOf (some (.text t)) = if t.isEmpty then Option.none else some t := by
  obtain ⟨points⟩ := t
  cases points <;> rfl

theorem titled_classSchema (kind : ClassKind) (name : Text) (extra : Extra) (properties : List (Text × Json))
    (required : List Text) : ∃ ms, classSchema kind name extra properties required = .object ms ∧
      lookup "title" ms = some (.text (classTitle name kind)) ∧ kindName ms = modelName (classTitle name kind) := by
  obtain ⟨description, same⟩ := @classSchema_eq_classMembers kind name extra properties required
  refine ⟨_, same, ?_⟩
  generalize classTitle name kind = title
  have listed : lookup "enum" (classMembers extra properties required title description) = Option.none ∧
      lookup "const" (classMembers extra properties required title description) = Option.none := by
    by_cases none : required.isEmpty = true <;> cases extra <;> cases description <;>
      simp +decide [classMembers, none, Json.members, lookup, optionalMember]
  have titled : lookup "title" (classMembers extra properties required title description) = some (.text title) := by
    by_cases none : required.isEmpty = true <;> simp +decide [classMembers, none, Json.members, lookup]
  refine ⟨titled, ?_⟩
  rw [kindName, listed.1, listed.2, titled, titleOf_text, modelName]
  cases title.isEmpty <;> rfl

theorem commonType_ne_null (js : List Json) : commonType js ≠ some ("null" : Text) := by
  unfold commonType
  cases js with
  | nil => exact (Option.some_ne_none _).symm
  | cons j js =>
    cases j
    all_goals
      dsimp only
      split <;> decide

/-- Constants are published with their type, if they have one. -/
theorem published_literalSchema (values : List Value) :
    Published last (literal values) "enum" (literalSchema values) := by
  have shown (key : Text) (j : Json) (js : List Json) (known : key ∈ [("enum" : Text), "const"]) :
      Published last (literal values) "enum"
        (.object ((key, j) :: optionalMember "type" ((commonType js).map .text))) := by
    have others : ∀ key ∈ [("enum" : Text), "const"], key ≠ "$ref" ∧ key ≠ "anyOf" ∧ key ≠ "type" := by decide
    obtain ⟨notReference, notAlternatives, notType⟩ := others key known
    refine ⟨.constants ?_ ?_, fun _ => ⟨?_, fun null => ?_⟩⟩
    · refine lookup_eq_none (List.forall_mem_cons.mpr ⟨notReference, fun m member => ?_⟩)
      rw [key_of_mem_optionalMember member]
      decide
    · rw [Bool.or_eq_true_iff]
      rcases List.mem_cons.mp known with rfl | known
      · exact .inl (isSome_lookup ⟨_, List.mem_cons_self, rfl⟩)
      · obtain rfl := List.mem_singleton.mp known
        exact .inr (isSome_lookup ⟨_, List.mem_cons_self, rfl⟩)
    · exact IsSchema.isPlain_of_member List.mem_cons_self notAlternatives
    · rw [get?, lookup, if_neg notType] at null
      have member := mem_of_lookup null
      cases kind : commonType js with
      | none =>
        rw [kind] at member
        cases member
      | some type =>
        rw [kind] at member
        refine commonType_ne_null js (kind.trans ?_)
        exact congrArg some (Json.text.inj (congrArg Prod.snd (List.mem_singleton.mp member))).symm
  unfold literalSchema
  dsimp only
  split
  · exact shown "const" _ _ (by decide)
  · exact shown "enum" _ _ (by decide)

/-- A class is published as a reference to it. -/
theorem published_reference {n : Nat} {c : ClassSchema} {ms : List (Text × Json)} {title : Text}
    (flat : t.nesting = 0) (stands : last[n]? = some c) (same : c.schema = .object ms)
    (titled : lookup "title" ms = some (.text title)) (kind : kindName ms = name) :
    Published last t name (referenceTo n) where
  spells := by
    rw [flat, ← kind]
    exact .reference stands same titled
  present _ := ⟨IsSchema.isPlain_of_member (k := "$ref") List.mem_cons_self (by decide),
    fun typed => by cases typed⟩

theorem nesting_dict (t : TypeExpr) : (dict (atom .str) t).nesting = t.nesting + 1 :=
  congrArg (· + 1) (Nat.zero_max _)

theorem nesting_optional (t : TypeExpr) : t.optional.nesting = t.nesting + 1 :=
  congrArg (· + 1) (Nat.max_zero _)

/-- An array is published with its items. -/
theorem Published.array {t' : TypeExpr} (h : Published last t name j) (deeper : t'.nesting = t.nesting + 1)
    (others : List (Text × Json)) (absent : ∀ key ∈ earlierKeys, lookup key others = Option.none) :
    Published last t' ("array<" ++ name ++ ">")
      (.object (("items", j) :: ("type", .str "array") :: others)) := by
  obtain ⟨ns, rfl⟩ := h.spells.exists_object
  have typed : TellsType (("items", .object ns) :: ("type", .str "array") :: others) "array" := by
    refine ⟨fun key among => ?_, ?_⟩
    · have other : ∀ key ∈ earlierKeys, ("items" : Text) ≠ key ∧ ("type" : Text) ≠ key := by decide
      rw [lookup, if_neg (other key among).1, lookup, if_neg (other key among).2, absent key among]
    · rw [lookup, if_neg (by decide), lookup, if_pos rfl]
      rfl
  refine ⟨?_, fun _ => isPresent_of_type typed.type (by decide)⟩
  rw [deeper]
  refine .array typed ?_ h.spells
  rw [lookup, if_pos rfl]

theorem Published.without_ne (h : Published last t name j) : j.without "title" ≠ .object [] := by
  intro empty
  have inner := h.spells.without
  rw [empty] at inner
  -- whatever spells a name has a member for it
  cases inner with
  | scalar tells => cases tells.type
  | constants _ listed => cases listed
  | array tells => cases tells.type
  | map tells => cases tells.type

/-- A map by texts is published with its values. -/
theorem Published.map (h : Published last t name j) :
    Published last (dict (atom .str) t) ("map<" ++ name ++ ">")
      (dictSchema (.object (schemaType "string")) j {}) := by
  have inner := h.spells.without
  rw [dictSchema_text h.without_ne]
  obtain ⟨ns, same⟩ := inner.exists_object
  rw [same] at inner ⊢
  let ms : List (Text × Json) := [("type", .str "object"), ("additionalProperties", .object ns)]
  have typed : TellsType ms "object" := by
    refine ⟨fun key among => ?_, ?_⟩
    · have other : ∀ key ∈ earlierKeys, ("type" : Text) ≠ key ∧ ("additionalProperties" : Text) ≠ key := by decide
      rw [lookup, if_neg (other key among).1, lookup, if_neg (other key among).2, lookup]
    · rw [lookup, if_pos rfl]
      rfl
  have plain : lookup "properties" ms = Option.none := by
    rw [lookup, if_neg (by decide), lookup, if_neg (by decide), lookup]
  have values : lookup "additionalProperties" ms = Option.some (.object ns) := by
    rw [lookup, if_neg (by decide), lookup, if_pos rfl]
  refine ⟨?_, fun _ => isPresent_of_type typed.type (by decide)⟩
  rw [nesting_dict]
  exact .map typed plain values inner

/-- An option is published as an alternative beside nothing. -/
theorem Published.nullable (h : Published last t name j) (one : t.isSingle = true) :
    Published last t.optional ("optional<" ++ name ++ ">")
      (if j.same (.object (schemaType "null")) then .object (schemaType "null")
        else Json.anyOf [j, .object (schemaType "null")]) := by
  obtain ⟨plain, other⟩ := h.present one
  rw [nullable_eq plain other]
  obtain ⟨ns, rfl⟩ := h.spells.exists_object
  refine ⟨?_, fun never => by cases never⟩
  rw [nesting_optional]
  exact .optional other h.spells

/-- What is published of a rendered type spells its rendering. -/
theorem Rendered.publishedAs (rendered : t.Rendered name) (shaped : t.shape context = .ok s)
    (as : PublishedAs last s j) : Published last t name j := by
  induction rendered generalizing s j with
  | str | int | float | bool | none =>
    obtain rfl := Except.ok.inj shaped
    obtain ⟨-, -, -, published, -⟩ := as
    cases published
    exact published_scalar (by decide) (by decide) (by decide)
  | literal values =>
    rw [TypeExpr.shape] at shaped
    split at shaped
    · cases shaped
    obtain rfl := Except.ok.inj shaped
    obtain ⟨-, -, -, published, -⟩ := as
    cases published
    exact published_literalSchema values
  | enum name members base =>
    obtain rfl := Except.ok.inj shaped
    by_cases inhabited : ((enumMembers base members).toOption.getD []).isEmpty = true
    -- without a member it is no class, and is published where it stands
    · obtain ⟨-, -, -, published, -⟩ := as
      rw [Shape.published, if_pos inhabited] at published
      cases published
      refine ⟨.constants rfl rfl, fun _ => ⟨?_, fun typed => by cases typed⟩⟩
      exact IsSchema.isPlain_of_member (k := "enum") List.mem_cons_self (by decide)
    · obtain ⟨n, c, rfl, stands, schema⟩ := as.of_enum (Bool.eq_false_iff.mpr inhabited)
      obtain ⟨ms, same, titled, kind⟩ := titled_enumSchema name ((enumMembers base members).toOption.getD [])
      exact published_reference rfl stands (schema.trans same) titled kind
  | model options name fields =>
    rw [TypeExpr.shape] at shaped
    obtain ⟨ss, shapes, shaped⟩ := bind_eq_ok.mp shaped
    obtain rfl := pure_eq_ok.mp shaped
    obtain ⟨n, properties, c, rfl, stands, schema, -⟩ := as.of_record
    obtain ⟨ms, same, titled, kind⟩ := titled_classSchema (.model options) name
      (classContext context (.model options)).1 properties ((ss.filter fun f => isRequired f.2.1).map (·.1))
    exact published_reference rfl stands (schema.trans same) titled kind
  | list _ ih =>
    rw [TypeExpr.shape] at shaped
    obtain ⟨item, found, shaped⟩ := bind_eq_ok.mp shaped
    obtain rfl := pure_eq_ok.mp shaped
    obtain ⟨k, inner, rfl⟩ := as.of_list
    exact (ih (mapError_eq_ok.mp found) inner).array rfl [] fun _ _ => rfl
  | set _ ih | frozenSet _ ih =>
    rw [TypeExpr.shape] at shaped
    obtain ⟨item, found, shaped⟩ := bind_eq_ok.mp shaped
    obtain rfl := pure_eq_ok.mp shaped
    obtain ⟨k, inner, rfl⟩ := as.of_set
    exact (ih (mapError_eq_ok.mp found) inner).array rfl [("uniqueItems", .bool true)] (by decide)
  | tupleOf _ ih =>
    rw [TypeExpr.shape] at shaped
    obtain ⟨item, found, shaped⟩ := bind_eq_ok.mp shaped
    obtain rfl := pure_eq_ok.mp shaped
    obtain ⟨k, inner, rfl⟩ := as.of_tupleOf
    exact (ih (mapError_eq_ok.mp found) inner).array rfl [] fun _ _ => rfl
  | dict _ ih =>
    rw [TypeExpr.shape] at shaped
    obtain ⟨key, foundKey, shaped⟩ := bind_eq_ok.mp shaped
    obtain ⟨value, found, shaped⟩ := bind_eq_ok.mp shaped
    obtain rfl := pure_eq_ok.mp shaped
    obtain rfl := Except.ok.inj (mapError_eq_ok.mp foundKey)
    obtain ⟨kj, vj, ⟨-, -, -, published, -⟩, inner, rfl⟩ := as.of_dict
    cases published
    exact (ih (mapError_eq_ok.mp found) inner).map
  | optional _ one ih =>
    obtain ⟨inner, found, rfl⟩ := shape_optional one shaped
    obtain ⟨k, published, rfl⟩ := as.of_nullable
    exact (ih found published).nullable one

end TypeExpr

/-! ### Documents -/

namespace TypeTag

open Definitions Json

variable {ds : Definitions} {root doc : Json} {ms : List (Text × Json)} {names : List (Nat × Text)} {name : Text}

/-- What is found from the root of a document is found from the document. -/
theorem nameOf_document {definitions : List (Text × Json)} {d : Nat} (members : ds.opened root = .object ms)
    (h : ds.document? root = some doc) (settled : ds.names? (.object ms) = some names)
    (found : nameOf definitions (d + 1) (renamed (namedReference names none) (.object ms)) = .ok name) :
    nameOf definitions (d + 1) doc = .ok name := by
  obtain ⟨names', settled', rfl⟩ := document?_eq_some members h
  obtain rfl := Option.some.inj (settled.symm.trans settled')
  split
  · exact found
  · rw [renamed] at found
    rw [nameOf_succ] at found ⊢
    rw [step_put, found]
    intro fault failed
    rw [failed] at found
    cases found

/-- A reference spells the name of its class. -/
theorem Spells.of_reference {d n : Nat} (h : Spells ds d (referenceTo n) name) :
    ∃ c ms title, ds[n]? = some c ∧ c.schema = .object ms ∧ lookup "title" ms = some (.text title) ∧
      name = kindName ms := by
  have typeless : lookup "type" [("$ref", Json.text (referenceStart ++ Text.ofNat n))] = none := rfl
  generalize same : referenceTo n = j at h
  cases h with
  | scalar tells =>
    cases same
    cases typeless.symm.trans tells.type
  | constants reference =>
    cases same
    cases reference
  | array tells =>
    cases same
    cases typeless.symm.trans tells.type
  | map tells =>
    cases same
    cases typeless.symm.trans tells.type
  | optional => cases same
  | @reference _ m c ms title stands schema titled =>
    have numbers : numberOf? none (referenceStart ++ Text.ofNat n)
        = numberOf? none (referenceStart ++ Text.ofNat m) := by
      have texts := congrArg (·.get? "$ref") same
      exact congrArg (numberOf? none) (Json.text.inj (Option.some.inj texts))
    rw [numberOf?_reference, numberOf?_reference] at numbers
    obtain rfl := Option.some.inj numbers
    exact ⟨c, ms, title, stands, schema, titled, rfl⟩

/-- **The name that is found** for what is published of a rendered type is its rendering. -/
theorem nameOf_published {t : TypeExpr} {context : Context} {s : Shape} (rendered : t.Rendered name)
    (shaped : t.shape context = .ok s) (wellFormed : s.WellFormed false) (made : s.schema = .ok doc) :
    nameOf (definitionsOf doc) (t.nesting + 2) doc = .ok name := by
  obtain ⟨root, ds, published, clean, document⟩ := Shape.schema_eq_ok made
  have spec := Shape.published_spec wellFormed clean .nil published
  have searchable := Shape.published_searchable wellFormed (List.forall_mem_nil _) published
  have spelled := (rendered.publishedAs shaped ⟨wellFormed, clean, .nil, published, List.prefix_rfl⟩).spells
  obtain ⟨ms, object, -⟩ := searchable.opened
  obtain ⟨names, settled, -⟩ := document?_eq_some object document
  refine nameOf_document object document settled ?_
  rcases opened_cases spec.refers with same | ⟨n, c, rfl, stands, same, -⟩
  · -- what the root refers to is in the document, and all that this leads to
    obtain rfl := same.symm.trans object
    refine spelled.nameOf fun t member n number => ?_
    have inside : ∀ m ∈ references none (.object ms), m < ds.length := by
      intro m refers
      obtain ⟨u, among, number⟩ := List.mem_filterMap.mp refers
      exact ((spec.refers u among).numberOf?_eq number).resolve_right fun own => by cases own.2
    have used := (spec.sound.references_used (.object ms)).1 n (List.mem_filterMap.mpr ⟨t, member, number⟩)
    exact isFollowed_of_mem_used searchable.classes object document settled used
      (spec.sound.lt_of_mem_used inside n used)
  · -- a class at the root stands there itself
    obtain ⟨c', cs, title, stands', schema, titled, rfl⟩ := spelled.of_reference
    obtain rfl := Option.some.inj (stands.symm.trans stands')
    obtain rfl := Json.object.inj (schema.symm.trans (same.symm.trans object))
    obtain ⟨ns, schema', tells⟩ := searchable.classes c (List.mem_of_getElem? stands)
    obtain rfl := Json.object.inj (schema'.symm.trans schema)
    rw [nameOf_succ, renamed, (tells.renamed _).step, kindName_of_sortKeys titled rfl]
    rfl

end TypeTag

/-! ### Types without classes -/

namespace Definitions

open Json

mutual

/-- Where references are written as they are, nothing is written otherwise. -/
theorem renamed_id (j : Json) : renamed id j = j := by
  cases j with
  | array js => rw [renamed, renamedItems_id js]
  | object ms => rw [renamed, renamedMembers_id .schema ms]
  | _ => rfl

theorem renamedItems_id (js : List Json) : renamedItems id js = js := by
  cases js with
  | nil => rfl
  | cons j js => rw [renamedItems, renamed_id j, renamedItems_id js]

theorem renamedMembers_id (part : Part) (ms : List (Text × Json)) : renamedMembers id part ms = ms := by
  match ms with
  | [] => rfl
  | (key, j) :: ms => rw [renamedMembers, renamedMember_id part key j, renamedMembers_id part ms]

theorem renamedMember_id (part : Part) (key : Text) (j : Json) : renamedMember id part key j = j := by
  cases j with
  | text t => rw [renamedMember, id, ite_self]
  | array js => rw [renamedMember, renamedItems_id js, ite_self]
  | object ms => rw [renamedMember, renamedMapping_id ms, renamedMembers_id _ ms, ite_self]
  | _ => rfl

theorem renamedMapping_id (ms : List (Text × Json)) : renamedMapping id ms = ms := by
  match ms with
  | [] => rfl
  | (tag, j) :: ms => rw [renamedMapping, renamedTag_id j, renamedMapping_id ms]

theorem renamedTag_id (j : Json) : renamedTag id j = j := by
  cases j with
  | object ms => rw [renamedTag, renamedMembers_id .schema ms]
  | _ => rfl

end

/-- A document without classes is its root. -/
theorem document?_nil {ms : List (Text × Json)} : document? [] (.object ms) = some (.object ms) := by
  have opened : Definitions.opened [] (.object ms) = .object ms := by
    unfold Definitions.opened
    split
    · split
      · simp
      · rfl
    · rfl
  have names : names? [] (.object ms) = some [] := rfl
  have rename : namedReference [] none = id := by
    funext t
    rw [namedReference]
    cases numberOf? none t <;> rfl
  rw [document?, opened, names]
  simp only [Option.bind_eq_bind, Option.bind_some, rename, renamed_id]
  rfl

end Definitions

namespace TypeExpr

open Definitions Json Shape

/-- A constant that is written as it is: a text, or an integer of not too many digits. -/
inductive IsWritable : Value → Prop where
  | text (t : Text) : IsWritable (.text t)
  | int {n : Int} (short : isWritten n = true) : IsWritable (.int n)

/-- The types of this kind without a class in them. -/
inductive Classless : TypeExpr → Prop where
  | atom {a : AtomType} (plain : a ∈ [AtomType.str, .int, .float, .bool, .none]) : Classless (atom a)
  | literal {values : List Value} (some : values.isEmpty = false) (constants : ∀ v ∈ values, IsWritable v) :
    Classless (literal values)
  | list {t : TypeExpr} (item : Classless t) : Classless (list t)
  | set {t : TypeExpr} (item : Classless t) : Classless (set t)
  | frozenSet {t : TypeExpr} (item : Classless t) : Classless (frozenSet t)
  | tupleOf {t : TypeExpr} (item : Classless t) : Classless (tupleOf t)
  | dict {t : TypeExpr} (value : Classless t) : Classless (dict (.atom .str) t)
  | optional {t : TypeExpr} (inner : Classless t) (one : t.isSingle = true) : Classless t.optional

/-- A schema that is published of a shape wherever it stands, refers to nothing, and is written where arrays
and objects may be nested to a depth. -/
structure Alone (s : Shape) (j : Json) (d : Nat) : Prop where
  published : ∀ ds, s.published ds = .ok (j, ds)
  data : ∀ k ∈ s.publishedData, referenceTexts k = []
  written : ∀ e, d ≤ e → j.writeFault? e = Option.none

variable {t : TypeExpr} {context : Context} {s : Shape} {j : Json} {d : Nat}

theorem Classless.rendered (h : t.Classless) : ∃ name, t.Rendered name := by
  induction h with
  | @atom a plain =>
    simp only [List.mem_cons, List.not_mem_nil, or_false] at plain
    rcases plain with rfl | rfl | rfl | rfl | rfl
    · exact ⟨_, .str⟩
    · exact ⟨_, .int⟩
    · exact ⟨_, .float⟩
    · exact ⟨_, .bool⟩
    · exact ⟨_, .none⟩
  | literal => exact ⟨_, .literal _⟩
  | list _ ih => exact ih.elim fun name item => ⟨_, .list item⟩
  | set _ ih => exact ih.elim fun name item => ⟨_, .set item⟩
  | frozenSet _ ih => exact ih.elim fun name item => ⟨_, .frozenSet item⟩
  | tupleOf _ ih => exact ih.elim fun name item => ⟨_, .tupleOf item⟩
  | dict _ ih => exact ih.elim fun name value => ⟨_, .dict value⟩
  | optional _ one ih => exact ih.elim fun name inner => ⟨_, .optional inner one⟩

/-- Without a class there is nothing to read and nothing that is none. -/
theorem Classless.resolve (h : t.Classless) : t.resolve = .ok t ∧ t.fault? = Option.none := by
  induction h with
  | atom | literal => exact ⟨rfl, rfl⟩
  | list _ ih | set _ ih | frozenSet _ ih | tupleOf _ ih | dict _ ih =>
    obtain ⟨read, whole⟩ := ih
    refine ⟨?_, whole⟩
    rw [TypeExpr.resolve, read]
    rfl
  | optional _ one ih =>
    obtain ⟨read, whole⟩ := ih
    constructor
    · rw [TypeExpr.optional, TypeExpr.resolve, resolveAll, read]
      exact congrArg Except.ok (unionOf_single one)
    · rw [TypeExpr.optional, fault?, faultAmong?, whole]
      rfl

theorem Alone.clean (h : Alone s j d) : Clean s.publishedData := by
  intro k member u found
  rw [h.data k member] at found
  cases found

/-- What is written at a depth is written one level deeper as a member. -/
theorem writeFault?_object {ms : List (Text × Json)} {e : Nat} (deep : d + 1 ≤ e)
    (h : ∀ m ∈ ms, ∀ e, d ≤ e → m.2.writeFault? e = Option.none) : (Json.object ms).writeFault? e = Option.none := by
  obtain ⟨e, rfl⟩ := Nat.exists_eq_add_of_le' deep
  exact writeFaultMembers?_eq_none.mpr fun m member => h m member _ (Nat.le_add_left d e)

theorem writeFault?_without {key : Text} {e : Nat} (written : j.writeFault? e = Option.none) :
    (j.without key).writeFault? e = Option.none := by
  cases j with
  | object ms =>
    cases e with
    | zero => cases written
    | succ e =>
      refine writeFaultMembers?_eq_none.mpr fun m member => ?_
      exact writeFaultMembers?_eq_none.mp written m (List.mem_of_mem_filter member)
  | _ => exact written

theorem Alone.array {s' : Shape} (h : Alone s j d) (others : List (Text × Json))
    (flat : ∀ m ∈ others, ∀ e, m.2.writeFault? e = Option.none) (data : s'.publishedData = s.publishedData)
    (made : ∀ ds, s'.published ds = (do
      let (j, ds) ← s.published ds
      return (.object (("items", j) :: ("type", .str "array") :: others), ds))) :
    Alone s' (.object (("items", j) :: ("type", .str "array") :: others)) (d + 1) where
  published ds := by
    rw [made, h.published]
    rfl
  data := data ▸ h.data
  written e deep := by
    refine writeFault?_object deep (List.forall_mem_cons.mpr ⟨h.written, ?_⟩)
    refine List.forall_mem_cons.mpr ⟨fun e _ => by cases e <;> rfl, ?_⟩
    exact fun m member e _ => flat m member e

theorem Alone.map (h : Alone s j d) (some : j.without "title" ≠ .object []) :
    Alone (.dict (.str {} Option.none) s {}) (dictSchema (.object (schemaType "string")) j {}) (d + 1) where
  published ds := by
    have made : (Shape.dict (.str {} Option.none) s {}).published ds = (do
        let (j, ds) ← s.published ds
        return (dictSchema (.object (schemaType "string")) j {}, ds)) := rfl
    rw [made, h.published]
    rfl
  data := h.data
  written e deep := by
    rw [dictSchema_text some]
    refine writeFault?_object deep (List.forall_mem_cons.mpr ⟨fun e _ => by cases e <;> rfl, ?_⟩)
    exact List.forall_mem_singleton.mpr fun e deep => writeFault?_without (h.written e deep)

theorem Alone.nullable (h : Alone s j (d + 1)) (plain : IsPlain j)
    (other : j.get? "type" ≠ Option.some (.text "null")) :
    Alone (.nullable s) (Json.record [("anyOf", .array [j, .object (schemaType "null")])]) (d + 3) where
  published ds := by
    rw [Shape.published, h.published]
    exact congrArg (fun k => Except.ok (k, ds)) (nullable_eq plain other)
  data := h.data
  written e deep := by
    refine writeFault?_object deep (List.forall_mem_singleton.mpr fun e deep => ?_)
    obtain ⟨e, rfl⟩ := Nat.exists_eq_add_of_le' deep
    refine writeFaultItems?_eq_none.mpr (List.forall_mem_cons.mpr ⟨?_, List.forall_mem_singleton.mpr rfl⟩)
    exact h.written _ (Nat.le_add_left _ _)

theorem Alone.mono {d' : Nat} (h : Alone s j d) (le : d ≤ d') : Alone s j d' where
  published := h.published
  data := h.data
  written e deep := h.written e (le.trans deep)

theorem Alone.publishedAs {inClass : Bool} (h : Alone s j d) (wellFormed : s.WellFormed inClass) :
    PublishedAs [] s j :=
  ⟨wellFormed, h.clean, .nil, h.published [], List.prefix_rfl⟩

theorem alone_scalar {kind : String} (published : ∀ ds, s.published ds = .ok (.object (schemaType kind), ds))
    (data : ∀ k ∈ s.publishedData, referenceTexts k = []) : Alone s (.object (schemaType kind)) 2 where
  published := published
  data := data
  written e deep := by
    refine writeFault?_object deep (List.forall_mem_singleton.mpr fun e _ => ?_)
    cases e <;> rfl

theorem IsWritable.published {v : Value} (h : IsWritable v) :
    referenceTexts (publishedValue v) = [] ∧ ∀ e, (publishedValue v).writeFault? e = Option.none := by
  cases h with
  | text t => exact ⟨rfl, fun e => by cases e <;> rfl⟩
  | @int n short =>
    refine ⟨rfl, fun e => ?_⟩
    have written : (Json.int n).writeFault? e = if isWritten n then Option.none else some .tooManyDigits := by
      cases e <;> rfl
    exact written.trans (if_pos short)

theorem alone_literal {values : List Value} (constants : ∀ v ∈ values, IsWritable v) :
    Alone (.literal values) (literalSchema values) 2 where
  published _ := rfl
  data := List.forall_mem_map.mpr fun v among => (constants v among).published.1
  written e deep := by
    have all : ∀ j ∈ values.map publishedValue, ∀ e, j.writeFault? e = Option.none :=
      List.forall_mem_map.mpr fun v among => (constants v among).published.2
    have type (kind : Option Text) : ∀ m ∈ optionalMember "type" (kind.map .text), ∀ e, 1 ≤ e →
        m.2.writeFault? e = Option.none := by
      intro m member e _
      cases kind with
      | none => cases member
      | some t =>
        rw [List.mem_singleton.mp member]
        cases e <;> rfl
    unfold literalSchema
    dsimp only
    generalize values.map publishedValue = js at all
    split
    next j =>
      exact writeFault?_object deep (List.forall_mem_cons.mpr ⟨fun e _ => all j List.mem_cons_self e, type _⟩)
    next js =>
      refine writeFault?_object deep (List.forall_mem_cons.mpr ⟨fun e deep => ?_, type _⟩)
      obtain ⟨e, rfl⟩ := Nat.exists_eq_add_of_le' deep
      exact writeFaultItems?_eq_none.mpr fun j among => all j among e

/-- What is published of a type without classes is written, if the type is not nested too deeply: an option
is an object with a list in it, so that what is published may be nested twice as deep. -/
theorem Classless.alone (h : t.Classless) :
    ∃ s j, t.shape context = .ok s ∧ Alone s j (2 * t.nesting + 2) := by
  have flat : ∀ m ∈ [(("uniqueItems" : Text), Json.bool true)], ∀ e, m.2.writeFault? e = Option.none :=
    List.forall_mem_singleton.mpr fun e => by cases e <;> rfl
  induction h with
  | @atom a plain =>
    simp only [List.mem_cons, List.not_mem_nil, or_false] at plain
    rcases plain with rfl | rfl | rfl | rfl | rfl
    · exact ⟨_, _, rfl, alone_scalar (fun _ => rfl) (List.forall_mem_nil _)⟩
    · exact ⟨_, _, rfl, alone_scalar (fun _ => rfl) (List.forall_mem_singleton.mpr rfl)⟩
    · exact ⟨_, _, rfl, alone_scalar (fun _ => rfl) (List.forall_mem_singleton.mpr rfl)⟩
    · exact ⟨_, _, rfl, alone_scalar (fun _ => rfl) (List.forall_mem_nil _)⟩
    · exact ⟨_, _, rfl, alone_scalar (fun _ => rfl) (List.forall_mem_nil _)⟩
  | @literal values some constants =>
    refine ⟨_, _, ?_, alone_literal constants⟩
    rw [TypeExpr.shape, some, if_neg Bool.false_ne_true]
  | list _ ih =>
    obtain ⟨s, j, shaped, alone⟩ := ih
    have array : Alone (.list s {}) _ _ := alone.array [] (List.forall_mem_nil _) rfl fun _ => rfl
    exact ⟨_, _, by rw [TypeExpr.shape, shaped]; rfl, array.mono (by rw [nesting]; omega)⟩
  | set _ ih =>
    obtain ⟨s, j, shaped, alone⟩ := ih
    have array : Alone (.set false s {}) _ _ := alone.array [("uniqueItems", .bool true)] flat rfl fun _ => rfl
    exact ⟨_, _, by rw [TypeExpr.shape, shaped]; rfl, array.mono (by rw [nesting]; omega)⟩
  | frozenSet _ ih =>
    obtain ⟨s, j, shaped, alone⟩ := ih
    have array : Alone (.set true s {}) _ _ := alone.array [("uniqueItems", .bool true)] flat rfl fun _ => rfl
    exact ⟨_, _, by rw [TypeExpr.shape, shaped]; rfl, array.mono (by rw [nesting]; omega)⟩
  | tupleOf _ ih =>
    obtain ⟨s, j, shaped, alone⟩ := ih
    have array : Alone (.tupleOf s {}) _ _ := alone.array [] (List.forall_mem_nil _) rfl fun _ => rfl
    exact ⟨_, _, by rw [TypeExpr.shape, shaped]; rfl, array.mono (by rw [nesting]; omega)⟩
  | dict classless ih =>
    obtain ⟨s, j, shaped, alone⟩ := ih
    obtain ⟨name, rendered⟩ := classless.rendered
    have published := rendered.publishedAs shaped (alone.publishedAs (shape_wellFormed _ shaped))
    have map := alone.map published.without_ne
    exact ⟨_, _, by rw [TypeExpr.shape, shaped]; rfl, map.mono (by rw [nesting_dict]; omega)⟩
  | @optional u classless one ih =>
    obtain ⟨s, j, shaped, alone⟩ := ih
    obtain ⟨name, rendered⟩ := classless.rendered
    obtain ⟨plain, other⟩ :=
      (rendered.publishedAs shaped (alone.publishedAs (shape_wellFormed _ shaped))).present one
    have nullable := alone.nullable plain other
    refine ⟨_, _, ?_, nullable.mono (by rw [nesting_optional]; omega)⟩
    have members : unionShapes context [u, TypeExpr.atom .none] = .ok (true, [s]) := by
      rw [unionShapes, isNone_of_isSingle one, if_neg Bool.false_ne_true, shaped]
      rfl
    rw [TypeExpr.optional, TypeExpr.shape, members]
    rfl

end TypeExpr

/-! ### Tags -/

namespace TypeExpr

variable {t : TypeExpr} {context : Context} {s : Shape} {name : Text}

theorem openShape_eq_ok : t.openShape context = .ok s ↔ ∃ u, t.resolve = .ok u ∧ u.shape context = .ok s := by
  unfold openShape
  split
  next u read =>
    refine ⟨fun shaped => ⟨u, read, shaped⟩, ?_⟩
    rintro ⟨v, read', shaped⟩
    obtain rfl := Except.ok.inj (read.symm.trans read')
    exact shaped
  next fault failed =>
    refine iff_of_false (fun h => by cases h) ?_
    rintro ⟨u, read, -⟩
    cases failed.symm.trans read

/-- A type without classes has a schema, which is written. -/
theorem Classless.exists_schema (h : t.Classless) (shallow : 2 * t.nesting + 2 ≤ Json.writeDepth) :
    ∃ s doc text, t.openShape .plain = .ok s ∧ s.schema = .ok doc ∧ doc.canonicalText = .ok text := by
  obtain ⟨s, j, shaped, alone⟩ : ∃ s j, t.shape .plain = .ok s ∧ Alone s j (2 * t.nesting + 2) := h.alone
  obtain ⟨name, rendered⟩ := h.rendered
  have published := rendered.publishedAs shaped (alone.publishedAs (shape_wellFormed _ shaped))
  obtain ⟨ms, rfl⟩ := published.spells.exists_object
  refine ⟨s, .object ms, (Json.object ms).canonical, openShape_eq_ok.mpr ⟨t, h.resolve.1, shaped⟩, ?_, ?_⟩
  · have dangling : s.dangling? = none := by
      rw [Shape.dangling?, List.flatMap_eq_nil_iff.mpr alone.data]
      rfl
    refine bind_eq_ok.mpr ⟨(.object ms, []), alone.published [], ?_⟩
    dsimp only
    rw [dangling, Definitions.document?_nil]
    rfl
  · exact Json.canonicalText_eq_ok.mpr ⟨alone.written _ shallow, rfl⟩

/-- The name that is found for a rendered type is its rendering, and it is found within its depth. -/
theorem Rendered.nameOf {doc : Json} (rendered : t.Rendered name) (shaped : t.openShape .plain = .ok s)
    (made : s.schema = .ok doc) :
    TypeTag.nameOf (TypeTag.definitionsOf doc) (t.nesting + 2) doc = .ok name := by
  obtain ⟨u, read, shaped⟩ := openShape_eq_ok.mp shaped
  obtain ⟨rendered, same, -⟩ := rendered.resolve read
  exact same ▸ TypeTag.nameOf_published rendered shaped (shape_wellFormed u shaped) made

end TypeExpr

namespace Descriptor

open TypeExpr

variable {t : TypeExpr} {name text declaration position : Text}

/-- A rendered type that is not nested too deeply has a tag just when it has a schema that is written. -/
theorem tag_eq_ok_iff (rendered : t.Rendered name) (shallow : t.nesting + 2 ≤ TypeTag.depthLimit) :
    Descriptor.tag declaration position t = .ok ⟨name, text⟩ ↔ t.fault? = none ∧
      ∃ s doc, t.openShape .plain = .ok s ∧ s.schema = .ok doc ∧ doc.canonicalText = .ok text := by
  rw [Descriptor.tag, tagOf_eq_ok, TypeTag.ofShape_eq_ok]
  refine and_congr_right fun _ => ⟨?_, ?_⟩
  · rintro ⟨s, doc, shaped, made, -, written⟩
    exact ⟨s, doc, shaped, made, written⟩
  · rintro ⟨s, doc, shaped, made, written⟩
    exact ⟨s, doc, shaped, made, TypeTag.ok_of_le shallow (rendered.nameOf shaped made), written⟩

/-- **Tags tell how types are built.**  Whatever tag a rendered type has, in a declaration in which texts may
stand for types or one in which they were read, its name is the rendering.  It has one just when all classes
in it can be declared and it has a schema that is written, if it is not nested as deep as the search for a
name goes; and a type without classes always has one. -/
theorem tag_rendered {t : TypeExpr} {name : Text} (rendered : t.Rendered name) (declaration position : Text) :
    (∀ tag, Descriptor.tag declaration position t = .ok tag → tag.name = name) ∧
    (∀ u tag, t.resolve = .ok u → hintTag declaration position u = .ok tag → tag.name = name) ∧
    (t.nesting + 2 ≤ TypeTag.depthLimit → ∀ text,
      Descriptor.tag declaration position t = .ok ⟨name, text⟩ ↔ t.fault? = none ∧
        ∃ s doc, t.openShape .plain = .ok s ∧ s.schema = .ok doc ∧ doc.canonicalText = .ok text) ∧
    (t.Classless → 2 * t.nesting + 2 ≤ Json.writeDepth →
      ∃ text, Descriptor.tag declaration position t = .ok ⟨name, text⟩) := by
  refine ⟨fun tag tagged => ?_, fun u tag read tagged => ?_, fun shallow text => tag_eq_ok_iff rendered shallow,
    fun classless shallow => ?_⟩
  · obtain ⟨s, doc, shaped, made, found, -⟩ := TypeTag.ofShape_eq_ok.mp (tagOf_eq_ok.mp tagged).2
    exact TypeTag.eq_of_found found (rendered.nameOf shaped made)
  · obtain ⟨s, doc, shaped, made, found, -⟩ := TypeTag.ofShape_eq_ok.mp (tagOf_eq_ok.mp tagged).2
    exact TypeTag.eq_of_found found (rendered.nameOf (openShape_eq_ok.mpr ⟨u, read, shaped⟩) made)
  · obtain ⟨s, doc, text, shaped, made, written⟩ := classless.exists_schema shallow
    have limits : Json.writeDepth = 990 ∧ TypeTag.depthLimit = 950 := ⟨rfl, rfl⟩
    exact ⟨text, (tag_eq_ok_iff rendered (by omega)).mpr ⟨classless.resolve.2, s, doc, shaped, made, written⟩⟩

/-- A list of points, each of which may be missing. -/
def points : TypeExpr := .list (.optional (.record (.model {}) "Point" [("x", .required, .atom .int)]))

theorem points_rendered : points.Rendered "array<optional<object:Point>>" := by
  have spelled : ("array<" ++ ("optional<" ++ modelName "Point" ++ ">") ++ ">" : Text)
      = "array<optional<object:Point>>" := by decide
  exact spelled ▸ .list (.optional (.model {} "Point" _) rfl)

theorem exists_tag_points : points.Rendered "array<optional<object:Point>>" ∧
    ∃ tag, Descriptor.tag "m.f" "result" points = .ok tag ∧ tag.name = "array<optional<object:Point>>" := by
  obtain ⟨tag, tagged, -⟩ := ok_of_any (p := fun _ => true)
    (by decide +kernel : (Descriptor.tag "m.f" "result" points).toOption.any _ = true)
  exact ⟨points_rendered, tag, tagged, (tag_rendered points_rendered "m.f" "result").1 tag tagged⟩

/-- A model without a title is an object and nothing else. -/
theorem exists_tag_untitled : ∃ tag,
    Descriptor.tag "m.f" "result" (.record (.model {}) "" [("x", .required, .atom .int)]) = .ok tag ∧
      tag.name = "object" ∧ tag.name ≠ "object:" ++ ("" : Text) := by
  obtain ⟨tag, tagged, named⟩ := ok_of_any (p := fun tag : TypeTag => tag.name == "object")
    (by decide +kernel : (Descriptor.tag "m.f" "result"
      (.record (.model {}) "" [("x", .required, .atom .int)])).toOption.any _ = true)
  have name : tag.name = "object" := eq_of_beq named
  refine ⟨tag, tagged, name, ?_⟩
  rw [name]
  decide

end Descriptor

end GuardedTools
