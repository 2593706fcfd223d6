import GuardedTools.Proofs.Basic
import GuardedTools.Proofs.Json.Validity
import GuardedTools.TypeTag
import Mathlib.Data.List.Perm.Subperm
import Mathlib.Logic.Relation

/-!
# The search for a name

The search for the compact name of a schema goes step by step: from a schema it goes on to the definition
that the schema refers to, to a schema within it or to its alternatives, or it ends (`TypeTag.Step`,
`TypeTag.nameOf_succ`).  It comes to an end unless it comes back to a schema (`TypeTag.Circular`): there are
no more schemas than those in the schema and in its definitions (`TypeTag.nameOf_eq_tooDeep_iff`).  It fails
where it gets to a schema that has no name of its own (`TypeTag.nameOf_eq_error_iff`).  Once it is over, a longer
search finds the same (`TypeTag.nameOf_of_le`).
-/

namespace GuardedTools

namespace Json

/-! ### Values in a value -/

mutual

/-- A value and all values in it. -/
def parts : Json → List Json
  | array items => array items :: partsOfItems items
  | object members => object members :: partsOfMembers members
  | j => [j]

def partsOfItems : List Json → List Json
  | [] => []
  | j :: js => j.parts ++ partsOfItems js

def partsOfMembers : List (Text × Json) → List Json
  | [] => []
  | (_, j) :: ms => j.parts ++ partsOfMembers ms

end

variable {j k : Json} {js : List Json} {ms : List (Text × Json)}

theorem mem_parts_self (j : Json) : j ∈ j.parts := by
  cases j <;> exact List.mem_cons_self

theorem mem_partsOfItems : k ∈ partsOfItems js ↔ ∃ j ∈ js, k ∈ j.parts := by
  induction js with
  | nil => exact iff_of_false List.not_mem_nil (by rintro ⟨_, ⟨⟩, _⟩)
  | cons j js ih => rw [partsOfItems, List.mem_append, ih, List.exists_mem_cons_iff]

theorem mem_partsOfMembers : k ∈ partsOfMembers ms ↔ ∃ m ∈ ms, k ∈ m.2.parts := by
  induction ms with
  | nil => exact iff_of_false List.not_mem_nil (by rintro ⟨_, ⟨⟩, _⟩)
  | cons m ms ih => rw [partsOfMembers, List.mem_append, ih, List.exists_mem_cons_iff]

mutual

theorem parts_subset {j k : Json} (h : k ∈ j.parts) : k.parts ⊆ j.parts := by
  match j with
  | array js =>
    rcases List.mem_cons.mp h with rfl | inner
    · exact List.Subset.refl _
    · exact List.Subset.trans (parts_subset_items inner) (List.subset_cons_self _ _)
  | object ms =>
    rcases List.mem_cons.mp h with rfl | inner
    · exact List.Subset.refl _
    · exact List.Subset.trans (parts_subset_members inner) (List.subset_cons_self _ _)
  | null | bool _ | int _ | float _ | text _ =>
    rw [List.mem_singleton.mp h]
    exact List.Subset.refl _

theorem parts_subset_items {js : List Json} {k : Json} (h : k ∈ partsOfItems js) :
    k.parts ⊆ partsOfItems js := by
  match js with
  | [] => cases h
  | j :: js =>
    rcases List.mem_append.mp h with first | rest
    · exact List.Subset.trans (parts_subset first) (List.subset_append_left _ _)
    · exact List.Subset.trans (parts_subset_items rest) (List.subset_append_right _ _)

theorem parts_subset_members {ms : List (Text × Json)} {k : Json} (h : k ∈ partsOfMembers ms) :
    k.parts ⊆ partsOfMembers ms := by
  match ms with
  | [] => cases h
  | (_, j) :: ms =>
    rcases List.mem_append.mp h with first | rest
    · exact List.Subset.trans (parts_subset first) (List.subset_append_left _ _)
    · exact List.Subset.trans (parts_subset_members rest) (List.subset_append_right _ _)

end

end Json

namespace TypeTag

open Json

/-! ### One step -/

/-- What the search makes of a schema before it goes on. -/
inductive Step where
  /-- The name is found, or there is none. -/
  | settled (result : Except TagFault Text)
  /-- The name is that of a definition. -/
  | reference (target : Json)
  /-- The name is made of that of a schema within. -/
  | within (opening : Text) (inner : Json)
  /-- The name is made of those of the alternatives. -/
  | union (variants : List Json)

/-- The name that a step leads to, if the names of other schemas are known. -/
def Step.name (names : Json → Except TagFault Text) : Step → Except TagFault Text
  | settled result => result
  | reference target => names target
  | within opening inner => do return opening ++ (← names inner) ++ ">"
  | union variants => do
    let found ← variants.mapM names
    return "union<" ++ Text.intercalate "," found ++ ">"

/-- How the search goes on from alternatives. -/
def stepInto (variants : List Json) : Step :=
  match checkAlternatives variants with
  | .error fault => .settled (.error fault)
  | .ok () =>
    match variants.filter fun v => !isNullType v with
    | [v] => .within (if variants.length = 1 then "union<" else "optional<") v
    | _ => .union variants

/-- How the search goes on from a schema that tells its type. -/
def stepTyped (members : List (Text × Json)) (type : Text) : Step :=
  if type = "array" then
    match lookup "items" members with
    | some (.object items) => .within "array<" (.object items)
    | _ => .settled (.ok "array")
  else if type = "object" then
    if (lookup "properties" members).isSome then
      match titleOf (lookup "title" members) with
      | some title => .settled (.ok ("object:" ++ title))
      | none => .settled (.ok "object")
    else match lookup "additionalProperties" members with
      | some (.object extra) => .within "map<" (.object extra)
      | _ => .settled (.ok "object")
  else .settled (.ok type)

/-- How the search goes on from a schema that refers to nothing. -/
def stepPlain (members : List (Text × Json)) : Step :=
  if (lookup "enum" members).isSome || (lookup "const" members).isSome then .settled (.ok "enum")
  else match alternatives? members with
  | .error fault => .settled (.error fault)
  | .ok (some variants) => stepInto variants
  | .ok none =>
    match lookup "type" members with
    | some (.text type) => stepTyped members type
    | _ => .settled (scalarName members)

/-- How the search goes on from a schema. -/
def step (definitions : List (Text × Json)) : Json → Step
  | .object members =>
    if members.isEmpty then .settled (.error .unconstrained)
    else match lookup "$ref" members with
    | some (.text reference) =>
      match lookup (reference.afterLast '/') definitions with
      | none => .settled (.error (.unresolved reference))
      | some .null => .settled (.error (.unresolved reference))
      | some target => .reference target
    | _ => stepPlain members
  | j => .settled (.error (if isTruthy j then .notASchema (Value.ofJson j).className else .unconstrained))

variable {definitions : List (Text × Json)} {ms : List (Text × Json)} {d : Nat} {j k : Json} {fault : TagFault}

theorem step_reference {reference : Text} (found : lookup "$ref" ms = some (.text reference)) :
    step definitions (.object ms) = match lookup (reference.afterLast '/') definitions with
      | none => .settled (.error (.unresolved reference))
      | some .null => .settled (.error (.unresolved reference))
      | some target => .reference target := by
  have some : ms.isEmpty = false := by
    cases ms with
    | nil => cases found
    | cons m ms => rfl
  rw [step, some, found]
  rfl

theorem step_plain (some : ms.isEmpty = false) (elsewhere : ∀ t, lookup "$ref" ms ≠ .some (.text t)) :
    step definitions (.object ms) = stepPlain ms := by
  rw [step, some, if_neg Bool.false_ne_true]
  split
  next t found => exact absurd found (elsewhere t)
  next => rfl

theorem alternatives?_eq_none (anyOf : lookup "anyOf" ms = none) (oneOf : lookup "oneOf" ms = none) :
    alternatives? ms = .ok none := by
  unfold alternatives?
  simp only [anyOf, oneOf, Option.filter_none]
  rfl

theorem name_stepInto (variants : List Json) (names : Json → Except TagFault Text) :
    (stepInto variants).name names = (do
      checkAlternatives variants
      match variants.filter fun v => !isNullType v with
      | [v] =>
        if variants.length = 1 then return "union<" ++ (← names v) ++ ">"
        else return "optional<" ++ (← names v) ++ ">"
      | _ =>
        let found ← variants.mapM names
        return "union<" ++ Text.intercalate "," found ++ ">") := by
  unfold stepInto
  cases checkAlternatives variants with
  | error fault => rfl
  | ok checked =>
    dsimp only
    split
    next v =>
      by_cases single : variants.length = 1
      · rw [if_pos single, if_pos single]
        rfl
      · rw [if_neg single, if_neg single]
        rfl
    next => rfl

theorem name_stepTyped (ms : List (Text × Json)) (type : Text) (names : Json → Except TagFault Text) :
    (stepTyped ms type).name names =
      if type = "array" then
        match lookup "items" ms with
        | some (.object items) => do return "array<" ++ (← names (.object items)) ++ ">"
        | _ => .ok "array"
      else if type = "object" then
        if (lookup "properties" ms).isSome then
          match titleOf (lookup "title" ms) with
          | some title => .ok ("object:" ++ title)
          | none => .ok "object"
        else match lookup "additionalProperties" ms with
          | some (.object extra) => do return "map<" ++ (← names (.object extra)) ++ ">"
          | _ => .ok "object"
      else .ok type := by
  unfold stepTyped
  repeat' split
  all_goals rfl

/-- The search goes step by step. -/
theorem nameOf_succ (definitions : List (Text × Json)) (d : Nat) (j : Json) :
    nameOf definitions (d + 1) j = (step definitions j).name (nameOf definitions d) := by
  cases j with
  | object ms =>
    rw [nameOf]
    split
    next nothing =>
      rw [step, if_pos nothing]
      rfl
    next some =>
    split
    next reference found =>
      rw [step_reference found]
      cases lookup (reference.afterLast '/') definitions with
      | none => rfl
      | some target => cases target <;> rfl
    next elsewhere =>
      rw [step_plain (Bool.eq_false_iff.mpr some) elsewhere, stepPlain]
      split
      · rfl
      cases alternatives? ms with
      | error fault => rfl
      | ok variants =>
        cases variants with
        | none =>
          cases lookup "type" ms with
          | none => rfl
          | some type =>
            cases type with
            | text type => exact (name_stepTyped ms type _).symm
            | _ => rfl
        | some variants => exact (name_stepInto variants _).symm
  | _ => rfl

/-! ### What a step does -/

/-- The members of a schema that tell its alternatives. -/
def variantKeys : List Text := ["anyOf", "oneOf"]

/-- The members of a schema that are schemas themselves. -/
def innerKeys : List Text := ["items", "additionalProperties"]

/-- A schema stands in another one where the search looks for schemas. -/
inductive Contains (ms : List (Text × Json)) : Json → Prop where
  | member {key : Text} {ks : List (Text × Json)} (known : key ∈ innerKeys)
    (found : lookup key ms = some (.object ks)) : Contains ms (.object ks)
  | variant {key : Text} {js : List Json} {k : Json} (known : key ∈ variantKeys)
    (found : lookup key ms = some (.array js)) (among : k ∈ js) : Contains ms k

/-- A schema whose alternatives, items and further members are schemas of this kind. -/
inductive Formed : Json → Prop where
  | intro {ms : List (Text × Json)}
    (lists : ∀ key ∈ variantKeys, ∀ v, lookup key ms = some v → ∃ js, v = .array js)
    (inner : ∀ k, Contains ms k → Formed k) : Formed (.object ms)

/-- What a fault says about the schema that it is found at. -/
inductive Tells (j : Json) : TagFault → Prop where
  | unconstrained : Tells j .unconstrained
  | unresolved (reference : Text) : Tells j (.unresolved reference)
  | unrecognized (schema : Text) : Tells j (.unrecognized schema)
  | unwritten {fault : WriteFault} (failed : j.canonicalText = .error fault) : Tells j (.unwritten fault)
  | notASchema {className : Text} (malformed : ¬Formed j) : Tells j (.notASchema className)
  | notAList {className : Text} (malformed : ¬Formed j) : Tells j (.notAList className)

/-- Where the search goes from a schema. -/
inductive Goes (definitions : List (Text × Json)) (j : Json) : Step → Prop where
  | settled {result : Except TagFault Text} (tells : ∀ fault, result = .error fault → Tells j fault) :
    Goes definitions j (.settled result)
  | reference {ms : List (Text × Json)} {key : Text} {k : Json} (same : j = .object ms)
    (led : lookup key definitions = some k) (notNull : k ≠ .null) : Goes definitions j (.reference k)
  | within {ms : List (Text × Json)} {opening : Text} {k : Json} (same : j = .object ms)
    (inner : Contains ms k) : Goes definitions j (.within opening k)
  | union {ms : List (Text × Json)} {ks : List Json} (same : j = .object ms)
    (inner : ∀ k ∈ ks, Contains ms k) : Goes definitions j (.union ks)

theorem Goes.ok (name : Text) : Goes definitions j (.settled (.ok name)) :=
  .settled fun _ failed => by cases failed

theorem Goes.error (tells : Tells j fault) : Goes definitions j (.settled (.error fault)) :=
  .settled fun _ failed => Except.error.inj failed ▸ tells

theorem Formed.exists_object (h : Formed j) : ∃ ms, j = .object ms := by
  cases h
  exact ⟨_, rfl⟩

theorem isObject_of_checkAlternatives {js : List Json} (h : checkAlternatives js = .ok ()) :
    ∀ j ∈ js, ∃ ms, j = .object ms := by
  induction js with
  | nil => exact List.forall_mem_nil _
  | cons j js ih =>
    cases j with
    | object ms => exact List.forall_mem_cons.mpr ⟨⟨ms, rfl⟩, ih h⟩
    | _ => cases h

theorem checkAlternatives_of_isObject {js : List Json} (objects : ∀ j ∈ js, ∃ ms, j = .object ms) :
    checkAlternatives js = .ok () := by
  induction js with
  | nil => rfl
  | cons j js ih =>
    obtain ⟨⟨ms, rfl⟩, rest⟩ := List.forall_mem_cons.mp objects
    exact ih rest

theorem checkAlternatives_eq_error {js : List Json} (h : checkAlternatives js = .error fault) :
    ∃ className, fault = .notASchema className := by
  induction js with
  | nil => cases h
  | cons j js ih =>
    cases j with
    | object ms => exact ih h
    | _ => exact ⟨_, (Except.error.inj h).symm⟩

/-- Alternatives are the items of a list, unless the list is none. -/
theorem alternatives?_cases {variants : List Json} (h : alternatives? ms = .ok (some variants)) :
    ∃ key ∈ variantKeys, ∃ v, lookup key ms = some v ∧ (v = .array variants ∨
      (∀ js, v ≠ .array js) ∧ ∃ ts : List Text, variants = ts.map .text) := by
  unfold alternatives? at h
  have found {v : Json}
      (told : ((lookup "anyOf" ms).filter isTruthy <|> (lookup "oneOf" ms).filter isTruthy) = some v) :
      ∃ key ∈ variantKeys, lookup key ms = some v := by
    rcases (Option.orElse_eq_some _ _ _).mp told with first | ⟨-, second⟩
    · exact ⟨_, List.mem_cons_self, (Option.filter_eq_some_iff.mp first).1⟩
    · exact ⟨_, List.mem_cons_of_mem _ List.mem_cons_self, (Option.filter_eq_some_iff.mp second).1⟩
  dsimp only at h
  split at h
  · cases h
  next js told =>
    cases h
    obtain ⟨key, known, led⟩ := found told
    exact ⟨key, known, _, led, .inl rfl⟩
  next members told =>
    cases h
    obtain ⟨key, known, led⟩ := found told
    refine ⟨key, known, _, led, .inr ⟨fun js same => (by cases same), members.map (·.1), ?_⟩⟩
    rw [List.map_map]
    rfl
  next t told =>
    cases h
    obtain ⟨key, known, led⟩ := found told
    refine ⟨key, known, _, led, .inr ⟨fun js same => (by cases same), t.points.map fun p => ⟨[p]⟩, ?_⟩⟩
    rw [List.map_map]
    rfl
  next => cases h

/-- A fault of the alternatives is that there is no list of them. -/
theorem alternatives?_eq_error (h : alternatives? ms = .error fault) :
    (∃ className, fault = .notAList className) ∧
      ∃ key ∈ variantKeys, ∃ v, lookup key ms = some v ∧ ∀ js, v ≠ .array js := by
  unfold alternatives? at h
  dsimp only at h
  split at h
  case h_5 v notArray _ _ told =>
    refine ⟨⟨_, (Except.error.inj h).symm⟩, ?_⟩
    rcases (Option.orElse_eq_some _ _ _).mp told with first | ⟨-, second⟩
    · exact ⟨_, List.mem_cons_self, v, (Option.filter_eq_some_iff.mp first).1, notArray⟩
    · exact ⟨_, List.mem_cons_of_mem _ List.mem_cons_self, v, (Option.filter_eq_some_iff.mp second).1,
        notArray⟩
  all_goals cases h

theorem goes_stepInto {variants : List Json} (h : alternatives? ms = .ok (some variants)) :
    Goes definitions (.object ms) (stepInto variants) := by
  obtain ⟨key, known, v, led, kind⟩ := alternatives?_cases h
  unfold stepInto
  split
  next fault failed =>
    obtain ⟨className, rfl⟩ := checkAlternatives_eq_error failed
    refine .error (.notASchema fun formed => ?_)
    -- well-formed alternatives are a list of schemas
    obtain ⟨lists, inner⟩ := formed
    rcases kind with rfl | ⟨notArray, -⟩
    · have checked := checkAlternatives_of_isObject fun k among =>
        (inner k (.variant known led among)).exists_object
      cases failed.symm.trans checked
    · obtain ⟨js, same⟩ := lists key known v led
      exact notArray js same
  next checked =>
    have inner : ∀ k ∈ variants, Contains ms k := by
      intro k among
      rcases kind with rfl | ⟨-, ts, rfl⟩
      · exact .variant known led among
      · obtain ⟨t, -, rfl⟩ := List.mem_map.mp among
        obtain ⟨_, same⟩ := isObject_of_checkAlternatives checked _ among
        cases same
    split
    next v only =>
      have among : v ∈ variants.filter fun v => !isNullType v := only ▸ List.mem_singleton_self v
      exact .within rfl (inner v (List.mem_filter.mp among).1)
    next => exact .union rfl inner

theorem goes_stepTyped (type : Text) : Goes definitions (.object ms) (stepTyped ms type) := by
  unfold stepTyped
  split
  · split
    next items found => exact .within rfl (.member List.mem_cons_self found)
    next => exact .ok _
  split
  · split
    · split <;> exact .ok _
    · split
      next extra found =>
        exact .within rfl (.member (List.mem_cons_of_mem _ List.mem_cons_self) found)
      next => exact .ok _
  · exact .ok _

theorem goes_stepPlain : Goes definitions (.object ms) (stepPlain ms) := by
  unfold stepPlain
  split
  · exact .ok _
  split
  next fault failed =>
    obtain ⟨⟨className, rfl⟩, key, known, v, led, notArray⟩ := alternatives?_eq_error failed
    refine .error (.notAList fun formed => ?_)
    obtain ⟨lists, -⟩ := formed
    obtain ⟨js, same⟩ := lists key known v led
    exact notArray js same
  next variants told => exact goes_stepInto told
  next =>
    split
    next => exact goes_stepTyped _
    next =>
      refine .settled fun fault failed => ?_
      unfold scalarName at failed
      split at failed
      · cases failed
      · split at failed
        next => exact Except.error.inj failed ▸ .unrecognized _
        next unwritten => exact Except.error.inj failed ▸ .unwritten unwritten

/-- All that a step does. -/
theorem goes_step (definitions : List (Text × Json)) (j : Json) :
    Goes definitions j (step definitions j) := by
  unfold step
  split
  next ms =>
    split
    · exact .error .unconstrained
    split
    next reference found =>
      split
      · exact .error (.unresolved _)
      · exact .error (.unresolved _)
      next target notNull led => exact .reference rfl led notNull
    next => exact goes_stepPlain
  next other =>
    refine .error ?_
    split
    · exact .notASchema fun formed => formed.exists_object.elim other
    · exact .unconstrained

/-! ### Looking longer -/

theorem mapM_congr {names names' : Json → Except TagFault Text} {js : List Json}
    (stays : ∀ j, names j ≠ .error .tooDeep → names' j = names j)
    (found : js.mapM names ≠ .error .tooDeep) : js.mapM names' = js.mapM names := by
  induction js with
  | nil => rfl
  | cons j js ih =>
    rw [List.mapM_cons] at found
    rw [List.mapM_cons, List.mapM_cons]
    have first : names' j = names j := stays j fun deep => found (by rw [deep]; rfl)
    rw [first]
    cases named : names j with
    | error fault => rfl
    | ok name =>
      have rest : js.mapM names ≠ .error .tooDeep := fun deep => found (by rw [named, deep]; rfl)
      exact congrArg (fun r => Except.ok name >>= fun n => r >>= fun ns => pure (n :: ns)) (ih rest)

theorem Step.name_congr {names names' : Json → Except TagFault Text} {s : Step}
    (stays : ∀ j, names j ≠ .error .tooDeep → names' j = names j)
    (found : s.name names ≠ .error .tooDeep) : s.name names' = s.name names := by
  cases s with
  | settled result => rfl
  | reference k => exact stays k found
  | within opening k =>
    have inner : names k ≠ .error .tooDeep := fun deep => found (by rw [name, deep]; rfl)
    rw [name, name, stays k inner]
  | union ks =>
    have inner : ks.mapM names ≠ .error .tooDeep := fun deep => found (by rw [name, deep]; rfl)
    rw [name, name, mapM_congr stays inner]

/-- What is found is found by every longer search. -/
theorem nameOf_of_le {e : Nat} (le : d ≤ e) (found : nameOf definitions d j ≠ .error .tooDeep) :
    nameOf definitions e j = nameOf definitions d j := by
  -- for all schemas at once, as a step leads to others
  have next (d : Nat) : ∀ j, nameOf definitions d j ≠ .error .tooDeep →
      nameOf definitions (d + 1) j = nameOf definitions d j := by
    induction d with
    | zero => exact fun j found => absurd rfl found
    | succ d ih =>
      intro j found
      rw [nameOf_succ] at found ⊢
      rw [nameOf_succ definitions d]
      exact Step.name_congr ih found
  induction le with
  | refl => rfl
  | step _ ih => rw [next _ j (ih ▸ found), ih]

theorem ok_of_le {e : Nat} {name : Text} (le : d ≤ e) (found : nameOf definitions d j = .ok name) :
    nameOf definitions e j = .ok name := by
  have other : nameOf definitions d j ≠ .error .tooDeep := by
    rw [found]
    intro h
    cases h
  exact (nameOf_of_le le other).trans found

/-- However long it is looked for, the same name is found. -/
theorem eq_of_found {e : Nat} {name name' : Text} (found : nameOf definitions d j = .ok name)
    (found' : nameOf definitions e j = .ok name') : name = name' := by
  have long := ok_of_le (Nat.le_max_left d e) found
  have long' := ok_of_le (Nat.le_max_right d e) found'
  exact Except.ok.inj (long.symm.trans long')

/-! ### Schemas that wait for one another -/

/-- A schema has a name, if it is looked for long enough. -/
def Named (definitions : List (Text × Json)) (j : Json) : Prop :=
  ∃ d name, nameOf definitions d j = .ok name

/-- The search for the name of a schema asks for that of another one.  Alternatives are asked in their
order, each of them once all before it have names. -/
inductive Awaits (definitions : List (Text × Json)) (j k : Json) : Prop where
  | reference (next : step definitions j = .reference k)
  | within {opening : Text} (next : step definitions j = .within opening k)
  | union {before after : List Json} (next : step definitions j = .union (before ++ k :: after))
    (named : ∀ b ∈ before, Named definitions b)

/-- The search for the name of a schema gets to another one. -/
abbrev Reaches (definitions : List (Text × Json)) : Json → Json → Prop :=
  Relation.ReflTransGen (Awaits definitions)

/-- The search for the name of a schema gets to a schema that it gets back to. -/
def Circular (definitions : List (Text × Json)) (j : Json) : Prop :=
  ∃ k, Reaches definitions j k ∧ Relation.TransGen (Awaits definitions) k k

theorem exists_depth {js : List Json} (named : ∀ j ∈ js, Named definitions j) :
    ∃ d, ∀ j ∈ js, ∃ name, nameOf definitions d j = .ok name := by
  induction js with
  | nil => exact ⟨0, List.forall_mem_nil _⟩
  | cons j js ih =>
    obtain ⟨⟨d, name, found⟩, rest⟩ := List.forall_mem_cons.mp named
    obtain ⟨e, all⟩ := ih rest
    refine ⟨max d e, List.forall_mem_cons.mpr ⟨⟨name, ?_⟩, fun k among => ?_⟩⟩
    · exact ok_of_le (Nat.le_max_left d e) found
    · obtain ⟨name, found⟩ := all k among
      exact ⟨name, ok_of_le (Nat.le_max_right d e) found⟩

/-- Before a name is found the search is not over. -/
theorem Named.cases (h : Named definitions j) (d : Nat) :
    nameOf definitions d j = .error .tooDeep ∨ ∃ name, nameOf definitions d j = .ok name := by
  by_cases deep : nameOf definitions d j = .error .tooDeep
  · exact .inl deep
  · obtain ⟨e, name, found⟩ := h
    exact .inr ⟨name, (nameOf_of_le (Nat.le_max_left d e) deep).symm.trans
      (ok_of_le (Nat.le_max_right d e) found)⟩

theorem mapM_append_eq_error {names : Json → Except TagFault Text} {before after : List Json}
    (earlier : ∀ b ∈ before, names b = .error fault ∨ ∃ name, names b = .ok name)
    (failed : names k = .error fault) : (before ++ k :: after).mapM names = .error fault := by
  induction before with
  | nil =>
    rw [List.nil_append, List.mapM_cons, failed]
    rfl
  | cons b before ih =>
    obtain ⟨first, rest⟩ := List.forall_mem_cons.mp earlier
    rw [List.cons_append, List.mapM_cons]
    rcases first with failed | ⟨name, found⟩
    · rw [failed]
      rfl
    · rw [found, ih rest]
      rfl

/-- A search is not over before that which it waits for is. -/
theorem Awaits.nameOf_eq_tooDeep (h : Awaits definitions j k)
    (deep : nameOf definitions d k = .error .tooDeep) : nameOf definitions (d + 1) j = .error .tooDeep := by
  rw [nameOf_succ]
  cases h with
  | reference next =>
    rw [next]
    exact deep
  | within next =>
    rw [next, Step.name, deep]
    rfl
  | union next named =>
    rw [next, Step.name, mapM_append_eq_error (fun b among => (named b among).cases d) deep]
    rfl

/-- Of a list of schemas that is not named the first one without a name is waited for. -/
theorem exists_of_mapM_nameOf {js : List Json} (h : js.mapM (nameOf definitions d) = .error fault) :
    ∃ before k after, js = before ++ k :: after ∧ (∀ b ∈ before, Named definitions b) ∧
      nameOf definitions d k = .error fault := by
  induction js with
  | nil => cases h
  | cons j js ih =>
    rw [List.mapM_cons] at h
    rcases bind_eq_error.mp h with first | ⟨name, found, rest⟩
    · exact ⟨[], j, js, rfl, List.forall_mem_nil _, first⟩
    · obtain ⟨before, k, after, rfl, named, failed⟩ := ih (error_of_bind_pure rest)
      exact ⟨j :: before, k, after, rfl, List.forall_mem_cons.mpr ⟨⟨d, name, found⟩, named⟩, failed⟩

/-- A search fails at a schema itself, or as it fails at one that it waits for. -/
theorem settled_or_awaits (h : nameOf definitions (d + 1) j = .error fault) :
    step definitions j = .settled (.error fault) ∨
      ∃ k, Awaits definitions j k ∧ nameOf definitions d k = .error fault := by
  rw [nameOf_succ] at h
  cases next : step definitions j with
  | settled result =>
    rw [next] at h
    exact .inl (congrArg Step.settled h)
  | reference k =>
    rw [next] at h
    exact .inr ⟨k, .reference next, h⟩
  | within opening k =>
    rw [next, Step.name] at h
    exact .inr ⟨k, .within next, error_of_bind_pure h⟩
  | union ks =>
    rw [next, Step.name] at h
    obtain ⟨before, k, after, rfl, named, failed⟩ := exists_of_mapM_nameOf (error_of_bind_pure h)
    exact .inr ⟨k, .union next named, failed⟩

theorem step_tells (next : step definitions j = .settled (.error fault)) : Tells j fault := by
  have goes := goes_step definitions j
  rw [next] at goes
  cases goes with
  | settled tells => exact tells fault rfl

theorem step_ne_tooDeep : step definitions j ≠ .settled (.error .tooDeep) := by
  intro next
  cases step_tells next

/-! ### Faults -/

/-- A search that fails, and not for its depth, fails at a schema that it gets to. -/
theorem exists_of_nameOf_eq_error (other : fault ≠ .tooDeep)
    (h : nameOf definitions d j = .error fault) :
    ∃ k, Reaches definitions j k ∧ step definitions k = .settled (.error fault) := by
  induction d generalizing j with
  | zero => exact absurd (Except.error.inj h).symm other
  | succ d ih =>
    rcases settled_or_awaits h with settled | ⟨k, awaits, failed⟩
    · exact ⟨j, .refl, settled⟩
    · obtain ⟨l, reaches, settled⟩ := ih failed
      exact ⟨l, .head awaits reaches, settled⟩

/-- A search that gets to a schema with a fault fails for it, if it is long enough. -/
theorem nameOf_of_reaches (reaches : Reaches definitions j k)
    (settled : step definitions k = .settled (.error fault)) :
    ∃ d, nameOf definitions d j = .error fault := by
  have other : fault ≠ .tooDeep := by
    rintro rfl
    exact step_ne_tooDeep settled
  induction reaches using Relation.ReflTransGen.head_induction_on with
  | refl => exact ⟨1, by rw [nameOf_succ, settled]; rfl⟩
  | @head i j awaits _ ih =>
    obtain ⟨d, failed⟩ := ih
    have lasting {e : Nat} (le : d ≤ e) : nameOf definitions e j = .error fault := by
      refine (nameOf_of_le le fun deep => other ?_).trans failed
      exact Except.error.inj (failed.symm.trans deep)
    -- the search is to be as long as all that is asked before takes
    cases awaits with
    | reference next => exact ⟨d + 1, by rw [nameOf_succ, next]; exact failed⟩
    | within next => exact ⟨d + 1, by rw [nameOf_succ, next, Step.name, failed]; rfl⟩
    | @union before after next named =>
      obtain ⟨e, found⟩ := exists_depth named
      refine ⟨max d e + 1, ?_⟩
      have all : (before ++ j :: after).mapM (nameOf definitions (max d e)) = .error fault := by
        refine mapM_append_eq_error (fun b among => ?_) (lasting (Nat.le_max_left d e))
        obtain ⟨name, found⟩ := found b among
        exact .inr ⟨name, ok_of_le (Nat.le_max_right d e) found⟩
      rw [nameOf_succ, next, Step.name, all]
      rfl

/-! ### Circles -/

/-- A schema on a circle is never named: the search for it goes on. -/
theorem nameOf_of_cycle (cycle : Relation.TransGen (Awaits definitions) j j) (d : Nat) :
    nameOf definitions d j = .error .tooDeep := by
  induction d generalizing j with
  | zero => rfl
  | succ d ih =>
    obtain ⟨k, awaits, rest⟩ := Relation.TransGen.head'_iff.mp cycle
    exact awaits.nameOf_eq_tooDeep (ih (.tail' rest awaits))

theorem Circular.nameOf (h : Circular definitions j) (d : Nat) :
    nameOf definitions d j = .error .tooDeep := by
  obtain ⟨k, reaches, cycle⟩ := h
  induction reaches using Relation.ReflTransGen.head_induction_on generalizing d with
  | refl => exact nameOf_of_cycle cycle d
  | head awaits _ ih =>
    cases d with
    | zero => rfl
    | succ d => exact awaits.nameOf_eq_tooDeep (ih d)

/-! ### How long to look -/

/-- The schema and the definitions, with all that is in them. -/
def schemas (definitions : List (Text × Json)) (j : Json) : List Json :=
  j.parts ++ partsOfMembers definitions

theorem Contains.mem_parts (h : Contains ms k) : k ∈ (object ms).parts := by
  refine List.mem_cons_of_mem _ (mem_partsOfMembers.mpr ?_)
  cases h with
  | member _ found => exact ⟨_, mem_of_lookup found, mem_parts_self _⟩
  | variant _ found among =>
    refine ⟨_, mem_of_lookup found, List.mem_cons_of_mem _ ?_⟩
    exact mem_partsOfItems.mpr ⟨_, among, mem_parts_self _⟩

/-- What a schema waits for is in it, or in the definitions. -/
theorem Awaits.exists_object (h : Awaits definitions j k) :
    ∃ ms, j = .object ms ∧ (Contains ms k ∨ ∃ key, lookup key definitions = some k ∧ k ≠ .null) := by
  have goes := goes_step definitions j
  cases h with
  | reference next =>
    rw [next] at goes
    cases goes with
    | reference same led notNull => exact ⟨_, same, .inr ⟨_, led, notNull⟩⟩
  | within next =>
    rw [next] at goes
    cases goes with
    | within same inner => exact ⟨_, same, .inl inner⟩
  | union next =>
    rw [next] at goes
    cases goes with
    | union same inner => exact ⟨_, same, .inl (inner k (List.mem_append_right _ List.mem_cons_self))⟩

theorem Awaits.mem_schemas {i : Json} (h : Awaits definitions j k) (among : j ∈ schemas definitions i) :
    k ∈ schemas definitions i := by
  obtain ⟨ms, rfl, inner | ⟨key, led, -⟩⟩ := h.exists_object
  · have inside := inner.mem_parts
    refine List.mem_append.mpr ((List.mem_append.mp among).imp (fun part => ?_) fun part => ?_)
    · exact parts_subset part inside
    · exact parts_subset_members part inside
  · refine List.mem_append_right _ (mem_partsOfMembers.mpr ?_)
    exact ⟨_, mem_of_lookup led, mem_parts_self k⟩

/-- A search that is still not over when it has gone through more schemas than there are has come back to
one of them. -/
theorem circular_of_visited {i : Json} {visited : List Json} (nodup : visited.Nodup)
    (before : ∀ v ∈ visited, Relation.TransGen (Awaits definitions) v j)
    (known : visited ⊆ schemas definitions i) (among : j ∈ schemas definitions i)
    (long : (schemas definitions i).length ≤ visited.length + d)
    (deep : nameOf definitions d j = .error .tooDeep) : Circular definitions j := by
  -- on the depth that is left: each step leaves one schema more that was visited
  induction d generalizing j visited with
  | zero =>
    by_cases again : j ∈ visited
    · exact ⟨j, .refl, before j again⟩
    -- all of them are visited, and another one
    · have fewer := (List.subperm_of_subset (List.nodup_cons.mpr ⟨again, nodup⟩)
        (List.cons_subset.mpr ⟨among, known⟩)).length_le
      rw [List.length_cons] at fewer
      omega
  | succ d ih =>
    by_cases again : j ∈ visited
    · exact ⟨j, .refl, before j again⟩
    rcases settled_or_awaits deep with settled | ⟨k, awaits, deep⟩
    · exact absurd settled step_ne_tooDeep
    have before : ∀ v ∈ j :: visited, Relation.TransGen (Awaits definitions) v k :=
      List.forall_mem_cons.mpr ⟨.single awaits, fun v seen => (before v seen).tail awaits⟩
    obtain ⟨l, reaches, cycle⟩ := ih (List.nodup_cons.mpr ⟨again, nodup⟩) before
      (List.cons_subset.mpr ⟨among, known⟩) (awaits.mem_schemas among)
      (by rw [List.length_cons]; omega) deep
    exact ⟨l, .head awaits reaches, cycle⟩

/-- A search that is as long as there are schemas is over, unless it goes in a circle. -/
theorem nameOf_eq_tooDeep_iff (long : (schemas definitions j).length ≤ d) :
    nameOf definitions d j = .error .tooDeep ↔ Circular definitions j := by
  refine ⟨fun deep => ?_, fun circular => circular.nameOf d⟩
  refine circular_of_visited List.nodup_nil (List.forall_mem_nil _) (List.nil_subset _)
    (List.mem_append_left _ (mem_parts_self j)) ?_ deep
  rw [List.length_nil, Nat.zero_add]
  exact long

/-- A search that is as long as there are schemas fails for the fault of a schema that it gets to. -/
theorem nameOf_eq_error_iff (long : (schemas definitions j).length ≤ d) (other : fault ≠ .tooDeep) :
    nameOf definitions d j = .error fault ↔
      ∃ k, Reaches definitions j k ∧ step definitions k = .settled (.error fault) := by
  refine ⟨exists_of_nameOf_eq_error other, ?_⟩
  rintro ⟨k, reaches, settled⟩
  obtain ⟨e, failed⟩ := nameOf_of_reaches reaches settled
  have ended : nameOf definitions d j ≠ .error .tooDeep := by
    intro deep
    have circular := (nameOf_eq_tooDeep_iff long).mp deep
    exact other (Except.error.inj (failed.symm.trans (circular.nameOf e)))
  have ended' : nameOf definitions e j ≠ .error .tooDeep := by
    rw [failed]
    exact fun same => other (Except.error.inj same)
  rw [← nameOf_of_le (Nat.le_max_left d e) ended, nameOf_of_le (Nat.le_max_right d e) ended', failed]

/-! ### Well-formed schemas -/

/-- The search stays among schemas that are well-formed. -/
theorem Awaits.formed (h : Awaits definitions j k) (formed : Formed j)
    (defined : ∀ key k, lookup key definitions = some k → k = .null ∨ Formed k) : Formed k := by
  obtain ⟨ms, rfl, inner | ⟨key, led, notNull⟩⟩ := h.exists_object
  · cases formed with
    | intro _ all => exact all k inner
  · exact (defined key k led).resolve_left notNull

theorem Reaches.formed (h : Reaches definitions j k) (formed : Formed j)
    (defined : ∀ key k, lookup key definitions = some k → k = .null ∨ Formed k) : Formed k := by
  induction h with
  | refl => exact formed
  | tail _ awaits ih => exact awaits.formed ih defined

end TypeTag

end GuardedTools
