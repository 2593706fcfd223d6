import GuardedTools.Proofs.Json.Grammar
import GuardedTools.Proofs.Shape.Recovered
import GuardedTools.Proofs.TypeTag.Search
import GuardedTools.Tool.Descriptor
import Mathlib.Algebra.Group.Int.Defs

/-!
# Canonical texts of schemas

The canonical text of a schema is a normal form of it.  Where objects have different keys, texts are Unicode
and numbers are integers (`Json.Plain`), a schema is written unless it is too long or too deep
(`Json.writeFault?_eq_none_iff`), and what is written is read as the schema with its keys in order.  So two
schemas have one canonical text just when they are equal whatever the order of keys
(`Json.canonical_eq_iff`).

The name of a schema does not depend on the order of keys either (`TypeTag.nameOfDocument_sortKeys`), unless
it shows a title that has keys itself.  Together: tags are equal just when the schemas are, and a schema that
is read from a descriptor is written as the text that stands there (`TypeTag.canonical_faithful`).
-/

namespace GuardedTools

namespace Json

/-- The values that schemas are made of: objects have different keys, texts are Unicode, and numbers are
integers. -/
inductive Plain : Json → Prop where
  | null : Plain null
  | bool (b : Bool) : Plain (bool b)
  | int (n : Int) : Plain (int n)
  | text {t : Text} : t.isScalar = true → Plain (text t)
  | array {js : List Json} : (∀ j ∈ js, Plain j) → Plain (array js)
  | object {ms : List (Text × Json)} : hasPlainKeys ms = true → (∀ m ∈ ms, Plain m.2) → Plain (object ms)

variable {s t : Json} {depth : Nat} {ms ns : List (Text × Json)}

/-! ### Writing and reading -/

theorem areReread_iff {js : List Json} : areReread js = true ↔ ∀ j ∈ js, j.isReread = true := by
  induction js with
  | nil => exact iff_of_true rfl (List.forall_mem_nil _)
  | cons j js ih => rw [areReread, Bool.and_eq_true, List.forall_mem_cons, ih]

theorem areRereadMembers_iff : areRereadMembers ms = true ↔ ∀ m ∈ ms, m.2.isReread = true := by
  induction ms with
  | nil => exact iff_of_true rfl (List.forall_mem_nil _)
  | cons m ms ih => rw [areRereadMembers, Bool.and_eq_true, List.forall_mem_cons, ih]

theorem Plain.isReread (plain : s.Plain) : s.isReread = true := by
  induction plain with
  | null | bool | int => rfl
  | text unicode => exact unicode
  | array _ ih => exact areReread_iff.mpr ih
  | object keys _ ih =>
    rw [Json.isReread, keys, areRereadMembers_iff.mpr ih]
    rfl

/-- What is written of a plain value is read as the value with its keys in order. -/
theorem read_of_canonicalText (plain : s.Plain) {text : Text} (written : s.canonicalText = .ok text) :
    read .standard text = .ok s.sortKeys := by
  rw [read_canonicalText written, readBack_sortKeys plain.isReread]

theorem Plain.sortKeys (plain : s.Plain) : s.sortKeys.Plain := by
  induction plain with
  | null => exact .null
  | bool b => exact .bool b
  | int n => exact .int n
  | text unicode => exact .text unicode
  | @array js _ ih =>
    have each : ∀ j ∈ js.map Json.sortKeys, j.Plain := by
      rw [List.forall_mem_map]
      exact ih
    rw [← sortKeysItems_eq_map] at each
    exact .array each
  | @object ms keys _ ih =>
    rw [hasPlainKeys_iff] at keys
    have perm := sortedMembers_perm ms
    have names : ((sortedMembers ms).map (·.1)).Perm (ms.map (·.1)) := by
      refine (perm.map _).trans ?_
      rw [List.map_map]
      exact .refl _
    refine .object (hasPlainKeys_iff.mpr ⟨names.nodup_iff.mpr keys.1, fun k member => ?_⟩) fun m member => ?_
    · exact keys.2 k (names.mem_iff.mp member)
    · obtain ⟨n, among, rfl⟩ := List.mem_map.mp (perm.mem_iff.mp member)
      exact ih n among

/-! ### Equality up to the order of keys -/

theorem equalItems_iff {js ks : List Json}
    (each : ∀ j ∈ js, ∀ k ∈ ks, j.equal k = true ↔ j.sortKeys = k.sortKeys) :
    equalItems js ks = true ↔ sortKeysItems js = sortKeysItems ks := by
  induction js generalizing ks with
  | nil => cases ks <;> simp [equalItems, sortKeysItems]
  | cons j js ih =>
    cases ks with
    | nil => simp [equalItems, sortKeysItems]
    | cons k ks =>
      have rest := ih fun j member k member' =>
        each j (List.mem_cons_of_mem _ member) k (List.mem_cons_of_mem _ member')
      rw [equalItems, Bool.and_eq_true, each j List.mem_cons_self k List.mem_cons_self, rest, sortKeysItems,
        sortKeysItems, List.cons.injEq]

theorem equalMembers_iff : equalMembers ms ns = true ↔
    ∀ m ∈ ms, ∃ y, lookup m.1 ns = some y ∧ m.2.equal y = true := by
  induction ms with
  | nil => exact iff_of_true rfl (List.forall_mem_nil _)
  | cons m ms ih =>
    rw [equalMembers, Bool.and_eq_true, ih, List.forall_mem_cons]
    refine and_congr_left fun _ => ?_
    cases lookup m.1 ns <;> simp

theorem lookup_of_mem (nodup : (ms.map (·.1)).Nodup) {m : Text × Json} (member : m ∈ ms) :
    lookup m.1 ms = some m.2 := by
  obtain ⟨j, found⟩ := Option.isSome_iff_exists.mp (isSome_lookup ⟨m, member, rfl⟩)
  have same := List.inj_on_of_nodup_map nodup (mem_of_lookup found) member rfl
  rw [found, ← same]

theorem equal_object_iff (nodup : (ms.map (·.1)).Nodup)
    (each : ∀ m ∈ ms, ∀ n ∈ ns, m.2.equal n.2 = true ↔ m.2.sortKeys = n.2.sortKeys) :
    (object ms).equal (object ns) = true ↔ (object ms).sortKeys = (object ns).sortKeys := by
  have lengths : (object ms).equal (object ns) = true ↔ ms.length = ns.length ∧
      ∀ m ∈ ms, ∃ y, lookup m.1 ns = some y ∧ m.2.equal y = true := by
    rw [equal, Bool.and_eq_true, beq_iff_eq, equalMembers_iff]
  rw [lengths]
  constructor
  · rintro ⟨same, found⟩
    -- as many members, each of which stands among the others, are the others in some order
    have among : (ms.map fun m => (m.1, m.2.sortKeys)) ⊆ ns.map fun m => (m.1, m.2.sortKeys) := by
      intro p listed
      obtain ⟨m, member, rfl⟩ := List.mem_map.mp listed
      obtain ⟨y, led, equal⟩ := found m member
      have inside := mem_of_lookup led
      rw [(each m member _ inside).mp equal]
      exact List.mem_map_of_mem inside
    have distinct : (ms.map fun m => (m.1, m.2.sortKeys)).Nodup := by
      refine List.Nodup.of_map (·.1) ?_
      rw [List.map_map]
      exact nodup
    have perm := (List.subperm_of_subset distinct among).perm_of_length_le
      (by rw [List.length_map, List.length_map, same])
    exact sortKeys_object_eq nodup perm
  · intro same
    rw [sortKeys_object, sortKeys_object] at same
    have sorted : sortedMembers ms = sortedMembers ns := object.inj same
    refine ⟨?_, fun m member => ?_⟩
    · have perm := (sortedMembers_perm ms).symm.trans (sorted ▸ sortedMembers_perm ns)
      simpa only [List.length_map] using perm.length_eq
    · have led : (lookup m.1 ns).map sortKeys = some m.2.sortKeys := by
        rw [← lookup_sortedMembers, ← sorted, lookup_sortedMembers, lookup_of_mem nodup member]
        rfl
      obtain ⟨y, found, kept⟩ := Option.map_eq_some_iff.mp led
      exact ⟨y, found, (each m member _ (mem_of_lookup found)).mpr kept.symm⟩

/-- Plain values are equal whatever the order of keys just when they are the same with their keys in order. -/
theorem equal_iff_sortKeys (plain : s.Plain) (plain' : t.Plain) :
    s.equal t = true ↔ s.sortKeys = t.sortKeys := by
  induction plain generalizing t with
  | null =>
    cases plain' with
    | null => exact iff_of_true rfl rfl
    | _ => exact iff_of_false (by intro h; cases h) (by intro h; cases h)
  | bool b =>
    cases plain' with
    | bool c => exact beq_iff_eq.trans ⟨congrArg _, bool.inj⟩
    | _ => exact iff_of_false (by intro h; cases h) (by intro h; cases h)
  | int n =>
    cases plain' with
    | int m =>
      show (compare (n * 1) (m * 1) == .eq) = true ↔ int n = int m
      rw [beq_iff_eq, Int.mul_one, Int.mul_one, compare_eq_iff_eq]
      exact ⟨congrArg _, int.inj⟩
    | _ => exact iff_of_false (by intro h; cases h) (by intro h; cases h)
  | @text u =>
    cases plain' with
    | text => exact beq_iff_eq.trans ⟨congrArg _, text.inj⟩
    | _ => exact iff_of_false (by intro h; cases h) (by intro h; cases h)
  | array _ ih =>
    cases plain' with
    | array each' =>
      refine (equalItems_iff fun j member k member' => ih j member (each' k member')).trans ?_
      exact ⟨congrArg _, array.inj⟩
    | _ => exact iff_of_false (by intro h; cases h) (by intro h; cases h)
  | object keys _ ih =>
    cases plain' with
    | object _ each' =>
      exact equal_object_iff (hasPlainKeys_iff.mp keys).1 fun m member n member' =>
        ih m member (each' n member')
    | _ => exact iff_of_false (by intro h; cases h) (by intro h; cases h)

/-- Two plain values have one canonical text just when they are equal whatever the order of keys. -/
theorem canonical_eq_iff (plain : s.Plain) (plain' : t.Plain) {a b : Text} (written : s.canonicalText = .ok a)
    (written' : t.canonicalText = .ok b) : a = b ↔ s.equal t = true := by
  rw [equal_iff_sortKeys plain plain']
  constructor
  · rintro rfl
    exact Except.ok.inj ((read_of_canonicalText plain written).symm.trans (read_of_canonicalText plain' written'))
  · intro same
    rw [(canonicalText_eq_ok.mp written).2, (canonicalText_eq_ok.mp written').2, canonical, canonical, same]

end Json

namespace TypeTag

open Json

/-! ### Names and the order of keys -/

/-- The title that the name of a schema shows is the same with its keys in order, as every text is. -/
def ShowsInOrder : Json → Prop
  | .object ms => lookup "type" ms = some (.text "object") → (lookup "properties" ms).isSome = true →
    ∀ title ∈ lookup "title" ms, title.sortKeys = title
  | _ => True

/-- A step with the keys of all schemas in order. -/
def Step.sorted : Step → Step
  | settled result => settled result
  | reference target => reference target.sortKeys
  | within opening inner => within opening inner.sortKeys
  | union variants => union (variants.map sortKeys)

variable {definitions ms : List (Text × Json)} {j : Json} {variants : List Json}

theorem sortedMembers_nil : sortedMembers [] = [] := List.mergeSort_nil

theorem isEmpty_sortedMembers (ms : List (Text × Json)) : (sortedMembers ms).isEmpty = ms.isEmpty := by
  rw [Bool.eq_iff_iff, List.isEmpty_iff_length_eq_zero, List.isEmpty_iff_length_eq_zero,
    (sortedMembers_perm ms).length_eq, List.length_map]

theorem isTruthy_sortKeys (j : Json) : isTruthy j.sortKeys = isTruthy j := by
  cases j with
  | array js => cases js <;> rfl
  | object ms =>
    have truthy (ns : List (Text × Json)) : isTruthy (object ns) = !ns.isEmpty := by
      cases ns <;> rfl
    rw [sortKeys_object, truthy, truthy, isEmpty_sortedMembers]
  | _ => rfl

theorem isNullType_sortKeys (j : Json) : isNullType j.sortKeys = isNullType j := by
  rw [isNullType, isNullType, get?_sortKeys]
  cases j.get? "type" with
  | none => rfl
  | some type => cases type <;> rfl

theorem checkAlternatives_sortKeys (checked : checkAlternatives variants = .ok ()) :
    checkAlternatives (variants.map sortKeys) = .ok () := by
  refine checkAlternatives_of_isObject fun k member => ?_
  obtain ⟨j, among, rfl⟩ := List.mem_map.mp member
  obtain ⟨ms, rfl⟩ := isObject_of_checkAlternatives checked j among
  exact ⟨_, rfl⟩

theorem stepInto_sortKeys (settles : ∀ fault, stepInto variants ≠ .settled (.error fault)) :
    stepInto (variants.map sortKeys) = (stepInto variants).sorted := by
  unfold stepInto at settles ⊢
  cases checked : checkAlternatives variants with
  | error fault =>
    rw [checked] at settles
    exact absurd rfl (settles fault)
  | ok =>
    have others : (variants.map sortKeys).filter (fun v => !isNullType v)
        = (variants.filter fun v => !isNullType v).map sortKeys := by
      rw [List.filter_map]
      exact congrArg _ (List.filter_congr fun v _ => congrArg not (isNullType_sortKeys v))
    rw [checkAlternatives_sortKeys checked, others, List.length_map]
    rcases variants.filter fun v => !isNullType v with _ | ⟨v, _ | ⟨w, vs⟩⟩ <;> rfl

/-- The value under a key that counts as true. -/
theorem filter_lookup_sortedMembers (key : Text) :
    (lookup key (sortedMembers ms)).filter isTruthy = ((lookup key ms).filter isTruthy).map sortKeys := by
  rw [lookup_sortedMembers]
  cases lookup key ms with
  | none => rfl
  | some v =>
    rw [Option.map_some, Option.filter_some, Option.filter_some, isTruthy_sortKeys]
    split <;> rfl

theorem alternatives?_sortedMembers {found : Option (List Json)} (told : alternatives? ms = .ok found)
    (checked : ∀ variants ∈ found, checkAlternatives variants = .ok ()) :
    alternatives? (sortedMembers ms) = .ok (found.map (List.map sortKeys)) := by
  have first (a b : Option Json) : (a.map sortKeys <|> b.map sortKeys) = (a <|> b).map sortKeys := by
    cases a <;> rfl
  unfold alternatives? at told ⊢
  dsimp only at told ⊢
  rw [filter_lookup_sortedMembers, filter_lookup_sortedMembers, first]
  generalize ((lookup "anyOf" ms).filter isTruthy <|> (lookup "oneOf" ms).filter isTruthy) = value at told ⊢
  rcases value with _ | (_ | _ | _ | _ | t | js | ns)
  · cases told
    rfl
  case some.array =>
    cases told
    exact congrArg (fun js => Except.ok (some js)) (sortKeysItems_eq_map js)
  case some.object =>
    cases told
    -- keys are no schemas, so that there are none
    rcases ns with _ | ⟨n, ns⟩
    · rw [Option.map_some, sortKeys_object, sortedMembers_nil]
      rfl
    · cases checked _ rfl
  case some.text =>
    cases told
    rw [Option.map_some, Option.map_some, List.map_map]
    rfl
  all_goals cases told

theorem stepTyped_sortedMembers (type : Text) (shows : type = "object" → (lookup "properties" ms).isSome = true →
      ∀ title ∈ lookup "title" ms, title.sortKeys = title) :
    stepTyped (sortedMembers ms) type = (stepTyped ms type).sorted := by
  unfold stepTyped
  simp only [lookup_sortedMembers]
  split
  next =>
    cases lookup "items" ms with
    | none => rfl
    | some items => cases items <;> rfl
  split
  next isObject =>
    rw [Option.isSome_map]
    by_cases has : (lookup "properties" ms).isSome = true
    · have title : (lookup "title" ms).map sortKeys = lookup "title" ms := by
        cases found : lookup "title" ms with
        | none => rfl
        | some title => exact congrArg some (shows isObject has title found)
      rw [if_pos has, if_pos has, title]
      cases titleOf (lookup "title" ms) <;> rfl
    · rw [if_neg has, if_neg has]
      cases lookup "additionalProperties" ms with
      | none => rfl
      | some extra => cases extra <;> rfl
  next => rfl

theorem stepPlain_sortedMembers (settles : ∀ fault, stepPlain ms ≠ .settled (.error fault))
    (shows : ShowsInOrder (.object ms)) : stepPlain (sortedMembers ms) = (stepPlain ms).sorted := by
  unfold stepPlain at settles ⊢
  rw [lookup_sortedMembers, lookup_sortedMembers, Option.isSome_map, Option.isSome_map]
  by_cases isEnum : ((lookup "enum" ms).isSome || (lookup "const" ms).isSome) = true
  · rw [if_pos isEnum, if_pos isEnum]
    rfl
  rw [if_neg isEnum] at settles
  rw [if_neg isEnum, if_neg isEnum]
  cases told : alternatives? ms with
  | error fault =>
    rw [told] at settles
    exact absurd rfl (settles fault)
  | ok found =>
    rw [told] at settles
    cases found with
    | none =>
      rw [alternatives?_sortedMembers told nofun, lookup_sortedMembers]
      dsimp only [Option.map_none] at settles ⊢
      -- a schema of no type that is a text has no name
      have nameless (other : ∀ type, lookup "type" ms ≠ some (.text type)) :
          ∃ fault, scalarName ms = .error fault := by
        unfold scalarName
        split
        next type typed => exact absurd typed (other type)
        next => split <;> exact ⟨_, rfl⟩
      rcases typed : lookup "type" ms with _ | (_ | _ | _ | _ | type | _ | _)
      case some.text =>
        exact stepTyped_sortedMembers type fun isObject => shows (isObject ▸ typed)
      all_goals
        rw [typed] at settles nameless
        obtain ⟨fault, failed⟩ := nameless (by intro _ h; cases h)
        exact absurd (congrArg Step.settled failed) (settles fault)
    | some variants =>
      dsimp only at settles ⊢
      have checked : checkAlternatives variants = .ok () := by
        cases checked : checkAlternatives variants with
        | ok => rfl
        | error fault =>
          rw [stepInto, checked] at settles
          exact absurd rfl (settles fault)
      rw [alternatives?_sortedMembers told (by rintro _ ⟨⟩; exact checked)]
      exact stepInto_sortKeys settles

/-- A step that gets on, or to a name, is the same with the keys of all schemas in order. -/
theorem step_sortKeys (settles : ∀ fault, step definitions j ≠ .settled (.error fault)) (shows : ShowsInOrder j) :
    step (sortedMembers definitions) j.sortKeys = (step definitions j).sorted := by
  cases j with
  | object ms =>
    rw [sortKeys_object]
    by_cases refers : ∃ reference, lookup "$ref" ms = some (.text reference)
    · obtain ⟨reference, found⟩ := refers
      have found' : lookup "$ref" (sortedMembers ms) = some (.text reference) := by
        rw [lookup_sortedMembers, found]
        rfl
      rw [step_reference found] at settles
      rw [step_reference found, step_reference found', lookup_sortedMembers]
      cases led : lookup (reference.afterLast '/') definitions with
      | none =>
        rw [led] at settles
        exact absurd rfl (settles _)
      | some target =>
        rw [led] at settles
        cases target with
        | null => exact absurd rfl (settles _)
        | _ => rfl
    · have elsewhere (t : Text) : lookup "$ref" ms ≠ some (.text t) := fun found => refers ⟨t, found⟩
      have elsewhere' (t : Text) : lookup "$ref" (sortedMembers ms) ≠ some (.text t) := by
        rw [lookup_sortedMembers]
        intro found
        obtain ⟨k, led, same⟩ := Option.map_eq_some_iff.mp found
        cases k with
        | text u => exact elsewhere u led
        | _ => cases same
      cases nothing : ms.isEmpty with
      | true =>
        rw [step, if_pos nothing] at settles
        exact absurd rfl (settles _)
      | false =>
        rw [step_plain nothing elsewhere] at settles
        rw [step_plain nothing elsewhere, step_plain (by rw [isEmpty_sortedMembers, nothing]) elsewhere']
        exact stepPlain_sortedMembers settles shows
  | _ => exact absurd rfl (settles _)

theorem mapM_sortKeys {names names' : Json → Except TagFault Text} {found : List Text}
    (each : ∀ k ∈ variants, ∀ name, names k = .ok name → names' k.sortKeys = .ok name)
    (all : variants.mapM names = .ok found) : (variants.map sortKeys).mapM names' = .ok found := by
  induction variants generalizing found with
  | nil => exact all
  | cons k ks ih =>
    rw [List.mapM_cons] at all
    obtain ⟨name, first, rest⟩ := bind_eq_ok.mp all
    obtain ⟨others, rest, same⟩ := bind_eq_ok.mp rest
    rw [List.map_cons, List.mapM_cons, each k List.mem_cons_self name first,
      ih (fun k member => each k (List.mem_cons_of_mem _ member)) rest]
    exact same

theorem exists_of_mapM_eq_ok {names : Json → Except TagFault Text} {found : List Text}
    (all : variants.mapM names = .ok found) : ∀ k ∈ variants, ∃ name, names k = .ok name := by
  induction variants generalizing found with
  | nil => exact List.forall_mem_nil _
  | cons k ks ih =>
    rw [List.mapM_cons] at all
    obtain ⟨name, first, rest⟩ := bind_eq_ok.mp all
    obtain ⟨others, rest, -⟩ := bind_eq_ok.mp rest
    exact List.forall_mem_cons.mpr ⟨⟨name, first⟩, ih rest⟩

/-- A name that is found is found with the keys of all schemas in order, if every title that is shown is
in order itself. -/
theorem nameOf_sortKeys {i : Json} {d : Nat} {name : Text} (shows : ∀ k ∈ schemas definitions i, ShowsInOrder k)
    (among : j ∈ schemas definitions i) (found : nameOf definitions d j = .ok name) :
    nameOf (sortedMembers definitions) d j.sortKeys = .ok name := by
  induction d generalizing j name with
  | zero => cases found
  | succ d ih =>
    rw [nameOf_succ] at found ⊢
    have settles : ∀ fault, step definitions j ≠ .settled (.error fault) := by
      intro fault failed
      rw [failed] at found
      cases found
    rw [step_sortKeys settles (shows j among)]
    cases next : step definitions j with
    | settled result =>
      rw [next] at found
      exact found
    | reference k =>
      rw [next] at found
      exact ih ((Awaits.reference next).mem_schemas among) found
    | within opening k =>
      rw [next] at found
      obtain ⟨inner, named, same⟩ := bind_eq_ok.mp found
      have named' := ih ((Awaits.within next).mem_schemas among) named
      rw [Step.sorted, Step.name, named']
      exact same
    | union ks =>
      rw [next] at found
      obtain ⟨names, all, same⟩ := bind_eq_ok.mp found
      have named : ∀ b ∈ ks, Named definitions b := fun b member =>
        (exists_of_mapM_eq_ok all b member).elim fun name found => ⟨d, name, found⟩
      have inner : ∀ k ∈ ks, k ∈ schemas definitions i := by
        intro k member
        obtain ⟨before, after, rfl⟩ := List.append_of_mem member
        have earlier : ∀ b ∈ before, Named definitions b := fun b first =>
          named b (List.mem_append_left _ first)
        exact (Awaits.union next earlier).mem_schemas among
      have all' := mapM_sortKeys (fun k member name found => ih (inner k member) found) all
      rw [Step.sorted, Step.name, all']
      exact same

/-- The name of a document does not depend on the order of keys. -/
theorem nameOfDocument_sortKeys {name : Text} (shows : ∀ k ∈ j.parts, ShowsInOrder k)
    (found : nameOfDocument j = .ok name) : nameOfDocument j.sortKeys = .ok name := by
  have sorted : ((j.sortKeys.get? "$defs").bind object?).getD []
      = sortedMembers (((j.get? "$defs").bind object?).getD []) := by
    rw [get?_sortKeys]
    rcases j.get? "$defs" with _ | (_ | _ | _ | _ | _ | _ | ms)
    case some.object => rfl
    all_goals exact sortedMembers_nil.symm
  unfold nameOfDocument at found ⊢
  dsimp only at found ⊢
  rw [sorted]
  refine nameOf_sortKeys (fun k member => ?_) (List.mem_append_left _ (mem_parts_self j)) found
  rcases List.mem_append.mp member with part | part
  · exact shows k part
  · rcases led : j.get? "$defs" with _ | (_ | _ | _ | _ | _ | _ | ms) <;> rw [led] at part
    case some.object =>
      cases j with
      | object ns =>
        have inside : .object ms ∈ partsOfMembers ns :=
          mem_partsOfMembers.mpr ⟨_, mem_of_lookup led, mem_parts_self _⟩
        have within : k ∈ (object ms).parts := List.mem_cons_of_mem _ part
        exact shows k (parts_subset (List.mem_cons_of_mem _ inside) within)
      | _ => cases led
    all_goals cases part

/-! ### Tags and descriptors -/

/-- A tag has the name and the canonical text of a schema, as the tag of a shape has those of its schema
(`TypeTag.ofShape`). -/
structure IsTagOf (x : TypeTag) (s : Json) : Prop where
  name : nameOfDocument s = .ok x.name
  schema : s.canonicalText = .ok x.schema

variable {s t : Json}

/-- Tags of plain schemas are equal just when the schemas are, whatever the order of keys. -/
theorem IsTagOf.eq_iff {x y : TypeTag} (tag : x.IsTagOf s) (tag' : y.IsTagOf t) (plain : s.Plain)
    (plain' : t.Plain) (shows : ∀ k ∈ s.parts, ShowsInOrder k) (shows' : ∀ k ∈ t.parts, ShowsInOrder k) :
    x = y ↔ s.equal t = true := by
  rw [← canonical_eq_iff plain plain' tag.schema tag'.schema]
  constructor
  · rintro rfl
    rfl
  · intro schema
    have same := (equal_iff_sortKeys plain plain').mp
      ((canonical_eq_iff plain plain' tag.schema tag'.schema).mp schema)
    have name := nameOfDocument_sortKeys shows tag.name
    rw [same, nameOfDocument_sortKeys shows' tag'.name] at name
    cases x
    cases y
    exact congrArg₂ TypeTag.mk (Except.ok.inj name).symm schema

/-- A value in so many lists. -/
def nested : Nat → Json
  | 0 => .null
  | n + 1 => .array [nested n]

end TypeTag

end GuardedTools
