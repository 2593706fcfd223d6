import GuardedTools.Proofs.Shape.Accepted
import GuardedTools.Proofs.Shape.Naming

/-!
# Alternatives

Alternatives are written without repetitions, and schemas are compared with their keys in order.  So what
a schema refers to and what it accepts must not depend on that order (`Definitions.refers_sortKeys`,
`Definitions.accepts_congr`); then a value that one of several schemas accepts is accepted by all of them
as alternatives (`Definitions.one_anyOf`).
-/

namespace GuardedTools

namespace Definitions

open Json

/-! ### The order of keys -/

section Order

variable {ρ : Text → Text}

/-- Changing values under keys and putting keys in order can be done in either order. -/
theorem map_sorted (f : Text → Json → Json) (ms : List (Text × Json)) :
    (ms.mergeSort fun a b => Text.le a.1 b.1).map (fun m => (m.1, f m.1 m.2))
      = (ms.map fun m => (m.1, f m.1 m.2)).mergeSort fun a b => Text.le a.1 b.1 :=
  List.map_mergeSort fun _ _ _ _ => rfl

theorem renamedMapping_eq_map (ρ : Text → Text) (ms : List (Text × Json)) :
    renamedMapping ρ ms = ms.map fun m => (m.1, renamedTag ρ m.2) := by
  induction ms with
  | nil => rfl
  | cons m ms ih => rw [renamedMapping, List.map_cons, ih]

mutual

theorem sortKeys_renamed (j : Json) : (renamed ρ j).sortKeys = renamed ρ j.sortKeys := by
  cases j with
  | array js => rw [renamed, sortKeys, sortKeys, renamed, sortKeysItems_renamedItems js]
  | object ms =>
    rw [renamed, sortKeys, sortKeys, renamed, sortKeysMembers_renamedMembers .schema ms,
      renamedMembers_eq_map, renamedMembers_eq_map, map_sorted]
  | _ => rfl

theorem sortKeysItems_renamedItems (js : List Json) :
    sortKeysItems (renamedItems ρ js) = renamedItems ρ (sortKeysItems js) := by
  cases js with
  | nil => rfl
  | cons j js =>
    rw [renamedItems, sortKeysItems, sortKeysItems, renamedItems, sortKeys_renamed j,
      sortKeysItems_renamedItems js]

theorem sortKeysMembers_renamedMembers (part : Part) (ms : List (Text × Json)) :
    sortKeysMembers (renamedMembers ρ part ms) = renamedMembers ρ part (sortKeysMembers ms) := by
  match ms with
  | [] => rfl
  | (key, j) :: ms =>
    rw [renamedMembers, sortKeysMembers, sortKeysMembers, renamedMembers, sortKeys_renamedMember part key j,
      sortKeysMembers_renamedMembers part ms]

theorem sortKeys_renamedMember (part : Part) (key : Text) (j : Json) :
    (renamedMember ρ part key j).sortKeys = renamedMember ρ part key j.sortKeys := by
  cases j with
  | text t => rfl
  | array js =>
    rw [renamedMember, sortKeys, sortKeys, renamedMember]
    split
    · rfl
    · rw [sortKeysItems_renamedItems js]
  | object ms =>
    rw [renamedMember, sortKeys, sortKeys, renamedMember]
    split
    · rw [sortKeysMembers_renamedMapping ms, renamedMapping_eq_map, renamedMapping_eq_map,
        map_sorted fun _ => renamedTag ρ]
    · rw [sortKeysMembers_renamedMembers _ ms, renamedMembers_eq_map, renamedMembers_eq_map, map_sorted]
  | _ => rfl

theorem sortKeysMembers_renamedMapping (ms : List (Text × Json)) :
    sortKeysMembers (renamedMapping ρ ms) = renamedMapping ρ (sortKeysMembers ms) := by
  match ms with
  | [] => rfl
  | (tag, j) :: ms =>
    rw [renamedMapping, sortKeysMembers, sortKeysMembers, renamedMapping, sortKeys_renamedTag j,
      sortKeysMembers_renamedMapping ms]

theorem sortKeys_renamedTag (j : Json) : (renamedTag ρ j).sortKeys = renamedTag ρ j.sortKeys := by
  cases j with
  | object ms =>
    rw [renamedTag, sortKeys, sortKeys, renamedTag, sortKeysMembers_renamedMembers .schema ms,
      renamedMembers_eq_map, renamedMembers_eq_map, map_sorted]
  | _ => rfl

end

/-- Schemas with the same members, whatever their order, accept the same. -/
theorem accepts_congr {N : Naming} {j k v : Json} (same : j.sortKeys = k.sortKeys) (h : Accepts N j v) :
    Accepts N k v := by
  rw [Accepts, sortKeys_renamed, same, ← sortKeys_renamed] at h
  exact h

end Order

section Refers

variable {P : Text → Prop} {key : Text} {j k : Json} {ms ns : List (Text × Json)} {js ks : List Json}

theorem refersMembers_object : RefersMembers P [(key, .object ms)] ↔ RefersMembers P ms := by
  rw [RefersMembers, RefersMembers]
  simp only [referenceTextsMembers, referenceTexts, List.append_nil]

theorem refersMembers_perm (h : ms.Perm ns) : RefersMembers P ms ↔ RefersMembers P ns := by
  rw [refersMembers_iff, refersMembers_iff]
  exact ⟨fun all m member => all m (h.mem_iff.mpr member), fun all m member => all m (h.mem_iff.mp member)⟩

mutual

theorem refers_sortKeys (j : Json) : Refers P j.sortKeys ↔ Refers P j := by
  cases j with
  | array js => rw [sortKeys, refers_array, refers_array, refers_sortKeysItems js]
  | object ms =>
    rw [sortKeys, refers_object, refers_object, refersMembers_perm (List.mergeSort_perm _ _),
      refers_sortKeysMembers ms]
  | _ => exact Iff.rfl

theorem refers_sortKeysItems (js : List Json) :
    (∀ k ∈ sortKeysItems js, Refers P k) ↔ ∀ k ∈ js, Refers P k := by
  cases js with
  | nil => exact Iff.rfl
  | cons j js =>
    rw [sortKeysItems, List.forall_mem_cons, List.forall_mem_cons, refers_sortKeys j,
      refers_sortKeysItems js]

theorem refers_sortKeysMembers (ms : List (Text × Json)) :
    RefersMembers P (sortKeysMembers ms) ↔ RefersMembers P ms := by
  match ms with
  | [] => exact Iff.rfl
  | (key, j) :: ms =>
    rw [sortKeysMembers, refersMembers_cons, @refersMembers_cons P ms, refers_sortKeysMember key j,
      refers_sortKeysMembers ms]

theorem refers_sortKeysMember (key : Text) (j : Json) :
    RefersMembers P [(key, j.sortKeys)] ↔ RefersMembers P [(key, j)] := by
  cases j with
  | array js =>
    rw [sortKeys]
    by_cases examples : key = "examples"
    · -- nothing stands as a reference among examples
      rw [RefersMembers, RefersMembers]
      simp only [referenceTextsMembers, if_pos examples]
    · rw [refersMembers_array examples, refersMembers_array examples, refers_sortKeysItems js]
  | object ms =>
    rw [sortKeys, refersMembers_object, refersMembers_object,
      refersMembers_perm (List.mergeSort_perm _ _), refers_sortKeysMembers ms]
  | _ => exact Iff.rfl

end

/-- Whether schemas or references stand under a key. -/
def leadsOn (key : Text) : Bool :=
  match Keyword.of? key with
  | some .ref | some .anyOf | some .oneOf | some .items | some .prefixItems | some .properties
  | some .additionalProperties | some .patternProperties | some .propertyNames => true
  | _ => false

/-- Everything that the keywords of a schema refer to is right. -/
def Asks (P : Text → Prop) (j : Json) : Prop :=
  ∀ ms, j = .object ms → ∀ m ∈ ms, leadsOn m.1 = true → RefersMembers P [m]

theorem asks_object : Asks P (.object ms) ↔ ∀ m ∈ ms, leadsOn m.1 = true → RefersMembers P [m] := by
  constructor
  · exact fun h => h ms rfl
  · rintro h _ ⟨⟩
    exact h

theorem asks_of_refers (h : Refers P j) : Asks P j := by
  rintro ms rfl m member -
  exact refersMembers_iff.mp h m member

/-- It does not depend on the order of keys. -/
theorem Asks.congr (same : j.sortKeys = k.sortKeys) (h : Asks P j) : Asks P k := by
  rintro ms rfl m member keyword
  cases j with
  | object ns =>
    rw [sortKeys_object, sortKeys_object, Json.object.injEq] at same
    have among : (m.1, m.2.sortKeys) ∈ ns.map fun n => (n.1, n.2.sortKeys) := by
      rw [← (sortedMembers_perm ns).mem_iff, same, (sortedMembers_perm ms).mem_iff]
      exact List.mem_map_of_mem member
    obtain ⟨n, before, equal⟩ := List.mem_map.mp among
    obtain ⟨sameKey, sameValue⟩ := Prod.mk.inj equal
    have refers : RefersMembers P [(n.1, n.2.sortKeys)] :=
      (refers_sortKeysMember n.1 n.2).mpr (asks_object.mp h n before (sameKey ▸ keyword))
    rw [sameKey, sameValue] at refers
    exact (refers_sortKeysMember m.1 m.2).mp refers
  | _ => cases same

/-- Notes beside a schema are no keywords. -/
def AreNotes (ns : List (Text × Json)) : Prop := ∀ n ∈ ns, Keyword.of? n.1 = none

theorem ne_of_note {name : Text} (note : Keyword.of? key = none)
    (keyword : (Keyword.of? name).isSome = true) : key ≠ name := by
  rintro rfl
  rw [note] at keyword
  cases keyword

theorem leadsOn_of_note (note : Keyword.of? key = none) : leadsOn key = false := by
  rw [leadsOn, note]

theorem Asks.of_withMembers (notes : AreNotes ns) (h : Asks P ((Json.object ms).withMembers ns)) :
    Asks P (.object ms) := by
  refine asks_object.mpr fun m member leads => ?_
  refine asks_object.mp h m (mem_foldl_put member fun n note same => ?_) leads
  rw [← same, leadsOn_of_note (notes n note)] at leads
  cases leads

theorem Asks.of_without (plain : leadsOn key = false) (h : Asks P ((Json.object ms).without key)) :
    Asks P (.object ms) := by
  refine asks_object.mpr fun m member leads => asks_object.mp h m ?_ leads
  refine List.mem_filter.mpr ⟨member, ?_⟩
  have other : m.1 ≠ key := by
    rintro same
    rw [same, plain] at leads
    cases leads
  exact bne_iff_ne.mpr other

end Refers

/-! ### One of several schemas -/

section Alternatives

variable {P : Text → Prop} {G : Json → Prop} {j k : Json} {ms ns : List (Text × Json)} {js ks : List Json}

/-- What is written once is one of the schemas, with its keys in some order. -/
theorem exists_mem_distinct (member : j ∈ js) : ∃ k ∈ distinct js, k.sortKeys = j.sortKeys := by
  have kept : ∀ (ls ks : List Json), (j ∈ ls ∨ ∃ k ∈ ks, k.sortKeys = j.sortKeys) →
      ∃ k ∈ ls.foldl (fun kept j => if kept.any (fun k => k.sortKeys.same j.sortKeys) then kept
        else kept ++ [j]) ks, k.sortKeys = j.sortKeys := by
    intro ls
    induction ls with
    | nil =>
      intro ks h
      exact h.resolve_left List.not_mem_nil
    | cons l ls ih =>
      intro ks h
      apply ih
      rcases h with among | ⟨k, before, same⟩
      · rcases List.mem_cons.mp among with rfl | among
        · refine Or.inr ?_
          dsimp only
          split
          next present =>
            obtain ⟨k, before, same⟩ := List.any_eq_true.mp present
            exact ⟨k, before, eq_of_same same⟩
          next => exact ⟨j, by simp, rfl⟩
        · exact Or.inl among
      · refine Or.inr ⟨k, ?_, same⟩
        dsimp only
        split
        · exact before
        · exact List.mem_append_left _ before
  exact kept js [] (Or.inl member)

/-- One of the alternatives of a schema is good. -/
def One (G : Json → Prop) (j : Json) : Prop := ∃ k ∈ alternatives j, G k

/-- All alternatives of a schema are. -/
def Each (G : Json → Prop) (j : Json) : Prop := ∀ k ∈ alternatives j, G k

theorem one_of_isPlain (plain : IsPlain j) : One G j ↔ G j := by
  rw [One, IsSchema.alternatives_eq plain]
  simp

theorem each_of_isPlain (plain : IsPlain j) : Each G j ↔ G j := by
  rw [Each, IsSchema.alternatives_eq plain]
  simp

theorem one_alternatives : One G (.object [(("anyOf" : Text), Json.array js)]) ↔ ∃ k ∈ js, G k := by
  rw [One, IsSchema.alternatives_anyOf]

theorem each_alternatives : Each G (.object [(("anyOf" : Text), Json.array js)]) ↔ ∀ k ∈ js, G k := by
  rw [Each, IsSchema.alternatives_anyOf]

/-- Alternatives come to the distinct ones of all alternatives. -/
theorem anyOf_cases (js : List Json) :
    (∃ j, distinct (js.flatMap alternatives) = [j] ∧ anyOf js = j) ∨
      anyOf js = .object [(("anyOf" : Text), Json.array (distinct (js.flatMap alternatives)))] := by
  unfold anyOf
  generalize distinct (js.flatMap alternatives) = ks
  obtain _ | ⟨k, _ | ⟨l, ks⟩⟩ := ks
  · exact Or.inr rfl
  · exact Or.inl ⟨k, rfl, rfl⟩
  · exact Or.inr rfl

theorem isPlain_of_mem_distinct (schemas : ∀ j ∈ js, IsSchema j)
    (member : k ∈ distinct (js.flatMap alternatives)) : IsPlain k := by
  obtain ⟨j, among, member⟩ := List.mem_flatMap.mp (mem_of_mem_distinct member)
  exact (schemas j among).isPlain_of_mem member

/-- What is good among several schemas is good among them as alternatives. -/
theorem one_anyOf (congr : ∀ {j k : Json}, j.sortKeys = k.sortKeys → G j → G k)
    (schemas : ∀ j ∈ js, IsSchema j) (member : j ∈ js) (h : One G j) : One G (anyOf js) := by
  obtain ⟨k, among, good⟩ := h
  obtain ⟨l, kept, same⟩ := exists_mem_distinct (List.mem_flatMap.mpr ⟨j, member, among⟩)
  have plain : IsPlain l := isPlain_of_mem_distinct schemas kept
  rcases anyOf_cases js with ⟨m, single, is⟩ | several
  · rw [single, List.mem_singleton] at kept
    rw [is, ← kept, one_of_isPlain plain]
    exact congr same.symm good
  · rw [several, one_alternatives]
    exact ⟨l, kept, congr same.symm good⟩

theorem each_of_refers (h : Refers P j) : Each (Asks P) j :=
  fun _ member => asks_of_refers (IsSchema.refers_of_mem h member)

end Alternatives

/-! ### Notes -/

section Notes

variable {N : Naming} {P : Text → Prop} {key : Text} {j k v : Json} {ms ns : List (Text × Json)}

/-- What a member says depends on the keywords beside it only. -/
theorem Holds.congr (alike : Alike ms ns) (h : Holds N ms key j v) : Holds N ns key j v := by
  refine h.mono fun n holds => ?_
  rw [← alike.holdsMember]
  exact holds

/-- Notes change nothing about what is accepted. -/
theorem accepts_withMembers (notes : AreNotes ns) (h : Accepts N (.object ms) v) :
    Accepts N ((Json.object ms).withMembers ns) v := by
  refine accepts_object_iff.mpr fun m member => ?_
  have alike : Alike ms (ns.foldl (fun ms n => put n.1 n.2 ms) ms) :=
    .of_keywords fun key keyword =>
      (lookup_foldl_put fun n note => ne_of_note (notes n note) keyword).symm
  rcases mem_of_mem_foldl_put member with note | before
  · exact holds_note (notes m note)
  · exact (accepts_object_iff.mp h m before).congr alike

theorem lookup_remove_ne {name : Text} (other : key ≠ name) : lookup name (remove key ms) = lookup name ms := by
  induction ms with
  | nil => rfl
  | cons m ms ih =>
    obtain ⟨k, x⟩ := m
    by_cases same : k = key
    · subst same
      have gone : remove k ((k, x) :: ms) = remove k ms := List.filter_cons_of_neg (by simp)
      rw [gone, ih, lookup, if_neg other]
    · have kept : remove key ((k, x) :: ms) = (k, x) :: remove key ms :=
        List.filter_cons_of_pos (by simpa using same)
      rw [kept, lookup, lookup, ih]

theorem accepts_without (note : Keyword.of? key = none) (h : Accepts N (.object ms) v) :
    Accepts N ((Json.object ms).without key) v := by
  refine accepts_object_iff.mpr fun m member => ?_
  have alike : Alike ms (remove key ms) := by
    refine .of_keywords fun name keyword => (lookup_remove_ne ?_).symm
    rintro rfl
    rw [note] at keyword
    cases keyword
  exact (accepts_object_iff.mp h m (List.mem_filter.mp member).1).congr alike

/-- Of what is asked of a text each part may be left out. -/
theorem accepts_text_without {t : Text} (h : Accepts N (.object ms) (.text t)) :
    Accepts N ((Json.object ms).without key) (.text t) := by
  refine accepts_object_iff.mpr fun m member => ?_
  refine (accepts_object_iff.mp h m (List.mem_filter.mp member).1).mono fun n holds => ?_
  unfold holdsMember at holds ⊢
  split at holds
  next keyword _ =>
    -- the keywords that ask about others beside them ask nothing of a text
    cases keyword <;> exact holds
  next => rfl

/-! ### Schemas that are good for a value -/

/-- A schema accepts a value if everything that it refers to is right, and if it is a reference then its
class is open to the value. -/
def Good (N : Naming) (P : Text → Prop) (isOpen : Nat → Prop) (v k : Json) : Prop :=
  (Asks P k → Accepts N k v) ∧ ∀ n, k = referenceTo n → isOpen n

variable {isOpen : Nat → Prop}

theorem eq_referenceTo {n : Nat} (h : j.sortKeys = (referenceTo n).sortKeys) : j = referenceTo n := by
  cases j with
  | object ms =>
    rw [sortKeys_object, referenceTo, sortKeys_object, Json.object.injEq] at h
    have lengths := (sortedMembers_perm ms).length_eq
    rw [h, List.length_map] at lengths
    obtain _ | ⟨⟨key, x⟩, _ | ⟨m, ms⟩⟩ := ms
    · simp [sortedMembers, sortKeysMembers] at lengths
    · simp only [sortedMembers, sortKeysMembers, List.mergeSort_singleton, List.cons.injEq,
        Prod.mk.injEq, and_true] at h
      obtain ⟨rfl, same⟩ := h
      cases x with
      | text t => rw [referenceTo, show t = _ from Json.text.inj same]
      | _ => cases same
    · simp [sortedMembers, sortKeysMembers] at lengths
  | _ => cases h

theorem Good.congr (same : j.sortKeys = k.sortKeys) (h : Good N P isOpen v j) : Good N P isOpen v k := by
  refine ⟨fun asks => accepts_congr same (h.1 (asks.congr same.symm)), ?_⟩
  rintro n rfl
  exact h.2 n (eq_referenceTo same)

/-- What has a member of another kind is no reference. -/
theorem good_of_member {x : Json} (member : (key, x) ∈ ms) (other : key ≠ "$ref")
    (h : Asks P (.object ms) → Accepts N (.object ms) v) : Good N P isOpen v (.object ms) := by
  refine ⟨h, fun n same => ?_⟩
  rw [referenceTo, Json.object.injEq] at same
  rw [same, List.mem_singleton] at member
  exact absurd (congrArg Prod.fst member) other

theorem accepts_of_one (schema : IsSchema j) (h : One (Good N P isOpen v) j) (asks : Each (Asks P) j) :
    Accepts N j v := by
  cases schema with
  | plain other =>
    have plain : IsPlain (.object _) := ⟨_, rfl, other⟩
    exact ((one_of_isPlain plain).mp h).1 ((each_of_isPlain plain).mp asks)
  | anyOf alternatives =>
    obtain ⟨k, among, good⟩ := one_alternatives.mp h
    refine accepts_object fun m member => ?_
    obtain rfl := List.mem_singleton.mp member
    exact holds_anyOf among (good.1 (each_alternatives.mp asks k among))

/-- With notes beside it a schema is more than a list of alternatives, and no reference. -/
theorem exists_note (notes : AreNotes ns) (some : ns ≠ []) :
    ∃ m ∈ ns.foldl (fun ms n => put n.1 n.2 ms) ms, Keyword.of? m.1 = none := by
  obtain ⟨n, member⟩ := List.exists_mem_of_ne_nil ns some
  obtain ⟨m, among, same⟩ : ∃ m ∈ ns.foldl (fun ms n => put n.1 n.2 ms) ms, m.1 = n.1 :=
    exists_mem_foldl_put member
  exact ⟨m, among, same ▸ notes n member⟩

theorem withMembers_nil (schema : IsSchema j) : j.withMembers [] = j := by
  cases schema <;> rfl

/-- Under keywords a schema with notes refers to the same as without them. -/
theorem each_of_withMembers (schema : IsSchema j) (notes : AreNotes ns)
    (h : Asks P (j.withMembers ns)) : Each (Asks P) j := by
  obtain ⟨ms, rfl⟩ : ∃ ms, j = .object ms := by cases schema <;> exact ⟨_, rfl⟩
  have asks : Asks P (.object ms) := .of_withMembers notes h
  cases schema with
  | plain other => exact (each_of_isPlain ⟨_, rfl, other⟩).mpr asks
  | anyOf alternatives =>
    have leads : leadsOn "anyOf" = true := by simp [leadsOn, Keyword.table]
    exact each_of_refers (asks_object.mp asks _ List.mem_cons_self leads)

/-- A schema with notes is as good as without them. -/
theorem one_withMembers (schema : IsSchema j) (notes : AreNotes ns) (h : One (Good N P isOpen v) j) :
    One (Good N P isOpen v) (j.withMembers ns) := by
  by_cases bare : ns = []
  · rw [bare, withMembers_nil schema]
    exact h
  · have accepted := accepts_of_one schema h
    obtain ⟨ms, rfl⟩ : ∃ ms, j = .object ms := by cases schema <;> exact ⟨_, rfl⟩
    obtain ⟨m, member, note⟩ : ∃ m ∈ ns.foldl (fun ms n => put n.1 n.2 ms) ms, Keyword.of? m.1 = none :=
      exists_note notes bare
    have plain := IsSchema.isPlain_of_member member (ne_of_note note (by simp [Keyword.table]))
    rw [Json.withMembers, one_of_isPlain plain]
    refine good_of_member member (ne_of_note note (by simp [Keyword.table])) fun asks => ?_
    exact accepts_withMembers notes (accepted (each_of_withMembers schema notes asks))

theorem each_of_without (schema : IsSchema j) (note : leadsOn key = false)
    (h : Refers P (j.without key)) : Each (Asks P) j := by
  cases schema with
  | plain other => exact (each_of_isPlain ⟨_, rfl, other⟩).mpr (.of_without note (asks_of_refers h))
  | @anyOf js alternatives =>
    have kept : (Json.object [(("anyOf" : Text), Json.array js)]).without key
        = .object [(("anyOf" : Text), Json.array js)] := by
      have other : ("anyOf" : Text) ≠ key := by
        rintro rfl
        cases note
      have stays : (("anyOf" : Text) != key) = true := bne_iff_ne.mpr other
      rw [Json.without, remove]
      simp only [List.filter_cons, stays, if_true, List.filter_nil]
    exact each_of_refers (kept ▸ h)

end Notes

end Definitions

end GuardedTools
