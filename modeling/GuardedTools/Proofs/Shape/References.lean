import GuardedTools.Proofs.Shape.WellFormed
import GuardedTools.Proofs.Text
import GuardedTools.Shape.Schema

/-!
# References in published schemas

While a schema is made, what it refers to are classes that were found before, and within a class the
class itself (`Shape.published_spec`).  So nothing refers to a class that is found last, and if it is the
root of a schema it stands there itself (`Shape.schema_record`).
-/

namespace GuardedTools

mutual

theorem Json.eq_of_same {a b : Json} (h : a.same b = true) : a = b := by
  cases a with
  | array xs =>
    cases b with
    | array ys => exact congrArg _ (Json.eq_of_sameItems h)
    | _ => cases h
  | object ms =>
    cases b with
    | object ns => exact congrArg _ (Json.eq_of_sameMembers h)
    | _ => cases h
  | null => cases b <;> first | rfl | cases h
  | bool x => cases b <;> first | exact congrArg _ (eq_of_beq h) | cases h
  | int n => cases b <;> first | exact congrArg _ (eq_of_beq h) | cases h
  | float x => cases b <;> first | exact congrArg _ (eq_of_beq h) | cases h
  | text t => cases b <;> first | exact congrArg _ (eq_of_beq h) | cases h

theorem Json.eq_of_sameItems {xs ys : List Json} (h : Json.sameItems xs ys = true) : xs = ys := by
  match xs, ys with
  | [], [] => rfl
  | [], _ :: _ => cases h
  | _ :: _, [] => cases h
  | x :: xs, y :: ys =>
    rw [Json.sameItems, Bool.and_eq_true] at h
    rw [Json.eq_of_same h.1, Json.eq_of_sameItems h.2]

theorem Json.eq_of_sameMembers {ms ns : List (Text × Json)} (h : Json.sameMembers ms ns = true) :
    ms = ns := by
  match ms, ns with
  | [], [] => rfl
  | [], _ :: _ => cases h
  | _ :: _, [] => cases h
  | (k, x) :: ms, (l, y) :: ns =>
    rw [Json.sameMembers, Bool.and_eq_true, Bool.and_eq_true] at h
    rw [eq_of_beq h.1.1, Json.eq_of_same h.1.2, Json.eq_of_sameMembers h.2]

end

namespace Definitions

/-! ### The number of a reference -/

/-- A reference says the number of its class. -/
theorem numberOf?_reference (self : Option Nat) (n : Nat) :
    numberOf? self (referenceStart ++ Text.ofNat n) = some n := by
  have points : (referenceStart ++ Text.ofNat n).points
    = referenceStart.points ++ (Text.ofNat n).points := rfl
  have other : referenceStart ++ Text.ofNat n ≠ selfMark := by
    intro same
    have lengths := congrArg (fun t => t.points.length) same
    have long : referenceStart.points.length = 8 := rfl
    have short : selfMark.points.length = 1 := rfl
    simp only [points, List.length_append, long, short] at lengths
    omega
  have starts : (referenceStart ++ Text.ofNat n).startsWith referenceStart = true := by
    rw [Text.startsWith, points, List.isPrefixOf_iff_prefix]
    exact List.prefix_append _ _
  have digits : ((referenceStart ++ Text.ofNat n).drop referenceStart.length).points
      = (Text.ofNat n).points := by
    rw [Text.drop, points, Text.length, List.drop_left]
  rw [numberOf?, if_neg other, if_pos starts, digits,
    if_pos (List.all_eq_true.mpr fun p => Text.isDigit_of_mem_ofNat), Text.digitsToNat_ofNat]

/-! ### What stands as a reference -/

theorem referenceTextsItems_eq_flatMap (js : List Json) :
    referenceTextsItems js = js.flatMap referenceTexts := by
  induction js with
  | nil => rfl
  | cons j js ih => rw [referenceTextsItems, ih, List.flatMap_cons]

theorem referenceTextsMembers_cons (m : Text × Json) (ms : List (Text × Json)) :
    referenceTextsMembers (m :: ms) = referenceTextsMembers [m] ++ referenceTextsMembers ms := by
  obtain ⟨key, j⟩ := m
  cases j <;> simp [referenceTextsMembers]

/-- Everything that stands as a reference in a value is right. -/
def Refers (P : Text → Prop) (j : Json) : Prop := ∀ t ∈ referenceTexts j, P t

/-- Everything that stands as a reference among members is right. -/
def RefersMembers (P : Text → Prop) (ms : List (Text × Json)) : Prop :=
  ∀ t ∈ referenceTextsMembers ms, P t

section Refers

variable {P : Text → Prop} {key : Text} {j : Json} {ms ns : List (Text × Json)} {js : List Json}

theorem refers_object : Refers P (.object ms) ↔ RefersMembers P ms := Iff.rfl

theorem refers_array : Refers P (.array js) ↔ ∀ j ∈ js, Refers P j := by
  rw [Refers, referenceTexts, referenceTextsItems_eq_flatMap]
  simp only [List.mem_flatMap, Refers]
  exact ⟨fun h j member t found => h t ⟨j, member, found⟩,
    fun h t ⟨j, member, found⟩ => h j member t found⟩

@[simp] theorem refersMembers_nil : RefersMembers P [] := nofun

theorem refersMembers_cons {m : Text × Json} :
    RefersMembers P (m :: ms) ↔ RefersMembers P [m] ∧ RefersMembers P ms := by
  rw [RefersMembers, referenceTextsMembers_cons]
  exact List.forall_mem_append

theorem RefersMembers.cons {m : Text × Json} (first : RefersMembers P [m])
    (others : RefersMembers P ms) : RefersMembers P (m :: ms) :=
  refersMembers_cons.mpr ⟨first, others⟩

theorem refersMembers_iff : RefersMembers P ms ↔ ∀ m ∈ ms, RefersMembers P [m] := by
  induction ms with
  | nil => exact ⟨fun _ => nofun, fun _ => refersMembers_nil⟩
  | cons m ms ih => rw [refersMembers_cons, ih, List.forall_mem_cons]

theorem refersMembers_append :
    RefersMembers P (ms ++ ns) ↔ RefersMembers P ms ∧ RefersMembers P ns := by
  rw [refersMembers_iff, refersMembers_iff, refersMembers_iff, List.forall_mem_append]

theorem refers_text {t : Text} : Refers P (.text t) := nofun

/-- A member refers to what its value does, unless it is itself the reference. -/
theorem refersMembers_of_refers (other : key ≠ "$ref" ∨ j.text? = none) (h : Refers P j) :
    RefersMembers P [(key, j)] := by
  intro t member
  cases j with
  | text s =>
    rcases other with other | none
    · simp [referenceTextsMembers, other] at member
    · cases none
  | array js =>
    simp only [referenceTextsMembers, List.append_nil] at member
    split at member
    · cases member
    · exact h t member
  | object ms => exact h t (by simpa [referenceTextsMembers] using member)
  | _ => simp [referenceTextsMembers, referenceTexts] at member

theorem refersMembers_array (other : key ≠ "examples") :
    RefersMembers P [(key, .array js)] ↔ ∀ j ∈ js, Refers P j := by
  rw [← refers_array, RefersMembers, Refers]
  simp only [referenceTextsMembers, referenceTexts, if_neg other, List.append_nil]

/-- What stands under the key of references may stand under every key. -/
theorem RefersMembers.rekey (h : RefersMembers P [("$ref", j)]) : RefersMembers P [(key, j)] := by
  intro t member
  refine h t ?_
  cases j with
  | text s =>
    simp only [referenceTextsMembers, List.append_nil] at member ⊢
    split at member
    · exact member
    · cases member
  | array js =>
    simp only [referenceTextsMembers, List.append_nil] at member ⊢
    split at member
    · cases member
    · exact member
  | _ => exact member

theorem RefersMembers.lookup (h : RefersMembers P ms) (found : Json.lookup key ms = some j) :
    RefersMembers P [(key, j)] := by
  induction ms with
  | nil => cases found
  | cons m ms ih =>
    obtain ⟨k, x⟩ := m
    rw [refersMembers_cons] at h
    rw [Json.lookup] at found
    split at found
    next same => exact same ▸ Option.some.inj found ▸ h.1
    next => exact ih h.2 found

theorem RefersMembers.put (h : RefersMembers P ms) (new : RefersMembers P [(key, j)]) :
    RefersMembers P (Json.put key j ms) := by
  fun_induction Json.put key j ms with
  | case1 => exact new
  | case2 x ms =>
    rw [refersMembers_cons] at h ⊢
    exact ⟨new, h.2⟩
  | case3 k x ms other ih =>
    rw [refersMembers_cons] at h ⊢
    exact ⟨h.1, ih h.2⟩

theorem RefersMembers.foldl_put (h : RefersMembers P ms) (added : RefersMembers P ns) :
    RefersMembers P (ns.foldl (fun ms m => Json.put m.1 m.2 ms) ms) := by
  induction ns generalizing ms with
  | nil => exact h
  | cons n ns ih =>
    rw [refersMembers_cons] at added
    exact ih (h.put added.1) added.2

theorem Refers.withMembers (h : Refers P j) (added : RefersMembers P ns) :
    Refers P (j.withMembers ns) := by
  unfold Json.withMembers
  split
  · exact RefersMembers.foldl_put h added
  · exact h

theorem Refers.without (h : Refers P j) : Refers P (j.without key) := by
  unfold Json.without
  split
  · rw [refers_object, refersMembers_iff] at h ⊢
    exact fun m member => h m (List.mem_filter.mp member).1
  · exact h

theorem mem_of_mem_distinct (member : j ∈ Json.distinct js) : j ∈ js := by
  have kept : ∀ (ks : List Json), (∀ k ∈ ks, k ∈ js) → ∀ {ls : List Json}, (∀ l ∈ ls, l ∈ js) →
      j ∈ ls.foldl (fun kept j => if kept.any (fun k => k.sortKeys.same j.sortKeys) then kept
        else kept ++ [j]) ks → j ∈ js := by
    intro ks before ls
    induction ls generalizing ks with
    | nil => exact fun _ member => before j member
    | cons l ls ih =>
      intro among member
      rw [List.forall_mem_cons] at among
      refine ih _ ?_ among.2 member
      dsimp only
      split
      · exact before
      · exact List.forall_mem_append.mpr ⟨before, by simpa using among.1⟩
  exact kept [] nofun (fun l member => member) member

end Refers

/-- A schema that says something else than alternatives. -/
def IsPlain (j : Json) : Prop :=
  ∃ ms, j = .object ms ∧ ∀ js, ms ≠ [(("anyOf" : Text), Json.array js)]

/-- A schema, or nothing but alternatives, which are schemas then. -/
inductive IsSchema : Json → Prop where
  | plain {ms : List (Text × Json)} (other : ∀ js, ms ≠ [(("anyOf" : Text), Json.array js)]) :
    IsSchema (.object ms)
  | anyOf {js : List Json} (alternatives : ∀ j ∈ js, IsPlain j) :
    IsSchema (.object [(("anyOf" : Text), Json.array js)])

namespace IsSchema

variable {P : Text → Prop} {key : Text} {j : Json} {ms ns : List (Text × Json)} {js : List Json}

theorem of_isPlain (h : IsPlain j) : IsSchema j := by
  obtain ⟨ms, rfl, other⟩ := h
  exact .plain other

theorem text? (h : IsSchema j) : j.text? = none := by
  cases h <;> rfl

/-- A schema that is plain is the only alternative of itself. -/
theorem alternatives_eq (h : IsPlain j) : Json.alternatives j = [j] := by
  obtain ⟨ms, rfl, other⟩ := h
  unfold Json.alternatives
  split
  next key members same =>
    split
    next named =>
      obtain rfl := Json.object.inj same
      exact absurd (named ▸ rfl) (other members)
    next => rfl
  next => rfl

theorem alternatives_anyOf (js : List Json) :
    Json.alternatives (.object [(("anyOf" : Text), Json.array js)]) = js := by
  rw [Json.alternatives, if_pos rfl]

/-- The alternatives of a schema are plain. -/
theorem isPlain_of_mem {k : Json} (h : IsSchema j) (member : k ∈ Json.alternatives j) : IsPlain k := by
  cases h with
  | plain other =>
    rw [alternatives_eq ⟨_, rfl, other⟩] at member
    exact List.mem_singleton.mp member ▸ ⟨_, rfl, other⟩
  | anyOf alternatives =>
    rw [alternatives_anyOf] at member
    exact alternatives k member

theorem isPlain_of_member {k : Text} (member : (k, j) ∈ ms) (other : k ≠ "anyOf") :
    IsPlain (.object ms) := by
  refine ⟨ms, rfl, fun js same => ?_⟩
  rw [same, List.mem_singleton] at member
  exact other (congrArg Prod.fst member)

theorem of_member {k : Text} (member : (k, j) ∈ ms) (other : k ≠ "anyOf") :
    IsSchema (.object ms) :=
  of_isPlain (isPlain_of_member member other)

theorem withMembers (h : IsSchema j) (others : ∀ m ∈ ns, m.1 ≠ "anyOf") :
    IsSchema (j.withMembers ns) := by
  induction ns generalizing j with
  | nil => cases h <;> first | exact .plain ‹_› | exact .anyOf ‹_›
  | cons n ns ih =>
    rw [List.forall_mem_cons] at others
    have put : IsSchema (j.withMembers [n]) := by
      cases h <;> exact of_member Json.mem_put_self others.1
    have step : j.withMembers (n :: ns) = (j.withMembers [n]).withMembers ns := by
      cases h <;> rfl
    exact step ▸ ih put others.2

theorem without {k : Text} (h : IsSchema j) : ∃ ms, j.without k = .object ms := by
  cases h <;> exact ⟨_, rfl⟩

/-- Alternatives are among those of the given schemas. -/
theorem of_mem_anyOf {Q : Json → Prop} (given : ∀ j ∈ js, ∀ k ∈ Json.alternatives j, Q k) :
    ∃ ks, (∀ k ∈ ks, Q k) ∧
      (ks = [Json.anyOf js] ∨ Json.anyOf js = .object [(("anyOf" : Text), Json.array ks)]) := by
  have distinct : ∀ k ∈ Json.distinct (js.flatMap Json.alternatives), Q k := by
    intro k member
    obtain ⟨j, among, member⟩ := List.mem_flatMap.mp (mem_of_mem_distinct member)
    exact given j among k member
  unfold Json.anyOf
  generalize Json.distinct (js.flatMap Json.alternatives) = ks at distinct
  refine ⟨ks, distinct, ?_⟩
  split
  · exact Or.inl rfl
  · exact Or.inr rfl

theorem isSchema_anyOf (h : ∀ j ∈ js, IsSchema j) : IsSchema (Json.anyOf js) := by
  obtain ⟨ks, all, single | several⟩ := of_mem_anyOf fun j among k member =>
    (h j among).isPlain_of_mem member
  · exact of_isPlain (all _ (single ▸ List.mem_cons_self))
  · exact several ▸ .anyOf all

theorem refers_alternatives :
    Refers P (.object [(("anyOf" : Text), Json.array js)]) ↔ ∀ k ∈ js, Refers P k :=
  refersMembers_array (by decide)

/-- The alternatives of a schema refer to nothing else. -/
theorem refers_of_mem {k : Json} (h : Refers P j) (member : k ∈ Json.alternatives j) : Refers P k := by
  unfold Json.alternatives at member
  split at member
  next key members =>
    split at member
    next named => exact refers_alternatives.mp (named ▸ h) k member
    next => exact List.mem_singleton.mp member ▸ h
  next => exact List.mem_singleton.mp member ▸ h

theorem refers_anyOf (h : ∀ j ∈ js, Refers P j) : Refers P (Json.anyOf js) := by
  obtain ⟨ks, all, single | several⟩ := of_mem_anyOf fun j among k member =>
    refers_of_mem (h j among) member
  · exact all _ (single ▸ List.mem_cons_self)
  · exact several ▸ refers_alternatives.mpr all

end IsSchema

/-! ### Classes found so far -/

/-- A reference is one to the first classes of a number, or to the class that it stands in, or it leads
to another document. -/
def Allowed (n : Nat) (inClass : Bool) (t : Text) : Prop :=
  Shape.leadsAway t = true ∨ (∃ m < n, t = referenceStart ++ Text.ofNat m) ∨
    inClass = true ∧ t = selfMark

theorem Allowed.mono {m n : Nat} {inClass : Bool} {t : Text} (le : m ≤ n) (h : Allowed m inClass t) :
    Allowed n inClass t := by
  rcases h with away | ⟨k, below, rfl⟩ | own
  · exact Or.inl away
  · exact Or.inr (Or.inl ⟨k, by omega, rfl⟩)
  · exact Or.inr (Or.inr own)

theorem Allowed.inClass {n : Nat} {inClass : Bool} {t : Text} (h : Allowed n inClass t) :
    Allowed n true t := h.imp_right (Or.imp_right fun own => ⟨rfl, own.2⟩)

/-- Every class refers to those before it and to itself only. -/
def Sound (ds : Definitions) : Prop :=
  ∀ k c, ds[k]? = some c → Refers (Allowed k true) c.schema

theorem Refers.imp {P Q : Text → Prop} {j : Json} (h : Refers P j) (imp : ∀ t, P t → Q t) :
    Refers Q j := fun t member => imp t (h t member)

/-- Adding a class that refers to those before it. -/
theorem Sound.add {ds : Definitions} {c : ClassSchema} (sound : Sound ds)
    (refers : Refers (Allowed ds.length true) c.schema) :
    ds <+: (ds.add c).2 ∧ Sound (ds.add c).2 ∧ (ds.add c).1 < (ds.add c).2.length ∧
      (∃ c', (ds.add c).2[(ds.add c).1]? = some c' ∧ c'.schema = c.schema) := by
  unfold Definitions.add
  split
  next n found =>
    obtain ⟨below, same, -⟩ := List.findIdx?_eq_some_iff_getElem.mp found
    rw [Bool.and_eq_true] at same
    exact ⟨List.prefix_rfl, sound, below, ds[n], List.getElem?_eq_getElem below,
      Json.eq_of_same same.2⟩
  next none =>
    refine ⟨List.prefix_append _ _, ?_, ?_, c, List.getElem?_concat_length, rfl⟩
    · intro k d found
      rcases Nat.lt_or_ge k ds.length with below | new
      · rw [List.getElem?_append_left below] at found
        exact sound k d found
      · rw [List.getElem?_append_right new] at found
        obtain ⟨below, same⟩ := List.getElem?_eq_some_iff.mp found
        have last : k = ds.length := by
          simp only [List.length_singleton] at below
          omega
        subst last
        simp only [Nat.sub_self, List.getElem_cons_zero] at same
        exact same ▸ refers
    · rw [List.length_append, List.length_singleton]
      exact Nat.lt_succ_self _

end Definitions

namespace Shape

open Definitions

/-- What is known of a schema that was made among classes, and of the classes found then. -/
structure Published (inClass : Bool) (ds ds' : Definitions) (j : Json) : Prop where
  grows : ds <+: ds'
  sound : Sound ds'
  refers : Refers (Allowed ds'.length inClass) j
  isSchema : IsSchema j

/-- The same of a list of schemas. -/
structure PublishedAll (inClass : Bool) (ds ds' : Definitions) (js : List Json) : Prop where
  grows : ds <+: ds'
  sound : Sound ds'
  refers : ∀ j ∈ js, Refers (Allowed ds'.length inClass) j
  isSchema : ∀ j ∈ js, IsSchema j

/-- Nothing stands as a reference in data, except to other documents. -/
def Clean (data : List Json) : Prop := ∀ j ∈ data, Refers (leadsAway · = true) j

theorem clean_of_dangling?_eq_none {s : Shape} (h : s.dangling? = Option.none) :
    Clean s.publishedData := by
  intro j member t found
  have none := List.find?_eq_none.mp h t (List.mem_flatMap.mpr ⟨j, member, found⟩)
  simpa using none

theorem Clean.append {js ks : List Json} : Clean (js ++ ks) ↔ Clean js ∧ Clean ks :=
  List.forall_mem_append

variable {n : Nat} {inClass : Bool} {ds ds' : Definitions} {j : Json}

/-- Data refers to nothing but other documents. -/
theorem refers_data (clean : Refers (leadsAway · = true) j) : Refers (Allowed n inClass) j :=
  fun t member => Or.inl (clean t member)

theorem PublishedAll.nil (sound : Sound ds) : PublishedAll inClass ds ds [] :=
  ⟨List.prefix_rfl, sound, nofun, nofun⟩

theorem PublishedAll.cons {ds'' : Definitions} {js : List Json}
    (first : Published inClass ds ds' j) (others : PublishedAll inClass ds' ds'' js) : PublishedAll inClass ds ds'' (j :: js) where
  grows := first.grows.trans others.grows
  sound := others.sound
  refers := List.forall_mem_cons.mpr
    ⟨first.refers.imp fun _ => Allowed.mono others.grows.length_le, others.refers⟩
  isSchema := List.forall_mem_cons.mpr ⟨first.isSchema, others.isSchema⟩

/-- A schema of a scalar: none of its members refers to anything. -/
theorem Published.scalar {ms : List (Text × Json)} {k : Text} {j : Json} (sound : Sound ds)
    (refers : RefersMembers (leadsAway · = true) ms) (member : (k, j) ∈ ms) (other : k ≠ "anyOf") :
    Published inClass ds ds (.object ms) :=
  ⟨List.prefix_rfl, sound, refers_data (refers_object.mpr refers), .of_member member other⟩

/-! ### Members of schemas -/

theorem refersMembers_optional {P : Text → Prop} {key : String} {value : Option Json}
    (h : ∀ j, value = some j → RefersMembers P [(Text.ofString key, j)]) :
    RefersMembers P (Json.optionalMember key value) := by
  cases value with
  | none => exact refersMembers_nil
  | some j => exact h j rfl

theorem key_of_mem_optionalMember {key : String} {value : Option Json} {m : Text × Json}
    (member : m ∈ Json.optionalMember key value) : m.1 = Text.ofString key := by
  cases value with
  | none => cases member
  | some j => rw [List.mem_singleton.mp member]

theorem key_of_mem_lengthMembers {least most : String} {l : LengthLimits} {m : Text × Json}
    (member : m ∈ lengthMembers least most l) :
    m.1 = Text.ofString least ∨ m.1 = Text.ofString most :=
  (List.mem_append.mp member).imp key_of_mem_optionalMember key_of_mem_optionalMember

/-- The keys under which limits on numbers are published. -/
def limitKeys : List Text :=
  ["minimum", "exclusiveMinimum", "maximum", "exclusiveMaximum", "multipleOf"]

theorem key_of_mem_limitMembers {form : Limit → Option Json} {l : Limits} {m : Text × Json}
    (member : m ∈ limitMembers form l) : m.1 ∈ limitKeys := by
  unfold limitMembers at member
  simp only [List.mem_append] at member
  rcases member with (((member | member) | member) | member) | member <;>
    rw [key_of_mem_optionalMember member] <;> simp [limitKeys]

theorem limitMembers_ne_anyOf {form : Limit → Option Json} {l : Limits} {m : Text × Json}
    (member : m ∈ limitMembers form l) : m.1 ≠ "anyOf" := by
  have others : ∀ key ∈ limitKeys, key ≠ "anyOf" := by simp [limitKeys]
  exact others _ (key_of_mem_limitMembers member)

theorem refersMembers_lengthMembers {P : Text → Prop} (least most : String) (l : LengthLimits) :
    RefersMembers P (lengthMembers least most l) := by
  have counted {key : String} {n : Option Nat} :
      RefersMembers P (Json.optionalMember key (n.map fun n => .int n)) := by
    refine refersMembers_optional fun j found => ?_
    obtain ⟨n, -, rfl⟩ := Option.map_eq_some_iff.mp found
    exact fun t member => by cases member
  exact refersMembers_append.mpr ⟨counted, counted⟩

theorem refersMembers_ite {P : Text → Prop} {c : Prop} [Decidable c] {ms : List (Text × Json)}
    (h : RefersMembers P ms) : RefersMembers P (if c then ms else []) := by
  split
  · exact h
  · exact refersMembers_nil

theorem refersMembers_text {P : Text → Prop} {key t : Text} (other : key ≠ "$ref") :
    RefersMembers P [(key, .text t)] := refersMembers_of_refers (Or.inl other) refers_text

theorem refersMembers_int {P : Text → Prop} {key : Text} {i : Int} :
    RefersMembers P [(key, .int i)] := fun t member => by cases member

theorem refersMembers_bool {P : Text → Prop} {key : Text} {b : Bool} :
    RefersMembers P [(key, .bool b)] := fun t member => by cases member

theorem refersMembers_schemaType {P : Text → Prop} (name : String) :
    RefersMembers P (Json.schemaType name) :=
  refersMembers_text (show ("type" : Text) ≠ "$ref" by decide)

/-- A member of a schema under a key that is no key of references. -/
theorem Published.member {key : Text} (h : Published inClass ds ds' j) :
    RefersMembers (Allowed ds'.length inClass) [(key, j)] :=
  refersMembers_of_refers (Or.inr h.isSchema.text?) h.refers

theorem mem_schemaType (name : String) : ((("type" : Text)), Json.str name) ∈ Json.schemaType name :=
  List.mem_cons_self

/-! ### Schemas of parts -/

/-- A schema with items of one kind. -/
theorem Published.items {ms ns : List (Text × Json)} {kind : String} (h : Published inClass ds ds' j)
    (refers : RefersMembers (Allowed ds'.length inClass) ms)
    (members : ns = (("items" : Text), j) :: (("type" : Text), Json.str kind) :: ms) :
    Published inClass ds ds' (.object ns) where
  grows := h.grows
  sound := h.sound
  refers := by
    rw [members, refers_object]
    exact .cons h.member (.cons (refersMembers_text (by decide)) refers)
  isSchema := by
    rw [members]
    exact .of_member List.mem_cons_self (by decide)

theorem published_tuple {js : List Json} (l : LengthLimits) (h : PublishedAll inClass ds ds' js) :
    Published inClass ds ds'
      ((Json.object ((if js.isEmpty then [] else [(("prefixItems" : Text), Json.array js)])
        ++ Json.members [("minItems", .int js.length), ("maxItems", .int js.length),
          ("type", .str "array")])).withMembers (lengthMembers "minItems" "maxItems" l)) where
  grows := h.grows
  sound := h.sound
  refers := by
    refine Refers.withMembers (refers_object.mpr (refersMembers_append.mpr ⟨?_, ?_⟩))
      (refersMembers_lengthMembers _ _ l)
    · split
      · exact refersMembers_nil
      · exact (refersMembers_array (by decide)).mpr h.refers
    · exact .cons refersMembers_int (.cons refersMembers_int (refersMembers_text (by decide)))
  isSchema := by
    refine IsSchema.withMembers (.of_member (k := "type") (j := .str "array") ?_ (by decide))
      fun m member => ?_
    · exact List.mem_append_right _ (List.mem_cons_of_mem _ (List.mem_cons_of_mem _ List.mem_cons_self))
    · rcases key_of_mem_lengthMembers member with key | key <;> rw [key] <;> decide

/-- The schema of a map. -/
theorem Published.dict {ds'' : Definitions} {kj vj : Json} {l : LengthLimits}
    (key : Published inClass ds ds' kj) (value : Published inClass ds' ds'' vj) :
    Published inClass ds ds'' (dictSchema kj vj l) where
  grows := key.grows.trans value.grows
  sound := value.sound
  refers := by
    have keyRefers : Refers (Allowed ds''.length inClass) kj :=
      key.refers.imp fun _ => Allowed.mono value.grows.length_le
    obtain ⟨vs, object⟩ := value.isSchema.without (k := "title")
    have valueRefers : ∀ k, RefersMembers (Allowed ds''.length inClass)
        [(k, vj.without "title")] := fun k =>
      refersMembers_of_refers (Or.inr (by rw [object]; rfl)) value.refers.without
    unfold dictSchema
    rw [refers_object]
    refine refersMembers_append.mpr ⟨refersMembers_append.mpr ⟨refersMembers_append.mpr
      ⟨refersMembers_text (by decide), ?_⟩, ?_⟩, refersMembers_lengthMembers _ _ l⟩
    · split
      · exact refersMembers_of_refers (Or.inl (by decide)) (refers_object.mpr (valueRefers _))
      · split
        · exact refersMembers_bool
        · exact valueRefers _
    · have described : Refers (Allowed ds''.length inClass)
          (if (kj.get? "$ref").isSome then kj else (kj.without "pattern").without "title") := by
        split
        · exact keyRefers
        · exact keyRefers.without.without
      exact refersMembers_ite (refersMembers_of_refers (Or.inl (by decide)) described.without)
  isSchema := .of_member (k := "type") List.mem_cons_self (by decide)

theorem Published.nullable (h : Published inClass ds ds' j) :
    Published inClass ds ds'
      (if j.same (.object (Json.schemaType "null")) then .object (Json.schemaType "null")
        else Json.anyOf [j, .object (Json.schemaType "null")]) := by
  have nothing : Published inClass ds' ds' (.object (Json.schemaType "null")) :=
    .scalar h.sound (refersMembers_schemaType _) (mem_schemaType _) (by decide)
  split
  · exact ⟨h.grows, h.sound, nothing.refers, nothing.isSchema⟩
  · have both := PublishedAll.cons h (.cons nothing (.nil h.sound))
    exact ⟨h.grows, h.sound, IsSchema.refers_anyOf both.refers, .isSchema_anyOf both.isSchema⟩

theorem published_union (js : List Json) : PublishedAll inClass ds ds' js →
    Published inClass ds ds' (match js with
      | [j] => j
      | js => Json.anyOf js) := by
  intro h
  obtain _ | ⟨j, _ | ⟨k, js⟩⟩ := js
  · exact ⟨h.grows, h.sound, IsSchema.refers_anyOf h.refers, .isSchema_anyOf h.isSchema⟩
  · exact ⟨h.grows, h.sound, h.refers j List.mem_cons_self, h.isSchema j List.mem_cons_self⟩
  · exact ⟨h.grows, h.sound, IsSchema.refers_anyOf h.refers, .isSchema_anyOf h.isSchema⟩

/-- The schemas of the classes of a union under their tags, as one schema. -/
theorem PublishedAll.tagged {field : Text} {js : List (Text × Json)}
    (h : PublishedAll inClass ds ds' (js.map (·.2))) :
    Published inClass ds ds' (Json.record [
      ("discriminator", Json.record [("mapping", .object
        ((js.foldl (fun ms m => Json.put m.1 m.2 ms) []).map fun (tag, j) =>
          (tag, (j.get? "$ref").getD j))), ("propertyName", .text field)]),
      ("oneOf", .array (Json.distinct ((js.foldl (fun ms m => Json.put m.1 m.2 ms) []).map (·.2))))])
    where
  grows := h.grows
  sound := h.sound
  refers := by
    have named : ∀ m ∈ js.foldl (fun ms m => Json.put m.1 m.2 ms) [],
        Refers (Allowed ds'.length inClass) m.2 ∧ IsSchema m.2 := by
      intro m member
      have among : m ∈ js := (Json.mem_of_mem_foldl_put member).resolve_right List.not_mem_nil
      exact ⟨h.refers _ (List.mem_map_of_mem among), h.isSchema _ (List.mem_map_of_mem among)⟩
    generalize js.foldl _ [] = byTag at named ⊢
    have mapping : RefersMembers (Allowed ds'.length inClass)
        (byTag.map fun (tag, j) => (tag, (j.get? "$ref").getD j)) := by
      rw [refersMembers_iff]
      intro m member
      obtain ⟨⟨tag, j⟩, among, rfl⟩ := List.mem_map.mp member
      obtain ⟨refers, isSchema⟩ := named _ among
      dsimp only
      cases found : j.get? "$ref" with
      | none => exact refersMembers_of_refers (Or.inr isSchema.text?) refers
      | some x =>
        cases isSchema with
        | plain => exact (RefersMembers.lookup refers found).rekey
        | anyOf => exact (RefersMembers.lookup refers found).rekey
    have discriminator : Refers (Allowed ds'.length inClass)
        (Json.record [("mapping", .object (byTag.map fun (tag, j) => (tag, (j.get? "$ref").getD j))),
          ("propertyName", .text field)]) :=
      refers_object.mpr (RefersMembers.cons
        (refersMembers_of_refers (Or.inl (by dsimp only; decide)) (refers_object.mpr mapping))
        (refersMembers_text (by dsimp only; decide)))
    refine refers_object.mpr (RefersMembers.cons
      (refersMembers_of_refers (Or.inl (by dsimp only; decide)) discriminator)
      ((refersMembers_array (by dsimp only; decide)).mpr fun j member => ?_))
    obtain ⟨m, among, rfl⟩ := List.mem_map.mp (mem_of_mem_distinct member)
    exact (named m among).1
  isSchema := .of_member (k := "discriminator") List.mem_cons_self (by decide)

/-- A class among those found before. -/
theorem published_referred {c : ClassSchema} (sound : Sound ds)
    (refers : Refers (Allowed ds.length true) c.schema) :
    Published inClass ds (referred c ds).2 (referred c ds).1 := by
  obtain ⟨grows, sound, below, -⟩ := sound.add refers
  refine ⟨grows, sound, ?_, .of_member (k := "$ref") List.mem_cons_self (by decide)⟩
  intro t member
  exact Or.inr (Or.inl ⟨_, below, List.mem_singleton.mp member⟩)

theorem refersMembers_type {P : Text → Prop} (kind : Option Text) :
    RefersMembers P (Json.optionalMember "type" (kind.map .text)) := by
  refine refersMembers_optional fun j found => ?_
  obtain ⟨t, -, rfl⟩ := Option.map_eq_some_iff.mp found
  exact refersMembers_text (by decide)

theorem published_literal {vs : List Value} (sound : Sound ds) (clean : Clean (vs.map publishedValue)) :
    Published inClass ds ds (literalSchema vs) := by
  unfold literalSchema
  dsimp only
  generalize vs.map publishedValue = js at clean
  split
  next j =>
    refine .scalar (k := "const") sound (refersMembers_append.mpr ⟨?_, refersMembers_type _⟩)
      List.mem_cons_self (by decide)
    exact refersMembers_of_refers (Or.inl (by dsimp only; decide)) (clean j List.mem_cons_self)
  next js =>
    refine .scalar (k := "enum") sound (refersMembers_append.mpr ⟨?_, refersMembers_type _⟩)
      List.mem_cons_self (by decide)
    exact (refersMembers_array (by dsimp only; decide)).mpr clean

theorem refers_enumSchema {name : Text} {members : List (Text × Value)}
    (clean : Clean (members.map fun m => publishedValue m.2)) :
    Refers (leadsAway · = true) (enumSchema name members) := by
  refine refers_object.mpr (refersMembers_append.mpr ⟨?_, refersMembers_type _⟩)
  exact RefersMembers.cons ((refersMembers_array (by dsimp only; decide)).mpr clean)
    (refersMembers_text (by dsimp only; decide))

theorem refers_classSchema {P : Text → Prop} {kind : ClassKind} {name : Text} {extra : Extra}
    {properties : List (Text × Json)} {required : List Text} (h : RefersMembers P properties) :
    Refers P (classSchema kind name extra properties required) := by
  unfold classSchema
  refine refers_object.mpr (refersMembers_append.mpr ⟨refersMembers_append.mpr
    ⟨refersMembers_append.mpr ⟨refersMembers_append.mpr ⟨?_, ?_⟩, ?_⟩, ?_⟩, ?_⟩)
  · exact refersMembers_of_refers (Or.inl (by dsimp only; decide)) (refers_object.mpr h)
  · split
    · exact refersMembers_nil
    · refine (refersMembers_array (by decide)).mpr fun j member => ?_
      obtain ⟨t, -, rfl⟩ := List.mem_map.mp member
      exact refers_text
  · exact RefersMembers.cons (refersMembers_text (by dsimp only; decide))
      (refersMembers_text (by dsimp only; decide))
  · split
    · exact refersMembers_bool
    · exact refersMembers_bool
    · exact refersMembers_nil
  · split
    · split
      · split
        · exact refersMembers_nil
        · exact refersMembers_text (by decide)
      · exact refersMembers_nil
    · exact refersMembers_nil

/-- A schema with further members. -/
theorem Published.withMembers {ms : List (Text × Json)} (h : Published inClass ds ds' j)
    (refers : RefersMembers (Allowed ds'.length inClass) ms) (others : ∀ m ∈ ms, m.1 ≠ "anyOf") :
    Published inClass ds ds' (j.withMembers ms) :=
  ⟨h.grows, h.sound, h.refers.withMembers refers, h.isSchema.withMembers others⟩

/-- The schema of a field adds its default and a title to that of its shape. -/
theorem Published.field {name : Text} {presence : Presence} {titled : Bool}
    (h : Published inClass ds ds' j)
    (clean : ∀ v, presence = .default v → Clean v.published?.toList) :
    Published inClass ds ds' (fieldSchema name presence titled j) := by
  have titledField {k : Json} (h : Published inClass ds ds' k) :
      Published inClass ds ds' (if titled && (k.get? "title").isNone then
        k.withMembers [("title", .text name.fieldTitle)] else k) := by
    split
    · exact h.withMembers (refersMembers_text (by decide))
        fun m member => List.mem_singleton.mp member ▸ by dsimp only; decide
    · exact h
  cases presence with
  | default v =>
    cases shown : v.published? with
    | none =>
      simp only [fieldSchema, shown]
      exact titledField h
    | some d =>
      simp only [fieldSchema, shown]
      have data : Refers (leadsAway · = true) d :=
        clean v rfl d (by rw [shown]; exact List.mem_cons_self)
      exact titledField (h.withMembers
        (refersMembers_of_refers (Or.inl (by decide)) (refers_data data))
        fun m member => List.mem_singleton.mp member ▸ by dsimp only; decide)
  | _ => exact titledField h

theorem refersMembers_values {properties : List (Text × Json)}
    (h : PublishedAll inClass ds ds' (properties.map (·.2))) :
    RefersMembers (Allowed ds'.length inClass) properties := by
  rw [refersMembers_iff]
  intro m member
  have among := List.mem_map_of_mem (f := (·.2)) member
  exact refersMembers_of_refers (Or.inr (h.isSchema _ among).text?) (h.refers _ among)

theorem published_formatted (sound : Sound ds) (format : String) :
    Published inClass ds ds (formatted format) :=
  .scalar sound (.cons (refersMembers_text (by dsimp only; decide))
    (refersMembers_text (by dsimp only; decide))) List.mem_cons_self (by dsimp only; decide)

/-! ### Schemas of shapes -/

mutual

/-- Whether a shape has a schema does not depend on the classes found before. -/
theorem published_ok_of_ok {s : Shape} {ds : Definitions} {r : Json × Definitions}
    (h : published ds s = .ok r) (ds' : Definitions) : ∃ r', published ds' s = .ok r' := by
  cases s with
  | list s l =>
    rw [published] at h ⊢
    obtain ⟨_, found, _⟩ := bind_eq_ok.mp h
    obtain ⟨r', found'⟩ := published_ok_of_ok found ds'
    exact ⟨_, bind_eq_ok.mpr ⟨r', found', rfl⟩⟩
  | set frozen s l =>
    rw [published] at h ⊢
    obtain ⟨_, found, _⟩ := bind_eq_ok.mp h
    obtain ⟨r', found'⟩ := published_ok_of_ok found ds'
    exact ⟨_, bind_eq_ok.mpr ⟨r', found', rfl⟩⟩
  | tuple ss l =>
    rw [published] at h ⊢
    obtain ⟨_, found, _⟩ := bind_eq_ok.mp h
    obtain ⟨r', found'⟩ := publishedAll_ok_of_ok found ds'
    exact ⟨_, bind_eq_ok.mpr ⟨r', found', rfl⟩⟩
  | tupleOf s l =>
    rw [published] at h ⊢
    obtain ⟨_, found, _⟩ := bind_eq_ok.mp h
    obtain ⟨r', found'⟩ := published_ok_of_ok found ds'
    exact ⟨_, bind_eq_ok.mpr ⟨r', found', rfl⟩⟩
  | dict k v l =>
    rw [published] at h ⊢
    obtain ⟨_, foundKey, h⟩ := bind_eq_ok.mp h
    obtain ⟨_, foundValue, _⟩ := bind_eq_ok.mp h
    obtain ⟨key, foundKey'⟩ := published_ok_of_ok foundKey ds'
    obtain ⟨value, foundValue'⟩ := published_ok_of_ok foundValue key.2
    exact ⟨_, bind_eq_ok.mpr ⟨key, foundKey', bind_eq_ok.mpr ⟨value, foundValue', rfl⟩⟩⟩
  | nullable s =>
    rw [published] at h ⊢
    obtain ⟨_, found, _⟩ := bind_eq_ok.mp h
    obtain ⟨r', found'⟩ := published_ok_of_ok found ds'
    exact ⟨_, bind_eq_ok.mpr ⟨r', found', rfl⟩⟩
  | enum name ms b =>
    rw [published]
    split <;> exact ⟨_, rfl⟩
  | record kind name extra fs =>
    rw [published] at h ⊢
    obtain ⟨_, found, _⟩ := bind_eq_ok.mp h
    obtain ⟨r', found'⟩ := publishedFields_ok_of_ok found ds'
    exact ⟨_, bind_eq_ok.mpr ⟨r', found', rfl⟩⟩
  | noted notes s =>
    rw [published] at h ⊢
    obtain ⟨_, found, _⟩ := bind_eq_ok.mp h
    obtain ⟨r', found'⟩ := published_ok_of_ok found ds'
    exact ⟨_, bind_eq_ok.mpr ⟨r', found', rfl⟩⟩
  | bounded b s =>
    rw [published] at h ⊢
    exact published_ok_of_ok h ds'
  | callable => cases h
  | instances c => cases h
  | _ => exact ⟨_, rfl⟩

theorem publishedAll_ok_of_ok {ss : List Shape} {ds : Definitions} {r : List Json × Definitions}
    (h : publishedAll ds ss = .ok r) (ds' : Definitions) : ∃ r', publishedAll ds' ss = .ok r' := by
  cases ss with
  | nil => exact ⟨_, rfl⟩
  | cons s ss =>
    rw [publishedAll] at h ⊢
    obtain ⟨_, found, h⟩ := bind_eq_ok.mp h
    obtain ⟨_, others, _⟩ := bind_eq_ok.mp h
    obtain ⟨first, found'⟩ := published_ok_of_ok found ds'
    obtain ⟨r', others'⟩ := publishedAll_ok_of_ok others first.2
    exact ⟨_, bind_eq_ok.mpr ⟨first, found', bind_eq_ok.mpr ⟨r', others', rfl⟩⟩⟩

theorem publishedFields_ok_of_ok {fs : List (Text × Presence × Shape)} {ds : Definitions}
    {r : List (Text × Json) × Definitions} (h : publishedFields ds fs = .ok r) (ds' : Definitions) :
    ∃ r', publishedFields ds' fs = .ok r' := by
  match fs with
  | [] => exact ⟨_, rfl⟩
  | (name, presence, s) :: fs =>
    rw [publishedFields] at h ⊢
    obtain ⟨_, found, h⟩ := bind_eq_ok.mp h
    obtain ⟨_, others, _⟩ := bind_eq_ok.mp h
    obtain ⟨first, found'⟩ := published_ok_of_ok found ds'
    obtain ⟨r', others'⟩ := publishedFields_ok_of_ok others first.2
    exact ⟨_, bind_eq_ok.mpr ⟨first, found', bind_eq_ok.mpr ⟨r', others', rfl⟩⟩⟩

end

theorem isSome_published_nil {s : Shape} {r : Json × Definitions} (h : published ds s = .ok r) :
    (published [] s).toOption.isSome = true := by
  obtain ⟨r', found⟩ := published_ok_of_ok h []
  rw [found]
  rfl

mutual

theorem published_spec {s : Shape} {ds ds' : Definitions} {inClass : Bool} {j : Json}
    (wellFormed : s.WellFormed inClass) (clean : Clean s.publishedData) (sound : Sound ds)
    (h : published ds s = .ok (j, ds')) : Published inClass ds ds' j := by
  cases s with
  | any =>
    cases h
    exact ⟨List.prefix_rfl, sound, nofun, .plain nofun⟩
  | none =>
    cases h
    exact .scalar sound (refersMembers_schemaType _) (mem_schemaType _) (by decide)
  | bool =>
    cases h
    exact .scalar sound (refersMembers_schemaType _) (mem_schemaType _) (by decide)
  | str l p =>
    cases h
    refine .scalar sound (refersMembers_append.mpr ⟨refersMembers_append.mpr
      ⟨refersMembers_schemaType _, refersMembers_lengthMembers _ _ l⟩, ?_⟩)
      (List.mem_append_left _ (List.mem_append_left _ (mem_schemaType _))) (by decide)
    refine refersMembers_optional fun j found => ?_
    obtain ⟨t, -, rfl⟩ := Option.map_eq_some_iff.mp found
    exact refersMembers_text (by decide)
  | int l =>
    cases h
    exact .scalar sound (refersMembers_append.mpr
      ⟨refersMembers_schemaType _, clean _ List.mem_cons_self⟩)
      (List.mem_append_left _ (mem_schemaType _)) (by decide)
  | float f l =>
    cases h
    exact .scalar sound (refersMembers_append.mpr
      ⟨refersMembers_schemaType _, clean _ List.mem_cons_self⟩)
      (List.mem_append_left _ (mem_schemaType _)) (by decide)
  | decimal f d l =>
    cases h
    have number : Published inClass ds ds
        (.object (Json.schemaType "number" ++ decimalMembers l)) :=
      .scalar sound (refersMembers_append.mpr
        ⟨refersMembers_schemaType _, clean _ List.mem_cons_self⟩)
        (List.mem_append_left _ (mem_schemaType _)) (by decide)
    have text : Published inClass ds ds (.object (Json.schemaType "string")) :=
      .scalar sound (refersMembers_schemaType _) (mem_schemaType _) (by decide)
    have both := PublishedAll.cons number (.cons text (.nil sound))
    refine ⟨List.prefix_rfl, sound, IsSchema.refers_alternatives.mpr both.refers, .anyOf ?_⟩
    rintro k (_ | ⟨_, _ | ⟨_, ⟨⟩⟩⟩)
    · exact IsSchema.isPlain_of_member (List.mem_append_left _ (mem_schemaType _)) (by decide)
    · exact IsSchema.isPlain_of_member (mem_schemaType _) (by decide)
  | complex =>
    cases h
    exact .scalar sound (refersMembers_schemaType _) (mem_schemaType _) (by decide)
  | bytes l =>
    cases h
    exact .scalar sound (refersMembers_append.mpr
      ⟨.cons (refersMembers_text (by dsimp only; decide)) (refersMembers_text (by dsimp only; decide)),
        refersMembers_lengthMembers _ _ l⟩) (List.mem_append_left _ List.mem_cons_self) (by decide)
  | date l =>
    cases h
    exact (published_formatted sound "date").withMembers (refers_data (clean _ List.mem_cons_self))
      fun m => limitMembers_ne_anyOf
  | time l =>
    cases h
    exact published_formatted sound "time"
  | dateTime l =>
    cases h
    exact published_formatted sound "date-time"
  | duration l =>
    cases h
    exact published_formatted sound "duration"
  | uuid =>
    cases h
    exact published_formatted sound "uuid"
  | callable => cases h
  | instances c => cases h
  | list s l =>
    rw [published] at h
    obtain ⟨⟨k, ds₁⟩, found, h⟩ := bind_eq_ok.mp h
    cases pure_eq_ok.mp h
    exact (published_spec wellFormed.of_list clean sound found).items
      (refersMembers_lengthMembers _ _ l) rfl
  | set frozen s l =>
    rw [published] at h
    obtain ⟨⟨k, ds₁⟩, found, h⟩ := bind_eq_ok.mp h
    cases pure_eq_ok.mp h
    exact (published_spec wellFormed.of_set clean sound found).items
      (.cons refersMembers_bool (refersMembers_lengthMembers _ _ l)) rfl
  | tuple ss l =>
    rw [published] at h
    obtain ⟨⟨ks, ds₁⟩, found, h⟩ := bind_eq_ok.mp h
    cases pure_eq_ok.mp h
    exact published_tuple l (publishedAll_spec wellFormed.of_tuple clean sound found)
  | tupleOf s l =>
    rw [published] at h
    obtain ⟨⟨k, ds₁⟩, found, h⟩ := bind_eq_ok.mp h
    cases pure_eq_ok.mp h
    exact (published_spec wellFormed.of_tupleOf clean sound found).items
      (refersMembers_lengthMembers _ _ l) rfl
  | dict k v l =>
    rw [published] at h
    obtain ⟨⟨kj, ds₁⟩, foundKey, h⟩ := bind_eq_ok.mp h
    obtain ⟨⟨vj, ds₂⟩, foundValue, h⟩ := bind_eq_ok.mp h
    cases pure_eq_ok.mp h
    obtain ⟨cleanKey, cleanValue⟩ := Clean.append.mp clean
    have key := published_spec wellFormed.of_dict.1 cleanKey sound foundKey
    exact key.dict (published_spec wellFormed.of_dict.2 cleanValue key.sound foundValue)
  | nullable s =>
    rw [published] at h
    obtain ⟨⟨k, ds₁⟩, found, h⟩ := bind_eq_ok.mp h
    cases pure_eq_ok.mp h
    exact (published_spec wellFormed.of_nullable clean sound found).nullable
  | union ss =>
    cases h
    exact published_union _ (publishedPossible_spec wellFormed.of_union clean sound)
  | tagged field ms =>
    cases h
    exact (publishedTagged_spec wellFormed.of_tagged clean sound).tagged
  | literal vs =>
    cases h
    exact published_literal sound clean
  | enum name ms b =>
    rw [published] at h
    split at h
    · cases h
      exact .scalar sound (.cons ((refersMembers_array (by decide)).mpr nofun)
        (refersMembers_text (by decide))) List.mem_cons_self (by decide)
    · cases h
      exact published_referred sound (refers_data (refers_enumSchema clean))
  | record kind name extra fs =>
    rw [published] at h
    obtain ⟨⟨properties, ds₁⟩, found, h⟩ := bind_eq_ok.mp h
    have fields := publishedFields_spec wellFormed.of_record clean sound found
    cases pure_eq_ok.mp h
    have class' : Published inClass ds₁ _ _ := published_referred fields.sound
      (c := ⟨moduleOf kind, name, classSchema kind name extra properties
        ((fs.filter fun f => isRequired f.2.1).map (·.1))⟩)
      (refers_classSchema (refersMembers_values fields))
    exact ⟨fields.grows.trans class'.grows, class'.sound, class'.refers, class'.isSchema⟩
  | self =>
    cases h
    refine ⟨List.prefix_rfl, sound, fun t member => ?_, .of_member (k := "$ref") List.mem_cons_self (by decide)⟩
    exact Or.inr (Or.inr ⟨wellFormed.of_self, List.mem_singleton.mp member⟩)
  | noted notes s =>
    rw [published] at h
    obtain ⟨⟨k, ds₁⟩, found, h⟩ := bind_eq_ok.mp h
    cases pure_eq_ok.mp h
    obtain ⟨keys, inner⟩ := wellFormed.of_noted
    obtain ⟨notesClean, innerClean⟩ := List.forall_mem_cons.mp clean
    have known : ∀ k ∈ noteKeys, k ≠ "anyOf" := by simp [noteKeys]
    exact (published_spec inner innerClean sound found).withMembers (refers_data notesClean)
      fun m member => known _ (keys m member)
  | bounded b s => exact published_spec wellFormed.of_bounded clean sound h

theorem publishedAll_spec {ss : List Shape} {ds ds' : Definitions} {inClass : Bool} {js : List Json}
    (wellFormed : ∀ s ∈ ss, s.WellFormed inClass) (clean : Clean (publishedDataAll ss))
    (sound : Sound ds) (h : publishedAll ds ss = .ok (js, ds')) : PublishedAll inClass ds ds' js := by
  cases ss with
  | nil =>
    cases h
    exact .nil sound
  | cons s ss =>
    rw [publishedAll] at h
    obtain ⟨⟨j, ds₁⟩, found, h⟩ := bind_eq_ok.mp h
    obtain ⟨⟨js, ds₂⟩, others, h⟩ := bind_eq_ok.mp h
    cases pure_eq_ok.mp h
    rw [List.forall_mem_cons] at wellFormed
    obtain ⟨cleanFirst, cleanOthers⟩ := Clean.append.mp clean
    have first := published_spec wellFormed.1 cleanFirst sound found
    exact .cons first (publishedAll_spec wellFormed.2 cleanOthers first.sound others)

theorem publishedPossible_spec {ss : List Shape} {ds : Definitions} {inClass : Bool}
    (wellFormed : ∀ s ∈ ss, s.WellFormed inClass) (clean : Clean (publishedDataPossible ss))
    (sound : Sound ds) :
    PublishedAll inClass ds (publishedPossible ds ss).2 (publishedPossible ds ss).1 := by
  match ss with
  | [] => exact .nil sound
  | s :: ss =>
    rw [List.forall_mem_cons] at wellFormed
    obtain ⟨cleanFirst, cleanOthers⟩ := Clean.append.mp clean
    rw [publishedPossible]
    split
    next j ds₁ found =>
      rw [if_pos (isSome_published_nil found)] at cleanFirst
      have first := published_spec wellFormed.1 cleanFirst sound found
      exact .cons first (publishedPossible_spec wellFormed.2 cleanOthers first.sound)
    next => exact publishedPossible_spec wellFormed.2 cleanOthers sound

theorem publishedTagged_spec {ms : List (Value × Shape)} {ds : Definitions} {inClass : Bool}
    (wellFormed : ∀ m ∈ ms, m.2.WellFormed inClass) (clean : Clean (publishedDataTagged ms))
    (sound : Sound ds) :
    PublishedAll inClass ds (publishedTagged ds ms).2 ((publishedTagged ds ms).1.map (·.2)) := by
  match ms with
  | [] => exact .nil sound
  | (tag, s) :: ms =>
    rw [List.forall_mem_cons] at wellFormed
    obtain ⟨cleanFirst, cleanOthers⟩ := Clean.append.mp clean
    rw [publishedTagged]
    split
    next j ds₁ found =>
      rw [if_pos (isSome_published_nil found)] at cleanFirst
      have first := published_spec wellFormed.1 cleanFirst sound found
      exact .cons first (publishedTagged_spec wellFormed.2 cleanOthers first.sound)
    next => exact publishedTagged_spec wellFormed.2 cleanOthers sound

theorem publishedFields_spec {fs : List (Text × Presence × Shape)} {ds ds' : Definitions}
    {inClass : Bool} {properties : List (Text × Json)}
    (wellFormed : ∀ f ∈ fs, f.2.2.WellFormed inClass) (clean : Clean (publishedDataFields fs))
    (sound : Sound ds) (h : publishedFields ds fs = .ok (properties, ds')) :
    PublishedAll inClass ds ds' (properties.map (·.2)) := by
  match fs with
  | [] =>
    cases h
    exact .nil sound
  | (name, presence, s) :: fs =>
    rw [publishedFields] at h
    obtain ⟨⟨j, ds₁⟩, found, h⟩ := bind_eq_ok.mp h
    obtain ⟨⟨js, ds₂⟩, others, h⟩ := bind_eq_ok.mp h
    cases pure_eq_ok.mp h
    rw [List.forall_mem_cons] at wellFormed
    obtain ⟨cleanField, cleanOthers⟩ := Clean.append.mp clean
    obtain ⟨cleanDefault, cleanShape⟩ := Clean.append.mp cleanField
    have first := published_spec wellFormed.1 cleanShape sound found
    refine .cons (first.field fun v same => ?_)
      (publishedFields_spec wellFormed.2 cleanOthers first.sound others)
    subst same
    exact cleanDefault

end

end Shape

end GuardedTools
