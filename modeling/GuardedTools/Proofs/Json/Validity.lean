import GuardedTools.Dump
import GuardedTools.Json.Printer
import GuardedTools.Proofs.Json.Members
import GuardedTools.Proofs.Text
import GuardedTools.Text.Pattern.Size
import Mathlib.Algebra.Group.Nat.Defs
import Mathlib.Data.List.Lex
import Mathlib.Data.List.Nodup
import Mathlib.Order.Filter.AtTopBot.Basic

/-!
# Validity under JSON schemas

What it means that a value is valid under a JSON schema: each keyword of the schema that says something
about values holds of it, where what says nothing (a title, a format, a default) is let pass
(`Json.holds`, `Json.accepts`).  References lead into the definitions of the document (`Json.target?`); as
they may lead in circles, the recursion has a bound, and a value is valid if it is accepted from some bound
on (`Json.IsValid`).

A schema is published with its keys in order, and this is the form in which its validity is told.  The order
of keys matters to no keyword (`Json.accepts_object`).  Two JSON values that are alike with the keys of all
objects in order (`Json.sortKeys`) differ in nothing but the order of members.  Objects with the same members
are (`Json.sortKeys_object_eq`), and what can be sent does not depend on the order
(`Json.isSendable_sortKeys`).
-/

namespace GuardedTools

namespace Json

/-- The keywords of schemas that say something about values. -/
inductive Keyword where
  | ref
  | type
  | const
  | enum
  | anyOf
  | oneOf
  | items
  | prefixItems
  | minItems
  | maxItems
  | uniqueItems
  | properties
  | required
  | additionalProperties
  | patternProperties
  | propertyNames
  | minProperties
  | maxProperties
  | minLength
  | maxLength
  | pattern
  | minimum
  | exclusiveMinimum
  | maximum
  | exclusiveMaximum
  | multipleOf
deriving DecidableEq, Repr

namespace Keyword

/-- The keywords with their names. -/
def table : List (String × Keyword) :=
  [("$ref", ref), ("type", type), ("const", const), ("enum", enum), ("anyOf", anyOf),
    ("oneOf", oneOf), ("items", items), ("prefixItems", prefixItems), ("minItems", minItems),
    ("maxItems", maxItems), ("uniqueItems", uniqueItems), ("properties", properties),
    ("required", required), ("additionalProperties", additionalProperties),
    ("patternProperties", patternProperties), ("propertyNames", propertyNames),
    ("minProperties", minProperties), ("maxProperties", maxProperties), ("minLength", minLength),
    ("maxLength", maxLength), ("pattern", pattern), ("minimum", minimum),
    ("exclusiveMinimum", exclusiveMinimum), ("maximum", maximum),
    ("exclusiveMaximum", exclusiveMaximum), ("multipleOf", multipleOf)]

/-- The keyword of a name. -/
def of? (name : Text) : Option Keyword := (table.find? (Text.ofString ·.1 = name)).map (·.2)

/-- The keyword of a name that is written out is found among strings. -/
@[simp] theorem of?_ofString (name : String) :
    of? (Text.ofString name) = (table.find? (·.1 = name)).map (·.2) := by
  simp only [of?, Text.ofString_inj]

end Keyword

/-! ### What keywords ask of values -/

/-- The place of a number. -/
def place? : Json → Option Binary64.Place
  | int n => some (.at n 1)
  | float x => x.place?
  | _ => none

/-- Whether a value is of the type of a name. -/
def isOfType (name : Text) (j : Json) : Bool :=
  match j with
  | null => name = "null"
  | bool _ => name = "boolean"
  | int _ => name = "integer" || name = "number"
  | float x => (name = "integer" && x.toInt?.isSome) || name = "number"
  | text _ => name = "string"
  | array _ => name = "array"
  | object _ => name = "object"

mutual

/-- Whether two values are equal: numbers by their place, objects whatever the order of their keys. -/
def equal : Json → Json → Bool
  | array xs, k => match k with
    | array ys => equalItems xs ys
    | _ => false
  | object ms, k => match k with
    | object ns => ms.length == ns.length && equalMembers ms ns
    | _ => false
  | j, k => match j.place?, k.place? with
    | some p, some q => p.compare q == .eq
    | _, _ => j.same k

def equalItems : List Json → List Json → Bool
  | [], [] => true
  | x :: xs, y :: ys => equal x y && equalItems xs ys
  | _, _ => false

/-- Whether every member is equal to that of the other object under its key. -/
def equalMembers : List (Text × Json) → List (Text × Json) → Bool
  | [], _ => true
  | (k, x) :: ms, ns => (match lookup k ns with
    | some y => equal x y
    | none => false) && equalMembers ms ns

end

/-- Whether no two items are equal. -/
def areDistinct : List Json → Bool
  | [] => true
  | x :: xs => !xs.any (equal x) && areDistinct xs

/-- Whether a schema describes the property of a name. -/
def declares (schema : List (Text × Json)) (name : Text) : Bool :=
  ((lookup "properties" schema).bind (·.get? name)).isSome

/-- Whether one of the keys of an object, which are patterns, is one for a name. -/
def hasPatternFor (name : Text) : Json → Bool
  | object patterns => patterns.any fun p => Pattern.isMet p.1 name
  | _ => false

/-- Whether a schema has a pattern for the property of a name. -/
def matchesName (schema : List (Text × Json)) (name : Text) : Bool :=
  (lookup "patternProperties" schema).any (hasPatternFor name)

/-- The number of items of a value that has items. -/
def itemCount : Json → Option Nat
  | array js => some js.length
  | _ => none

/-- How many items have schemas of their own. -/
def prefixLength (schema : List (Text × Json)) : Nat :=
  ((lookup "prefixItems" schema).bind itemCount).getD 0

/-- Whether a number is in an order to a limit; what is no number is not asked. -/
def limits (limit j : Json) (isRight : Ordering → Bool) : Bool :=
  match limit.place?, j.place? with
  | some p, some q => isRight (q.compare p)
  | some _, none => true
  | none, _ => false

/-- Whether a number is a multiple of another one. -/
def isMultipleOf (of j : Json) : Bool :=
  match of.place?, j.place? with
  | some (.at n d), some (.at m e) => n != 0 && (m * d) % (n * e) == 0
  | some _, none => true
  | _, _ => false

/-- Whether a count is in an order to a limit; what has none is not asked. -/
def counts (limit : Json) (count : Option Nat) (isRight : Int → Int → Bool) : Bool :=
  match limit, count with
  | int n, some m => isRight n m
  | int _, none => true
  | _, _ => false

/-- The number of members of a value that has members. -/
def memberCount : Json → Option Nat
  | object ms => some ms.length
  | _ => none

/-- The number of characters of a value that has characters. -/
def pointCount : Json → Option Nat
  | text t => some t.length
  | _ => none

/-- Whether a keyword of a schema with some value holds of a value; `follow` says so of a reference, and
`sub` of a schema. -/
def holds (follow : Text → Json → Bool) (sub : Json → Json → Bool) (schema : List (Text × Json))
    (keyword : Keyword) (k j : Json) : Bool :=
  match keyword with
  | .ref => match k with
    | text t => follow t j
    | _ => false
  | .type => match k with
    | text t => isOfType t j
    | array ts => ts.any fun t => t.text?.any (isOfType · j)
    | _ => false
  | .const => equal k j
  | .enum => match k with
    | array ks => ks.any (equal · j)
    | _ => false
  | .anyOf => match k with
    | array ks => ks.any (sub · j)
    | _ => false
  | .oneOf => match k with
    | array ks => ks.countP (sub · j) == 1
    | _ => false
  | .items => match j with
    | array js => (js.drop (prefixLength schema)).all (sub k)
    | _ => true
  | .prefixItems => match k, j with
    | array ks, array js => (ks.zip js).all fun (k, j) => sub k j
    | array _, _ => true
    | _, _ => false
  | .minItems => counts k j.itemCount fun least n => least ≤ n
  | .maxItems => counts k j.itemCount fun most n => n ≤ most
  | .uniqueItems => match k, j with
    | bool true, array js => areDistinct js
    | bool _, _ => true
    | _, _ => false
  | .properties => match k, j with
    | object properties, object ms => ms.all fun m =>
      (lookup m.1 properties).all fun k => sub k m.2
    | object _, _ => true
    | _, _ => false
  | .required => match k, j with
    | array names, object ms => names.all fun n => n.text?.any fun n => (lookup n ms).isSome
    | array _, _ => true
    | _, _ => false
  | .additionalProperties => match j with
    | object ms => ms.all fun m => declares schema m.1 || matchesName schema m.1 || sub k m.2
    | _ => true
  | .patternProperties => match k, j with
    | object patterns, object ms => ms.all fun m => patterns.all fun p =>
      !Pattern.isMet p.1 m.1 || sub p.2 m.2
    | object _, _ => true
    | _, _ => false
  | .propertyNames => match j with
    | object ms => ms.all fun m => sub k (text m.1)
    | _ => true
  | .minProperties => counts k j.memberCount fun least n => least ≤ n
  | .maxProperties => counts k j.memberCount fun most n => n ≤ most
  | .minLength => counts k j.pointCount fun least n => least ≤ n
  | .maxLength => counts k j.pointCount fun most n => n ≤ most
  | .pattern => match k, j with
    | text source, text t => Pattern.isMet source t
    | text _, _ => true
    | _, _ => false
  | .minimum => limits k j (· != .lt)
  | .exclusiveMinimum => limits k j (· == .gt)
  | .maximum => limits k j (· != .gt)
  | .exclusiveMaximum => limits k j (· == .lt)
  | .multipleOf => isMultipleOf k j

/-- Whether a member of a schema holds of a value. -/
def holdsMember (follow : Text → Json → Bool) (sub : Json → Json → Bool) (schema : List (Text × Json))
    (key : Text) (k j : Json) : Bool :=
  match Keyword.of? key with
  | some keyword => holds follow sub schema keyword k j
  | none => true

/-- Whether a schema accepts a value, where references lead as `target?` says; the number bounds how deep
the search goes. -/
def accepts (target? : Text → Option Json) : Nat → Json → Json → Bool
  | 0, _, _ => false
  | _ + 1, bool b, _ => b
  | n + 1, object ms, j => ms.all fun m =>
    holdsMember (fun t j => (target? t).any fun k => accepts target? n k j) (accepts target? n) ms
      m.1 m.2 j
  | _ + 1, _, _ => false

/-- Where a reference within a document leads. -/
def target? (document : Json) (reference : Text) : Option Json :=
  if reference = "#" then some document
  else if reference.startsWith "#/$defs/" then
    (document.get? "$defs").bind (·.get? (reference.drop 8))
  else none

/-- A value is valid under a schema, which is published with its keys in order, if it is accepted from
some bound on. -/
def IsValid (schema j : Json) : Prop :=
  ∀ᶠ n in Filter.atTop, accepts (target? schema.sortKeys) n schema.sortKeys j = true

/-! ### The order of keys -/

end Json

namespace Text

theorem pointsLt_iff (as bs : List CodePoint) :
    pointsLt as bs = true ↔ as.map CodePoint.toNat < bs.map CodePoint.toNat := by
  fun_induction pointsLt as bs with
  | case1 as => simp
  | case2 b bs => simp
  | case3 a as b bs less => simp [List.cons_lt_cons_iff, less]
  | case4 a as b bs notLess greater =>
    have other : a.toNat ≠ b.toNat := by omega
    simp [List.cons_lt_cons_iff, notLess, other]
  | case5 a as b bs notLess notGreater ih =>
    have same : a.toNat = b.toNat := by omega
    simp [same, ih]

/-- Texts are ordered as the lists of the numbers of their code points. -/
theorem le_iff (s t : Text) :
    s.le t = true ↔ s.points.map CodePoint.toNat ≤ t.points.map CodePoint.toNat := by
  rw [le, lt, Bool.not_eq_true', ← Bool.not_eq_true, pointsLt_iff, not_lt]

theorem le_trans {s t u : Text} (h : s.le t = true) (h' : t.le u = true) : s.le u = true := by
  rw [le_iff] at h h' ⊢
  exact h.trans h'

theorem le_total (s t : Text) : (s.le t || t.le s) = true := by
  rw [Bool.or_eq_true, le_iff, le_iff]
  exact Or.symm (LinearOrder.le_total _ _)

end Text

namespace Json

variable {key name : Text} {ms ns : List (Text × Json)} {j : Json}

theorem lookup_eq_head? (key : Text) (ms : List (Text × Json)) :
    lookup key ms = (ms.filter (·.1 = key)).head?.map (·.2) := by
  induction ms with
  | nil => rfl
  | cons m ms ih =>
    rw [lookup]
    by_cases same : m.1 = key
    · rw [if_pos same, List.filter_cons_of_pos (by simpa using same)]
      rfl
    · rw [if_neg same, List.filter_cons_of_neg (by simpa using same), ih]

theorem mem_of_lookup (found : lookup key ms = some j) : (key, j) ∈ ms := by
  induction ms with
  | nil => cases found
  | cons m ms ih =>
    rw [lookup] at found
    split at found
    next same => exact same ▸ Option.some.inj found ▸ List.mem_cons_self
    next => exact List.mem_cons_of_mem _ (ih found)

theorem isSome_lookup {name : Text} (h : ∃ m ∈ ms, m.1 = name) :
    (lookup name ms).isSome = true := by
  obtain ⟨m, member, rfl⟩ := h
  induction ms with
  | nil => cases member
  | cons n ms ih =>
    rw [lookup]
    split
    · rfl
    next other =>
      rcases List.mem_cons.mp member with rfl | member
      · exact absurd rfl other
      · exact ih member

/-- Putting keys in order keeps the members under one key in their order. -/
theorem filter_mergeSort (key : Text) (ms : List (Text × Json)) :
    (ms.mergeSort fun a b => Text.le a.1 b.1).filter (·.1 = key) = ms.filter (·.1 = key) := by
  have ordered : (ms.filter (·.1 = key)).Pairwise fun a b => Text.le a.1 b.1 = true := by
    refine List.pairwise_of_forall_mem_list fun a ha b hb => ?_
    have first : a.1 = key := by simpa using (List.mem_filter.mp ha).2
    have second : b.1 = key := by simpa using (List.mem_filter.mp hb).2
    rw [first, second]
    simpa using Text.le_total key key
  have kept := @List.sublist_mergeSort _ (fun (a b : Text × Json) => Text.le a.1 b.1) _
    (fun _ _ _ => Text.le_trans) (fun a b => Text.le_total a.1 b.1) _ ordered List.filter_sublist
  have within := kept.filter (·.1 = key)
  rw [List.filter_filter] at within
  simp only [Bool.and_self] at within
  have lengths : (ms.filter (·.1 = key)).length
      = ((ms.mergeSort fun a b => Text.le a.1 b.1).filter (·.1 = key)).length :=
    ((List.mergeSort_perm ms _).filter _).length_eq.symm
  exact (within.eq_of_length lengths).symm

theorem sortKeysMembers_eq_map (ms : List (Text × Json)) :
    sortKeysMembers ms = ms.map fun m => (m.1, m.2.sortKeys) := by
  induction ms with
  | nil => rfl
  | cons m ms ih => rw [sortKeysMembers, List.map_cons, ih]

theorem sortKeysItems_eq_map (js : List Json) : sortKeysItems js = js.map sortKeys := by
  induction js with
  | nil => rfl
  | cons j js ih => rw [sortKeysItems, List.map_cons, ih]

/-- The members of an object with keys in order. -/
def sortedMembers (ms : List (Text × Json)) : List (Text × Json) :=
  (sortKeysMembers ms).mergeSort fun a b => Text.le a.1 b.1

theorem sortKeys_object (ms : List (Text × Json)) : (object ms).sortKeys = object (sortedMembers ms) :=
  rfl

theorem sortedMembers_perm (ms : List (Text × Json)) :
    (sortedMembers ms).Perm (ms.map fun m => (m.1, m.2.sortKeys)) := by
  rw [sortedMembers, sortKeysMembers_eq_map]
  exact List.mergeSort_perm _ _

theorem lookup_sortedMembers (key : Text) (ms : List (Text × Json)) :
    lookup key (sortedMembers ms) = (lookup key ms).map sortKeys := by
  rw [lookup_eq_head?, sortedMembers, filter_mergeSort, sortKeysMembers_eq_map, List.filter_map,
    lookup_eq_head?, List.head?_map, Option.map_map, Option.map_map]
  rfl

theorem get?_sortKeys (j : Json) (key : Text) : j.sortKeys.get? key = (j.get? key).map sortKeys := by
  cases j with
  | object ms => exact lookup_sortedMembers key ms
  | _ => rfl

/-! ### Siblings of a keyword -/

/-- Two schemas describe the same properties, and as many items. -/
structure Alike (ms ns : List (Text × Json)) : Prop where
  declares : ∀ name, declares ms name = declares ns name
  matchesName : ∀ name, matchesName ms name = matchesName ns name
  prefixLength : prefixLength ms = prefixLength ns

theorem Alike.trans {ls : List (Text × Json)} (h : Alike ls ms) (h' : Alike ms ns) : Alike ls ns where
  declares name := (h.declares name).trans (h'.declares name)
  matchesName name := (h.matchesName name).trans (h'.matchesName name)
  prefixLength := h.prefixLength.trans h'.prefixLength

/-- What a keyword says depends on no more of the other ones. -/
theorem Alike.holdsMember (h : Alike ms ns) (follow : Text → Json → Bool) (sub : Json → Json → Bool)
    (key : Text) (k j : Json) :
    holdsMember follow sub ms key k j = holdsMember follow sub ns key k j := by
  unfold Json.holdsMember
  split
  next keyword _ =>
    cases keyword with
    | items =>
      simp only [holds, h.prefixLength]
    | additionalProperties =>
      simp only [holds, h.declares, h.matchesName]
    | _ => rfl
  next => rfl

/-- The values of members may change, but neither the names of properties, nor the patterns of names, nor
the number of items. -/
theorem Alike.of_lookup (f : Text → Json → Json)
    (found : ∀ key, lookup key ms = (lookup key ns).map (f key))
    (properties : ∀ j name, ((f "properties" j).get? name).isSome = (j.get? name).isSome)
    (patterns : ∀ j name, hasPatternFor name (f "patternProperties" j) = hasPatternFor name j)
    (items : ∀ j, itemCount (f "prefixItems" j) = itemCount j) : Alike ms ns where
  declares name := by
    rw [Json.declares, Json.declares, found]
    cases lookup "properties" ns with
    | none => rfl
    | some j => exact properties j name
  matchesName name := by
    rw [Json.matchesName, Json.matchesName, found]
    cases lookup "patternProperties" ns with
    | none => rfl
    | some j => exact patterns j name
  prefixLength := by
    rw [Json.prefixLength, Json.prefixLength, found]
    cases lookup "prefixItems" ns with
    | none => rfl
    | some j => exact congrArg (·.getD 0) (items j)

/-- What stands under keywords must be the same. -/
theorem Alike.of_keywords (same : ∀ key, (Keyword.of? key).isSome = true → lookup key ms = lookup key ns) :
    Alike ms ns where
  declares name := by rw [Json.declares, Json.declares, same _ (by decide)]
  matchesName name := by rw [Json.matchesName, Json.matchesName, same _ (by decide)]
  prefixLength := by rw [Json.prefixLength, Json.prefixLength, same _ (by decide)]

theorem alike_sortedMembers (ms : List (Text × Json)) : Alike (sortedMembers ms) ms :=
  .of_lookup (fun _ => sortKeys) (fun key => lookup_sortedMembers key ms)
    (fun j name => by rw [get?_sortKeys, Option.isSome_map])
    (fun j name => by
      cases j with
      | object patterns =>
        rw [sortKeys_object, hasPatternFor, hasPatternFor, (sortedMembers_perm patterns).any_eq,
          List.any_map]
        rfl
      | _ => rfl)
    (fun j => by
      cases j with
      | array js => rw [sortKeys, itemCount, itemCount, sortKeysItems_eq_map, List.length_map]
      | _ => rfl)

/-- Where a reference leads while a bound is left. -/
def followed (target? : Text → Option Json) (n : Nat) (t : Text) (j : Json) : Bool :=
  (target? t).any fun k => accepts target? n k j

/-- A schema with its keys in order accepts what all its keywords hold of, in whatever order. -/
theorem accepts_object (target? : Text → Option Json) (n : Nat) (ms : List (Text × Json)) (j : Json) :
    accepts target? (n + 1) (object ms).sortKeys j = ms.all fun m =>
      holdsMember (followed target? n) (accepts target? n) ms m.1 m.2.sortKeys j := by
  rw [sortKeys_object, accepts, (sortedMembers_perm ms).all_eq, List.all_map]
  refine congrArg (List.all ms) (funext fun m => ?_)
  exact (alike_sortedMembers ms).holdsMember _ _ _ _ _

end Json

/-! ### The order of members -/

theorem Text.le_antisymm {s t : Text} (h : s.le t = true) (h' : t.le s = true) : s = t := by
  rw [le_iff] at h h'
  have points : s.points.map CodePoint.toNat = t.points.map CodePoint.toNat := h.antisymm h'
  have same := (List.map_inj_right fun _ _ => CodePoint.toNat_inj).mp points
  cases s
  cases t
  exact congrArg Text.mk same

namespace Json

variable {ms ns : List (Text × Json)}

theorem sortedMembers_pairwise (ms : List (Text × Json)) :
    (sortedMembers ms).Pairwise fun a b => Text.le a.1 b.1 = true :=
  @List.pairwise_mergeSort _ (fun (a b : Text × Json) => Text.le a.1 b.1) (fun _ _ _ => Text.le_trans)
    (fun a b => Text.le_total a.1 b.1) _

/-- Members under different keys that are the same but for their order, and for the order of members
within them, make objects that are. -/
theorem sortKeys_object_eq (nodup : (ms.map (·.1)).Nodup)
    (perm : (ms.map fun m => (m.1, m.2.sortKeys)).Perm (ns.map fun m => (m.1, m.2.sortKeys))) :
    (object ms).sortKeys = (object ns).sortKeys := by
  have sorted : (sortedMembers ms).Perm (sortedMembers ns) :=
    (sortedMembers_perm ms).trans (perm.trans (sortedMembers_perm ns).symm)
  have keys : ((sortedMembers ms).map (·.1)).Nodup := by
    refine (((sortedMembers_perm ms).map _).nodup_iff).mpr ?_
    rwa [List.map_map]
  rw [sortKeys_object, sortKeys_object]
  refine congrArg object (sorted.eq_of_pairwise (fun a b member member' le le' => ?_)
    (sortedMembers_pairwise ms) (sortedMembers_pairwise ns))
  exact List.inj_on_of_nodup_map keys member (sorted.mem_iff.mpr member') (Text.le_antisymm le le')

/-- An integer can be sent if it has no more digits than the limit. -/
theorem isSendable_int_iff {n : Int} : (int n).isSendable = true ↔ n.natAbs < 10 ^ Text.digitLimit := by
  rw [isSendable, decide_eq_true_eq]
  exact Nat.length_toDigits_le_iff (by decide) (by decide)

theorem areSendable_eq_all (js : List Json) : areSendable js = js.all isSendable := by
  induction js with
  | nil => rfl
  | cons j js ih => rw [areSendable, ih, List.all_cons]

theorem areSendableMembers_eq_all (ms : List (Text × Json)) :
    areSendableMembers ms = ms.all (·.2.isSendable) := by
  induction ms with
  | nil => rfl
  | cons m ms ih => rw [areSendableMembers, ih, List.all_cons]

mutual

/-- The order of members decides nothing about what can be sent. -/
theorem isSendable_sortKeys (j : Json) : j.sortKeys.isSendable = j.isSendable := by
  cases j with
  | array js => exact areSendable_sortKeysItems js
  | object ms =>
    rw [sortKeys_object, isSendable, areSendableMembers_eq_all, (sortedMembers_perm ms).all_eq,
      ← sortKeysMembers_eq_map, ← areSendableMembers_eq_all, isSendable]
    exact areSendableMembers_sortKeysMembers ms
  | _ => rfl

theorem areSendable_sortKeysItems (js : List Json) : areSendable (sortKeysItems js) = areSendable js := by
  cases js with
  | nil => rfl
  | cons j js => rw [sortKeysItems, areSendable, areSendable, isSendable_sortKeys, areSendable_sortKeysItems]

theorem areSendableMembers_sortKeysMembers (ms : List (Text × Json)) :
    areSendableMembers (sortKeysMembers ms) = areSendableMembers ms := by
  match ms with
  | [] => rfl
  | (key, j) :: ms =>
    rw [sortKeysMembers, areSendableMembers, areSendableMembers, isSendable_sortKeys,
      areSendableMembers_sortKeysMembers]

end

end Json

end GuardedTools
