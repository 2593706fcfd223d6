import GuardedTools.Proofs.Json.Finite
import GuardedTools.Proofs.Json.Strict
import GuardedTools.Proofs.Json.Validity
import GuardedTools.Proofs.Shape.Glossary

/-!
# Documents that are read back

What callers see of a schema is not the document that was made but what is read back of its canonical
text, with the keys in order (`Json.recovered`).  Where the keys of an object differ and are Unicode, what
stands under a key is what stood there before, recovered (`Json.get?_recovered`).

The names of classes are made of letters, digits, hyphens and underscores (`ClassSchema.isScalar_plainName`),
and the table of a document has each of them once.  So references lead in the document that is read back
where they led before (`Definitions.recalls_of_mem_used`).
-/

namespace GuardedTools

/-! ### Values -/

namespace Json

/-- A value as it is read back from its canonical text, with its keys in order. -/
def recovered (j : Json) : Json := j.sortKeys.readBack.sortKeys

variable {key t : Text} {j k : Json} {ms ns : List (Text × Json)}

theorem recovered_text (unicode : t.isScalar = true) : (text t).recovered = text t := by
  show text t.joined = text t
  rw [Text.joined_of_isScalar unicode]

theorem readBackItems_eq_map (js : List Json) : readBackItems js = js.map readBack := by
  induction js with
  | nil => rfl
  | cons j js ih => rw [readBackItems, List.map_cons, ih]

theorem recovered_array (js : List Json) : (array js).recovered = array (js.map recovered) := by
  have items : (array js).recovered = array (((js.map sortKeys).map readBack).map sortKeys) := by
    show array (sortKeysItems (readBackItems (sortKeysItems js))) = _
    rw [sortKeysItems_eq_map, readBackItems_eq_map, sortKeysItems_eq_map]
  rw [items, List.map_map, List.map_map]
  rfl

/-- Texts in a list are recovered as they are. -/
theorem recovered_texts {ts : List Text} (unicode : ∀ t ∈ ts, t.isScalar = true) :
    (array (ts.map text)).recovered = array (ts.map text) := by
  rw [recovered_array, List.map_map]
  exact congrArg array (List.map_congr_left fun t member => recovered_text (unicode t member))

theorem recovered_eq_of_sortKeys (same : j.sortKeys = k.sortKeys) : j.recovered = k.recovered := by
  rw [recovered, same, ← recovered]

/-! ### Plain keys -/

theorem hasPlainKeys_iff :
    hasPlainKeys ms = true ↔ (ms.map (·.1)).Nodup ∧ ∀ k ∈ ms.map (·.1), Text.isScalar k = true := by
  rw [hasPlainKeys, Bool.and_eq_true, decide_eq_true_eq, List.all_eq_true, List.forall_mem_map]

/-- Whether keys are plain is seen of the keys alone. -/
theorem hasPlainKeys_of_keys (keys : List Text) (same : ms.map (·.1) = keys)
    (plain : (decide keys.Nodup && keys.all Text.isScalar) = true) : hasPlainKeys ms = true := by
  rw [Bool.and_eq_true, decide_eq_true_eq, List.all_eq_true] at plain
  rw [hasPlainKeys_iff, same]
  exact plain

theorem keys_put (ms : List (Text × Json)) :
    (put key j ms).map (·.1) = if key ∈ ms.map (·.1) then ms.map (·.1) else ms.map (·.1) ++ [key] := by
  induction ms with
  | nil => rfl
  | cons m ms ih =>
    rw [put]
    by_cases same : m.1 = key
    · rw [if_pos same, if_pos (by rw [List.map_cons, same]; exact List.mem_cons_self)]
      rfl
    · have other : key ∈ (m :: ms).map (·.1) ↔ key ∈ ms.map (·.1) := by
        rw [List.map_cons, List.mem_cons]
        exact ⟨fun h => h.resolve_left (Ne.symm same), Or.inr⟩
      rw [if_neg same, List.map_cons, ih]
      by_cases among : key ∈ ms.map (·.1)
      · rw [if_pos among, if_pos (other.mpr among), List.map_cons]
      · rw [if_neg among, if_neg (mt other.mp among), List.map_cons, List.cons_append]

/-- A member with a Unicode key can be put among plain ones. -/
theorem hasPlainKeys_put (unicode : key.isScalar = true) (plain : hasPlainKeys ms = true) :
    hasPlainKeys (put key j ms) = true := by
  rw [hasPlainKeys_iff] at plain ⊢
  obtain ⟨nodup, scalars⟩ := plain
  rw [keys_put]
  by_cases among : key ∈ ms.map (·.1)
  · rw [if_pos among]
    exact ⟨nodup, scalars⟩
  · rw [if_neg among]
    constructor
    · exact (List.perm_append_singleton key _).nodup_iff.mpr (List.nodup_cons.mpr ⟨among, nodup⟩)
    · intro k member
      rcases List.mem_append.mp member with before | new
      · exact scalars k before
      · exact List.mem_singleton.mp new ▸ unicode

theorem hasPlainKeys_foldl_put (unicode : ∀ n ∈ ns, n.1.isScalar = true) (plain : hasPlainKeys ms = true) :
    hasPlainKeys (ns.foldl (fun ms n => put n.1 n.2 ms) ms) = true := by
  induction ns generalizing ms with
  | nil => exact plain
  | cons n ns ih =>
    rw [List.forall_mem_cons] at unicode
    exact ih unicode.2 (hasPlainKeys_put unicode.1 plain)

theorem hasPlainKeys_remove (plain : hasPlainKeys ms = true) : hasPlainKeys (remove key ms) = true := by
  have kept : ((remove key ms).map (·.1)).Sublist (ms.map (·.1)) := List.filter_sublist.map _
  rw [hasPlainKeys_iff] at plain ⊢
  exact ⟨plain.1.sublist kept, fun k member => plain.2 k (kept.subset member)⟩

/-- Under a plain key there stands what stood there, recovered. -/
theorem get?_recovered (plain : hasPlainKeys ms = true) (key : Text) :
    (object ms).recovered.get? key = (lookup key ms).map recovered := by
  rw [recovered, get?_sortKeys, get?_sortKeys_readBack plain, Option.map_map]
  rfl

/-! ### What is read back as it was -/

mutual

/-- Whether a value is read back as it was: its texts are Unicode, its keys are plain, and its numbers are
those that their numerals are read as. -/
def isReread : Json → Bool
  | text t => t.isScalar
  | float x => x.reread == x
  | array items => areReread items
  | object members => hasPlainKeys members && areRereadMembers members
  | _ => true

def areReread : List Json → Bool
  | [] => true
  | j :: js => isReread j && areReread js

def areRereadMembers : List (Text × Json) → Bool
  | [] => true
  | (_, j) :: ms => isReread j && areRereadMembers ms

end

mutual

/-- What is read back as it was is what is read back. -/
theorem readBack_of_isReread {j : Json} (h : j.isReread = true) : j.readBack = j := by
  match j with
  | null | bool _ | int _ => rfl
  | text t => exact congrArg text (Text.joined_of_isScalar h)
  | float x => exact congrArg float (eq_of_beq h)
  | array js => exact congrArg array (readBackItems_of_areReread h)
  | object ms =>
    rw [isReread, Bool.and_eq_true, hasPlainKeys_iff] at h
    obtain ⟨⟨distinct, unicode⟩, inner⟩ := h
    rw [readBack, readBackMembers_of_areReread unicode inner]
    exact ofMembers_of_nodup distinct

theorem readBackItems_of_areReread {js : List Json} (h : areReread js = true) :
    readBackItems js = js := by
  match js with
  | [] => rfl
  | j :: js =>
    rw [areReread, Bool.and_eq_true] at h
    rw [readBackItems, readBack_of_isReread h.1, readBackItems_of_areReread h.2]

theorem readBackMembers_of_areReread {ms : List (Text × Json)}
    (unicode : ∀ k ∈ ms.map (·.1), k.isScalar = true) (h : areRereadMembers ms = true) :
    readBackMembers ms = ms := by
  match ms with
  | [] => rfl
  | (key, j) :: ms =>
    rw [areRereadMembers, Bool.and_eq_true] at h
    obtain ⟨first, others⟩ := List.forall_mem_cons.mp unicode
    rw [readBackMembers, readBack_of_isReread h.1, readBackMembers_of_areReread others h.2,
      Text.joined_of_isScalar first]

end

/-- Members that are in order, and of which each has its members in order, stay as they are. -/
theorem sortedMembers_of_pairwise (kept : ∀ m ∈ ms, m.2.sortKeys = m.2)
    (ordered : ms.Pairwise fun a b => Text.le a.1 b.1 = true) : sortedMembers ms = ms := by
  have same : sortKeysMembers ms = ms := by
    have each : ∀ m ∈ ms, (m.1, m.2.sortKeys) = m := fun m member => Prod.ext rfl (kept m member)
    rw [sortKeysMembers_eq_map, List.map_congr_left each, List.map_id']
  rw [sortedMembers, same]
  exact List.mergeSort_of_pairwise ordered

mutual

/-- Putting keys in order again changes nothing. -/
theorem sortKeys_sortKeys (j : Json) : j.sortKeys.sortKeys = j.sortKeys := by
  cases j with
  | array js => exact congrArg array (sortKeysItems_sortKeysItems js)
  | object ms =>
    -- The members are in order, and each of them has its own members in order.
    have kept := sortKeys_of_mem_sortKeysMembers ms
    rw [sortKeys_object, sortKeys_object]
    refine congrArg object (sortedMembers_of_pairwise (fun m member => ?_) (sortedMembers_pairwise ms))
    rw [(sortedMembers_perm ms).mem_iff, ← sortKeysMembers_eq_map] at member
    exact kept m member
  | _ => rfl

theorem sortKeysItems_sortKeysItems (js : List Json) :
    sortKeysItems (sortKeysItems js) = sortKeysItems js := by
  cases js with
  | nil => rfl
  | cons j js => rw [sortKeysItems, sortKeysItems, sortKeys_sortKeys, sortKeysItems_sortKeysItems]

theorem sortKeys_of_mem_sortKeysMembers (ms : List (Text × Json)) :
    ∀ m ∈ sortKeysMembers ms, m.2.sortKeys = m.2 := by
  match ms with
  | [] => nofun
  | (key, j) :: ms =>
    rw [sortKeysMembers]
    exact List.forall_mem_cons.mpr ⟨sortKeys_sortKeys j, sortKeys_of_mem_sortKeysMembers ms⟩

end

mutual

/-- What is read back as it was is so too when its keys are in order. -/
theorem readBack_sortKeys {j : Json} (h : j.isReread = true) : j.sortKeys.readBack = j.sortKeys := by
  match j with
  | null | bool _ | int _ => rfl
  | text t => exact congrArg text (Text.joined_of_isScalar h)
  | float x => exact congrArg float (eq_of_beq h)
  | array js => exact congrArg array (readBackItems_sortKeysItems h)
  | object ms =>
    rw [isReread, Bool.and_eq_true] at h
    obtain ⟨plain, inner⟩ := h
    have each := readBack_of_mem_sortKeysMembers inner
    rw [hasPlainKeys_iff] at plain
    -- Putting keys in order keeps them different, so that no member replaces another one.
    have perm := sortedMembers_perm ms
    have keys : ((sortedMembers ms).map (·.1)).Perm (ms.map (·.1)) := by
      refine (perm.map _).trans ?_
      rw [List.map_map]
      exact .refl _
    have same : readBackMembers (sortedMembers ms) = sortedMembers ms := by
      have kept : ∀ m ∈ sortedMembers ms, (m.1.joined, m.2.readBack) = m := by
        intro m member
        have unicode := plain.2 m.1 (keys.mem_iff.mp (List.mem_map_of_mem member))
        rw [perm.mem_iff, ← sortKeysMembers_eq_map] at member
        exact Prod.ext (Text.joined_of_isScalar unicode) (each m member)
      rw [readBackMembers_eq_map, List.map_congr_left kept, List.map_id']
    rw [sortKeys_object, readBack, same]
    exact ofMembers_of_nodup (keys.nodup_iff.mpr plain.1)

theorem readBackItems_sortKeysItems {js : List Json} (h : areReread js = true) :
    readBackItems (sortKeysItems js) = sortKeysItems js := by
  match js with
  | [] => rfl
  | j :: js =>
    rw [areReread, Bool.and_eq_true] at h
    rw [sortKeysItems, readBackItems, readBack_sortKeys h.1, readBackItems_sortKeysItems h.2]

theorem readBack_of_mem_sortKeysMembers {ms : List (Text × Json)} (h : areRereadMembers ms = true) :
    ∀ m ∈ sortKeysMembers ms, m.2.readBack = m.2 := by
  match ms with
  | [] => nofun
  | (key, j) :: ms =>
    rw [areRereadMembers, Bool.and_eq_true] at h
    rw [sortKeysMembers]
    exact List.forall_mem_cons.mpr ⟨readBack_sortKeys h.1, readBack_of_mem_sortKeysMembers h.2⟩

end

/-- What is valid under a schema is valid under what callers see of it, if the schema is read back as it
was. -/
theorem isValid_readBack {v : Json} (h : j.isReread = true) (valid : j.IsValid v) :
    j.sortKeys.readBack.IsValid v := by
  rw [readBack_sortKeys h, IsValid, sortKeys_sortKeys]
  exact valid

end Json

/-! ### Schemas with names -/

namespace Definitions

open Json

variable {ρ : Text → Text} {key : Text} {ms : List (Text × Json)}

theorem hasPlainKeys_renamedMembers (part : Part) (plain : hasPlainKeys ms = true) :
    hasPlainKeys (renamedMembers ρ part ms) = true := by
  rw [hasPlainKeys_iff, keys_renamedMembers]
  exact hasPlainKeys_iff.mp plain

/-- A member of a schema is renamed, and then recovered. -/
theorem get?_recovered_renamed (plain : hasPlainKeys ms = true) (key : Text) :
    (renamed ρ (.object ms)).recovered.get? key
      = (lookup key ms).map fun j => (renamedMember ρ .schema key j).recovered := by
  rw [renamed, get?_recovered (hasPlainKeys_renamedMembers .schema plain), lookup_renamedMembers, Option.map_map]
  rfl

end Definitions

/-! ### Names of classes -/

namespace ClassSchema

/-- A code point that is found in a plain name is a scalar value. -/
theorem isScalar_plainName (t : Text) : (plainName t).isScalar = true := by
  have ascii {p : CodePoint} (below : p.toNat < 128) : ∃ c, p = .scalar c := by
    cases p with
    | scalar c => exact ⟨c, rfl⟩
    | surrogate offset =>
      rw [CodePoint.toNat] at below
      omega
  have mark {p : CodePoint} {c : Char} (same : p.is c = true) : ∃ c, p = .scalar c := ⟨c, eq_of_beq same⟩
  rw [plainName, Text.isScalar, List.all_eq_true]
  intro q member
  obtain ⟨p, -, among⟩ := List.mem_flatMap.mp member
  suffices scalar : ∃ c, q = .scalar c by
    obtain ⟨c, rfl⟩ := scalar
    rfl
  split_ifs at among with point kept
  · exact ⟨'_', by simpa using among⟩
  · obtain rfl := List.mem_singleton.mp among
    simp only [Bool.or_eq_true, CodePoint.isLetter, CodePoint.isDigit, CodePoint.between, Bool.and_eq_true,
      decide_eq_true_eq] at kept
    rcases kept with ((letter | digit) | hyphen) | underscore
    · exact ascii (by omega)
    · exact ascii (by omega)
    · exact mark hyphen
    · exact mark underscore
  · exact ⟨'_', List.mem_singleton.mp among⟩

/-- All names that a class may have are Unicode. -/
theorem isScalar_of_mem_candidates {c : ClassSchema} {occurrence : Nat} {name : Text}
    (member : name ∈ c.candidates occurrence) : name.isScalar = true := by
  have short : c.shortName.isScalar = true := isScalar_plainName _
  have full : c.fullName.isScalar = true := isScalar_plainName _
  have input : (("-Input" : Text)).isScalar = true := rfl
  have underscores : (("__" : Text)).isScalar = true := rfl
  simp only [candidates, List.mem_cons, List.not_mem_nil, or_false] at member
  rcases member with rfl | rfl | rfl | rfl | rfl | rfl <;>
    simp only [Text.isScalar_append, Text.isScalar_ofNat, short, full, input, underscores, Bool.and_self]

end ClassSchema

namespace Definitions

open Json

/-! ### Where references lead -/

section Document

variable {ds : Definitions} {root doc : Json} {ms : List (Text × Json)} {names : List (Nat × Text)}

/-- The names that a schema gives to classes are Unicode. -/
theorem isScalar_of_names? {schema : Json} (h : ds.names? schema = some names) :
    ∀ n ∈ names, n.2.isScalar = true := by
  have settled := namesOf?_eq_some (settleNames_eq_some h)
  intro n member
  obtain ⟨candidate, among, -, chosen⟩ := exists_left_of_mem settled member
  obtain ⟨k, -, found⟩ := List.mem_filterMap.mp among
  obtain ⟨c, -, rfl⟩ := Option.map_eq_some_iff.mp found
  exact ClassSchema.isScalar_of_mem_candidates (List.mem_of_find?_eq_some chosen)

/-- The keys of the table of a document are plain. -/
theorem hasPlainKeys_table (unicode : ∀ n ∈ names, n.2.isScalar = true) :
    hasPlainKeys (ds.table names) = true := by
  -- The table is filled by putting one member for each name.
  have filled : ds.table names
      = (names.map fun n => (n.2, ds.namedSchema names n.1)).foldl (fun ms m => put m.1 m.2 ms) [] := by
    rw [table, List.foldl_map]
  rw [filled]
  refine hasPlainKeys_foldl_put ?_ rfl
  rw [List.forall_mem_map]
  exact unicode

/-- References to the class of a number are texts that are recovered as they are, and lead in the document
that is read back to the schema of the class. -/
def Recalls (ds : Definitions) (target? : Text → Option Json) (names : List (Nat × Text)) (n : Nat) : Prop :=
  ∃ c, ds[n]? = some c ∧ ∀ self t, numberOf? self t = some n →
    (namedReference names self t).isScalar = true ∧
      target? (namedReference names self t)
        = some (renamed (namedReference names (some n)) c.schema).recovered

/-- A reference to a name leads to what the table of a document has under it. -/
theorem target?_recovered {table : List (Text × Json)} (plain : hasPlainKeys ms = true)
    (defined : lookup "$defs" ms = some (.object table)) (plainTable : hasPlainKeys table = true) (name : Text) :
    Json.target? (Json.object ms).recovered (referenceStart ++ name) = (lookup name table).map recovered := by
  have object : (Json.object ms).sortKeys.readBack.get? "$defs" = some (Json.object table).sortKeys.readBack := by
    rw [get?_sortKeys_readBack plain, defined]
    rfl
  obtain ⟨entries, is⟩ : ∃ entries, (Json.object table).sortKeys.readBack = .object entries := ⟨_, rfl⟩
  rw [is] at object
  rw [recovered, target?_name object, ← Json.get?, ← is, get?_sortKeys_readBack plainTable, Option.map_map]
  rfl

/-- In a document that is read back references to the classes that its root leads to lead to their
schemas. -/
theorem recalls_of_mem_used (members : ds.opened root = .object ms) (plain : hasPlainKeys ms = true)
    (h : ds.document? root = some doc) (settled : ds.names? (.object ms) = some names)
    {n : Nat} (used : n ∈ ds.used (.object ms)) (inside : n < ds.length) :
    ds.Recalls (Json.target? doc.recovered) names n := by
  obtain ⟨names', settled', rfl⟩ := document?_eq_some members h
  obtain rfl := Option.some.inj (settled.symm.trans settled')
  obtain ⟨name, found⟩ := names?_eq_some settled used inside
  have unicode := isScalar_of_names? settled
  have member : (n, name) ∈ names := List.mem_of_find?_eq_some found
  have some : ¬names.isEmpty = true := by
    rw [List.isEmpty_iff]
    exact List.ne_nil_of_mem member
  have plainRoot : hasPlainKeys (Json.put "$defs" (.object (ds.table names))
      (renamedMembers (namedReference names none) .schema ms)) = true :=
    hasPlainKeys_put rfl (hasPlainKeys_renamedMembers .schema plain)
  -- Of the classes with this name the table has one, and all of them have one schema.
  obtain ⟨m, among, defined⟩ := lookup_table ds member
  have one : (ds.namedSchema names m).recovered = (ds.namedSchema names n).recovered :=
    recovered_eq_of_sortKeys (named_eq (settleNames_eq_some settled) among member)
  refine ⟨ds[n], List.getElem?_eq_getElem inside, fun self t number => ?_⟩
  rw [namedReference_eq number found]
  constructor
  · rw [Text.isScalar_append, unicode _ member]
    rfl
  · rw [if_neg some, target?_recovered plainRoot (Json.lookup_put_self _ _ _) (hasPlainKeys_table unicode),
      defined, Option.map_some, one, namedSchema, List.getElem?_eq_getElem inside]

end Document

end Definitions

end GuardedTools
