import GuardedTools.Proofs.Json.Members
import GuardedTools.Proofs.Json.RoundTrip
import GuardedTools.Proofs.Json.Strict
import GuardedTools.Proofs.Json.Validity

/-!
# Sending what was written

Values whose canonical text is read back before they are sent, as schemas are.  A number that is not finite
has a canonical text (`NaN`), but cannot be sent.  So what is read back can be sent if all numbers were
finite (`isSendable_readBack`) and the texts Unicode (`isScalar_readBack`).
-/

namespace GuardedTools.Json

mutual

/-- Whether all floating-point numbers in a value are finite. -/
def isFinite : Json → Bool
  | float x => x.isFinite
  | array items => areFinite items
  | object members => areFiniteMembers members
  | _ => true

def areFinite : List Json → Bool
  | [] => true
  | x :: xs => isFinite x && areFinite xs

def areFiniteMembers : List (Text × Json) → Bool
  | [] => true
  | (_, x) :: ms => isFinite x && areFiniteMembers ms

end

variable {key : Text} {depth : Nat} {j : Json} {js : List Json} {ms ns : List (Text × Json)}

theorem areFinite_iff : areFinite js = true ↔ ∀ j ∈ js, j.isFinite = true := by
  induction js with
  | nil => exact iff_of_true rfl nofun
  | cons j js ih => rw [areFinite, Bool.and_eq_true, List.forall_mem_cons, ih]

theorem areFiniteMembers_iff : areFiniteMembers ms = true ↔ ∀ m ∈ ms, m.2.isFinite = true := by
  induction ms with
  | nil => exact iff_of_true rfl nofun
  | cons m ms ih => rw [areFiniteMembers, Bool.and_eq_true, List.forall_mem_cons, ih]

theorem isFinite_array : (array js).isFinite = true ↔ ∀ j ∈ js, j.isFinite = true := areFinite_iff

theorem isFinite_object : (object ms).isFinite = true ↔ ∀ m ∈ ms, m.2.isFinite = true :=
  areFiniteMembers_iff

theorem isSendable_array : (array js).isSendable = true ↔ ∀ j ∈ js, j.isSendable = true := by
  rw [isSendable, areSendable_eq_all, List.all_eq_true]

theorem isSendable_object : (object ms).isSendable = true ↔ ∀ m ∈ ms, m.2.isSendable = true := by
  rw [isSendable, areSendableMembers_eq_all, List.all_eq_true]

theorem isScalar_array : (array js).isScalar = true ↔ ∀ j ∈ js, j.isScalar = true := by
  rw [isScalar]
  induction js with
  | nil => exact iff_of_true rfl nofun
  | cons j js ih => rw [areScalar, Bool.and_eq_true, List.forall_mem_cons, ih]

theorem isScalar_object :
    (object ms).isScalar = true ↔ ∀ m ∈ ms, m.1.isScalar = true ∧ m.2.isScalar = true := by
  rw [isScalar]
  induction ms with
  | nil => exact iff_of_true rfl nofun
  | cons m ms ih => rw [areScalarMembers, Bool.and_eq_true, Bool.and_eq_true, List.forall_mem_cons, ih]

/-! ### The order of members -/

mutual

/-- The order of members decides nothing about which numbers are finite. -/
theorem isFinite_sortKeys {j : Json} (h : j.isFinite = true) : j.sortKeys.isFinite = true := by
  match j with
  | array js => exact areFinite_sortKeysItems h
  | object ms =>
    have members := areFiniteMembers_sortKeysMembers h
    rw [sortKeys_object, isFinite_object]
    intro m member
    rw [(sortedMembers_perm ms).mem_iff, ← sortKeysMembers_eq_map] at member
    exact areFiniteMembers_iff.mp members m member
  | null | bool _ | int _ | float _ | text _ => exact h

theorem areFinite_sortKeysItems {js : List Json} (h : areFinite js = true) :
    areFinite (sortKeysItems js) = true := by
  match js with
  | [] => rfl
  | j :: js =>
    rw [areFinite, Bool.and_eq_true] at h
    rw [sortKeysItems, areFinite, isFinite_sortKeys h.1, areFinite_sortKeysItems h.2]
    rfl

theorem areFiniteMembers_sortKeysMembers {ms : List (Text × Json)} (h : areFiniteMembers ms = true) :
    areFiniteMembers (sortKeysMembers ms) = true := by
  match ms with
  | [] => rfl
  | (key, j) :: ms =>
    rw [areFiniteMembers, Bool.and_eq_true] at h
    rw [sortKeysMembers, areFiniteMembers, isFinite_sortKeys h.1, areFiniteMembers_sortKeysMembers h.2]
    rfl

end

mutual

/-- The order of members decides nothing about which texts are Unicode. -/
theorem isScalar_sortKeys {j : Json} (h : j.isScalar = true) : j.sortKeys.isScalar = true := by
  match j with
  | array js => exact areScalar_sortKeysItems h
  | object ms =>
    have members := areScalarMembers_sortKeysMembers h
    rw [sortKeys_object, isScalar_object]
    intro m member
    rw [(sortedMembers_perm ms).mem_iff, ← sortKeysMembers_eq_map] at member
    exact isScalar_object.mp members m member
  | null | bool _ | int _ | float _ | text _ => exact h

theorem areScalar_sortKeysItems {js : List Json} (h : areScalar js = true) :
    areScalar (sortKeysItems js) = true := by
  match js with
  | [] => rfl
  | j :: js =>
    rw [areScalar, Bool.and_eq_true] at h
    rw [sortKeysItems, areScalar, isScalar_sortKeys h.1, areScalar_sortKeysItems h.2]
    rfl

theorem areScalarMembers_sortKeysMembers {ms : List (Text × Json)} (h : areScalarMembers ms = true) :
    areScalarMembers (sortKeysMembers ms) = true := by
  match ms with
  | [] => rfl
  | (key, j) :: ms =>
    rw [areScalarMembers, Bool.and_eq_true, Bool.and_eq_true] at h
    rw [sortKeysMembers, areScalarMembers, h.1.1, isScalar_sortKeys h.1.2, areScalarMembers_sortKeysMembers h.2]
    rfl

end

/-! ### What is read back -/

/-- What an object is read back as holds of its members, each read back. -/
theorem mem_ofMembers_readBack {m : Text × Json}
    (member : m ∈ (readBackMembers ms).foldl (fun kept n => put n.1 n.2 kept) []) :
    ∃ n ∈ ms, m = (n.1.joined, n.2.readBack) := by
  have among := (mem_of_mem_foldl_put member).resolve_right List.not_mem_nil
  clear member
  induction ms with
  | nil => cases among
  | cons n ms ih =>
    rcases List.mem_cons.mp among with rfl | among
    · exact ⟨n, List.mem_cons_self, rfl⟩
    · obtain ⟨n, later, same⟩ := ih among
      exact ⟨n, List.mem_cons_of_mem _ later, same⟩

mutual

/-- Of a value that is written, what is read back can be sent if all numbers are finite. -/
theorem isSendable_readBack {j : Json} {depth : Nat} (written : j.writeFault? depth = none)
    (finite : j.isFinite = true) : j.readBack.isSendable = true := by
  match j, depth with
  | null, _ | bool _, _ | text _, _ => rfl
  | int n, _ =>
    rw [writeFault?] at written
    split at written
    next short => exact short
    next => cases written
  | float x, _ => exact (Binary64.isFinite_reread x).trans finite
  | array js, 0 => cases written
  | object ms, 0 => cases written
  | array js, depth + 1 => exact areSendable_readBackItems written finite
  | object ms, depth + 1 =>
    refine isSendable_object.mpr fun m member => ?_
    obtain ⟨n, among, rfl⟩ := mem_ofMembers_readBack member
    exact isSendable_readBack_member written finite n among

theorem areSendable_readBackItems {js : List Json} {depth : Nat}
    (written : writeFaultItems? depth js = none) (finite : areFinite js = true) :
    areSendable (readBackItems js) = true := by
  match js with
  | [] => rfl
  | j :: js =>
    obtain ⟨first, others⟩ := orElse_eq_none written
    rw [areFinite, Bool.and_eq_true] at finite
    rw [readBackItems, areSendable, isSendable_readBack first finite.1,
      areSendable_readBackItems others finite.2]
    rfl

theorem isSendable_readBack_member {ms : List (Text × Json)} {depth : Nat}
    (written : writeFaultMembers? depth ms = none) (finite : areFiniteMembers ms = true) : ∀ m ∈ ms, m.2.readBack.isSendable = true := by
  match ms with
  | [] => nofun
  | (key, j) :: ms =>
    obtain ⟨first, others⟩ := orElse_eq_none written
    rw [areFiniteMembers, Bool.and_eq_true] at finite
    exact List.forall_mem_cons.mpr ⟨isSendable_readBack first finite.1, isSendable_readBack_member others finite.2⟩

end

mutual

/-- What is read back of Unicode texts is Unicode. -/
theorem isScalar_readBack {j : Json} (h : j.isScalar = true) : j.readBack.isScalar = true := by
  match j with
  | null | bool _ | int _ | float _ => rfl
  | text t => exact (congrArg Text.isScalar (Text.joined_of_isScalar h)).trans h
  | array js => exact areScalar_readBackItems h
  | object ms =>
    refine isScalar_object.mpr fun m member => ?_
    obtain ⟨n, among, rfl⟩ := mem_ofMembers_readBack member
    exact isScalar_readBack_member h n among

theorem areScalar_readBackItems {js : List Json} (h : areScalar js = true) :
    areScalar (readBackItems js) = true := by
  match js with
  | [] => rfl
  | j :: js =>
    rw [areScalar, Bool.and_eq_true] at h
    rw [readBackItems, areScalar, isScalar_readBack h.1, areScalar_readBackItems h.2]
    rfl

theorem isScalar_readBack_member {ms : List (Text × Json)} (h : areScalarMembers ms = true) :
    ∀ m ∈ ms, m.1.joined.isScalar = true ∧ m.2.readBack.isScalar = true := by
  match ms with
  | [] => nofun
  | (key, j) :: ms =>
    rw [areScalarMembers, Bool.and_eq_true, Bool.and_eq_true] at h
    refine List.forall_mem_cons.mpr ⟨⟨?_, isScalar_readBack h.1.2⟩, isScalar_readBack_member h.2⟩
    exact (congrArg Text.isScalar (Text.joined_of_isScalar h.1.1)).trans h.1.1

end

/-! ### Members of what is read back -/

theorem readBackMembers_eq_map (ms : List (Text × Json)) :
    readBackMembers ms = ms.map fun m => (m.1.joined, m.2.readBack) := by
  induction ms with
  | nil => rfl
  | cons m ms ih => rw [readBackMembers, ih, List.map_cons]

theorem lookup_map {f : Json → Json} (key : Text) (ms : List (Text × Json)) :
    lookup key (ms.map fun m => (m.1, f m.2)) = (lookup key ms).map f := by
  induction ms with
  | nil => rfl
  | cons m ms ih =>
    rw [List.map_cons, lookup, lookup, ih]
    split <;> rfl

/-- Whether the members of an object have different keys, which are Unicode. -/
def hasPlainKeys (ms : List (Text × Json)) : Bool :=
  decide (ms.map (·.1)).Nodup && ms.all (·.1.isScalar)

/-- Under different Unicode keys there stands what stood there, read back. -/
theorem get?_readBack (plain : hasPlainKeys ms = true) (key : Text) :
    (object ms).readBack.get? key = (lookup key ms).map readBack := by
  simp only [hasPlainKeys, Bool.and_eq_true, decide_eq_true_eq, List.all_eq_true] at plain
  have keys : readBackMembers ms = ms.map fun m => (m.1, m.2.readBack) := by
    rw [readBackMembers_eq_map]
    exact List.map_congr_left fun m member => by rw [Text.joined_of_isScalar (plain.2 m member)]
  have nodup : ((([] : List (Text × Json)) ++ readBackMembers ms).map (·.1)).Nodup := by
    rw [List.nil_append, keys, List.map_map]
    exact plain.1
  rw [readBack, ofMembers, foldl_put_of_nodup nodup, keys]
  exact lookup_map key ms

/-- The same of a value whose keys were put in order before. -/
theorem get?_sortKeys_readBack (plain : hasPlainKeys ms = true) (key : Text) :
    (object ms).sortKeys.readBack.get? key = (lookup key ms).map fun j => j.sortKeys.readBack := by
  have sorted : hasPlainKeys (sortedMembers ms) = true := by
    have keys : ((sortedMembers ms).map (·.1)).Perm (ms.map (·.1)) := by
      refine ((sortedMembers_perm ms).map _).trans ?_
      rw [List.map_map]
      exact .refl _
    simp only [hasPlainKeys, Bool.and_eq_true, decide_eq_true_eq, List.all_eq_true] at plain ⊢
    refine ⟨keys.nodup_iff.mpr plain.1, fun m member => ?_⟩
    obtain ⟨n, among, same⟩ := List.mem_map.mp (keys.mem_iff.mp (List.mem_map_of_mem member))
    exact same ▸ plain.2 n among
  rw [sortKeys_object, get?_readBack sorted, lookup_sortedMembers, Option.map_map]
  rfl

theorem isSendable_of_get? {k : Json} (sendable : j.isSendable = true) (found : j.get? key = some k) :
    k.isSendable = true := by
  cases j with
  | object ms => exact isSendable_object.mp sendable _ (mem_of_lookup found)
  | _ => cases found

/-- Whether at the end of a path, under keys that are plain, there stands a number that is not finite. -/
def isInfiniteAt : List Text → Json → Bool
  | [], float x => !x.isFinite
  | key :: keys, object ms => hasPlainKeys ms && (lookup key ms).any (isInfiniteAt keys)
  | _, _ => false

/-- A number that is not finite is read back, and cannot be sent. -/
theorem not_isSendable_of_isInfiniteAt {keys : List Text} (infinite : isInfiniteAt keys j = true) :
    ¬j.sortKeys.readBack.isSendable = true := by
  induction keys generalizing j with
  | nil =>
    cases j with
    | float x =>
      show ¬x.reread.isFinite = true
      rw [Binary64.isFinite_reread]
      simpa [isInfiniteAt] using infinite
    | _ => cases infinite
  | cons key keys ih =>
    cases j with
    | object ms =>
      rw [isInfiniteAt, Bool.and_eq_true, Option.any_eq_true] at infinite
      obtain ⟨plain, k, found, infinite⟩ := infinite
      intro sendable
      have read : (object ms).sortKeys.readBack.get? key = some k.sortKeys.readBack := by
        rw [get?_sortKeys_readBack plain, found]
        rfl
      exact ih infinite (isSendable_of_get? sendable read)
    | _ => cases infinite

end GuardedTools.Json
