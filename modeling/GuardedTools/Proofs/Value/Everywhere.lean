import GuardedTools.Check
import Mathlib.Init

/-!
# Values within values

`Value.everywhere` asks something of a value and of all values within it: items, keys and values of
maps, fields of records, and the values of members of enumerations.
-/

namespace GuardedTools.Value

mutual

/-- Whether a value and all values within it have a property. -/
def everywhere (p : Value → Bool) : Value → Bool
  | list xs => p (list xs) && everyItem p xs
  | tuple xs => p (tuple xs) && everyItem p xs
  | set frozen xs => p (set frozen xs) && everyItem p xs
  | dict es => p (dict es) && everyEntry p es
  | member c name v base => p (member c name v base) && everywhere p v
  | record kind c fields extras =>
    p (record kind c fields extras) && everyField p fields && everyField p extras
  | v => p v

def everyItem (p : Value → Bool) : List Value → Bool
  | [] => true
  | x :: xs => everywhere p x && everyItem p xs

def everyEntry (p : Value → Bool) : List (Value × Value) → Bool
  | [] => true
  | (k, x) :: es => everywhere p k && everywhere p x && everyEntry p es

def everyField (p : Value → Bool) : List (Text × Value) → Bool
  | [] => true
  | (_, x) :: fs => everywhere p x && everyField p fs

end

/-- Whether a number is finite, if a value is one. -/
def isFiniteNumber : Value → Bool
  | float x => x.isFinite
  | decimal d => d.ratio?.isSome
  | complex re im => re.isFinite && im.isFinite
  | _ => true

/-- Whether all numbers within a value are finite. -/
def isFinite (v : Value) : Bool := v.everywhere isFiniteNumber

/-- Whether a value is no instance of a class. -/
def isNoInstance : Value → Bool
  | member _ _ _ _ => false
  | record _ _ _ _ => false
  | _ => true

/-- Whether no instance of a class is within a value, as in all that is read from a text. -/
def isBare (v : Value) : Bool := v.everywhere isNoInstance

/-! ### Parts -/

variable {p : Value → Bool} {v : Value}

theorem everyItem_iff {xs : List Value} : everyItem p xs = true ↔ ∀ x ∈ xs, x.everywhere p = true := by
  induction xs with
  | nil => exact iff_of_true rfl nofun
  | cons x xs ih => rw [everyItem, Bool.and_eq_true, List.forall_mem_cons, ih]

theorem everyEntry_iff {es : List (Value × Value)} : everyEntry p es = true ↔
    ∀ e ∈ es, e.1.everywhere p = true ∧ e.2.everywhere p = true := by
  induction es with
  | nil => exact iff_of_true rfl nofun
  | cons e es ih =>
    obtain ⟨k, x⟩ := e
    rw [everyEntry, Bool.and_eq_true, Bool.and_eq_true, List.forall_mem_cons, ih]

theorem everyField_iff {fs : List (Text × Value)} : everyField p fs = true ↔
    ∀ f ∈ fs, f.2.everywhere p = true := by
  induction fs with
  | nil => exact iff_of_true rfl nofun
  | cons f fs ih =>
    obtain ⟨k, x⟩ := f
    rw [everyField, Bool.and_eq_true, List.forall_mem_cons, ih]

theorem everywhere_list (xs : List Value) : (list xs).everywhere p = (p (list xs) && everyItem p xs) := rfl

theorem everywhere_tuple (xs : List Value) : (tuple xs).everywhere p = (p (tuple xs) && everyItem p xs) := rfl

theorem everywhere_set (frozen : Bool) (xs : List Value) :
    (set frozen xs).everywhere p = (p (set frozen xs) && everyItem p xs) := rfl

theorem everywhere_dict (es : List (Value × Value)) :
    (dict es).everywhere p = (p (dict es) && everyEntry p es) := rfl

theorem everywhere_record (kind : RecordKind) (c : Text) (fields extras : List (Text × Value)) :
    (record kind c fields extras).everywhere p
      = (p (record kind c fields extras) && everyField p fields && everyField p extras) := rfl

@[simp] theorem isFinite_list {xs : List Value} :
    (list xs).isFinite = true ↔ ∀ x ∈ xs, x.isFinite = true := by
  rw [isFinite, everywhere_list, Bool.and_eq_true, everyItem_iff]
  exact and_iff_right rfl

@[simp] theorem isFinite_tuple {xs : List Value} :
    (tuple xs).isFinite = true ↔ ∀ x ∈ xs, x.isFinite = true := by
  rw [isFinite, everywhere_tuple, Bool.and_eq_true, everyItem_iff]
  exact and_iff_right rfl

@[simp] theorem isFinite_set {frozen : Bool} {xs : List Value} :
    (set frozen xs).isFinite = true ↔ ∀ x ∈ xs, x.isFinite = true := by
  rw [isFinite, everywhere_set, Bool.and_eq_true, everyItem_iff]
  exact and_iff_right rfl

@[simp] theorem isFinite_dict {es : List (Value × Value)} :
    (dict es).isFinite = true ↔ ∀ e ∈ es, e.1.isFinite = true ∧ e.2.isFinite = true := by
  rw [isFinite, everywhere_dict, Bool.and_eq_true, everyEntry_iff]
  exact and_iff_right rfl

@[simp] theorem isFinite_member {c name : Text} {base : EnumBase} :
    (member c name v base).isFinite = v.isFinite := Bool.true_and _

@[simp] theorem isFinite_record {kind : RecordKind} {c : Text} {fields extras : List (Text × Value)} :
    (record kind c fields extras).isFinite = true ↔
      (∀ f ∈ fields, f.2.isFinite = true) ∧ ∀ f ∈ extras, f.2.isFinite = true := by
  rw [isFinite, everywhere_record, Bool.and_eq_true, Bool.and_eq_true, everyField_iff, everyField_iff]
  exact and_congr_left' (and_iff_right rfl)

/-! ### Values without instances -/

/-- The items of a value that is taken as a collection hold no instance if the value holds none. -/
theorem isBare_of_itemsOf? {kind : CollectionKind} {xs : List Value} {right : Bool}
    (items : Check.itemsOf? kind v = some (xs, right)) (bare : v.isBare = true) :
    ∀ x ∈ xs, x.isBare = true := by
  have within : everyItem isNoInstance xs = true := by
    unfold Check.itemsOf? at items
    split at items <;> first | cases items; exact bare | cases items
  exact everyItem_iff.mp within

theorem isBare_dict {es : List (Value × Value)} : (dict es).isBare = true ↔
    ∀ e ∈ es, e.1.isBare = true ∧ e.2.isBare = true := by
  rw [isBare, everywhere_dict, Bool.and_eq_true, everyEntry_iff]
  exact and_iff_right rfl

theorem isBare_of_find? {key x : Value} {es : List (Value × Value)} (found : find? key es = some x)
    (bare : (dict es).isBare = true) : x.isBare = true := by
  rw [isBare_dict] at bare
  fun_induction find? key es with
  | case1 => cases found
  | case2 k y es same => exact Option.some.inj found ▸ (bare _ List.mem_cons_self).2
  | case3 k y es other ih => exact ih found fun e member => bare e (List.mem_cons_of_mem _ member)

mutual

/-- What is read from a text holds no instance. -/
theorem isBare_ofJson : ∀ j : Json, (ofJson j).isBare = true
  | .null => rfl
  | .bool _ => rfl
  | .int _ => rfl
  | .float _ => rfl
  | .text _ => rfl
  | .array items => (Bool.true_and _).trans (everyItem_ofJsonItems items)
  | .object members => (Bool.true_and _).trans (everyEntry_ofJsonMembers members)

theorem everyItem_ofJsonItems : ∀ js : List Json, everyItem isNoInstance (ofJsonItems js) = true
  | [] => rfl
  | j :: js => Bool.and_eq_true_iff.mpr ⟨isBare_ofJson j, everyItem_ofJsonItems js⟩

theorem everyEntry_ofJsonMembers :
    ∀ ms : List (Text × Json), everyEntry isNoInstance (ofJsonMembers ms) = true
  | [] => rfl
  | (_, j) :: ms => Bool.and_eq_true_iff.mpr
      ⟨Bool.and_eq_true_iff.mpr ⟨rfl, isBare_ofJson j⟩, everyEntry_ofJsonMembers ms⟩

end

end GuardedTools.Value
