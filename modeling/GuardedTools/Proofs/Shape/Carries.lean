import GuardedTools.Dump
import GuardedTools.Proofs.Check.Accepting
import GuardedTools.Proofs.Json.Members
import GuardedTools.Proofs.Json.Validity
import Mathlib.Data.List.Nodup

/-!
# Values that are taken over

A shape carries a JSON value (`Shape.Carries`) if it makes a value of it, makes the same value of what it
made, and writes that value as JSON.  A tool whose argument and result have a shape that carries a value
can hand it on.  One lemma for each kind of shape says what it carries, in terms of what its parts carry.
-/

namespace GuardedTools

/-! ### Writing -/

namespace Dump

variable {d : Value → Dumped}

/-- Items are written one by one. -/
theorem all_of_forall₂ {xs : List Value} {js : List Json}
    (h : List.Forall₂ (fun x j => d x = .ok j) xs js) : all d xs = .ok js := by
  induction h with
  | nil => rfl
  | cons first _ ih =>
    rw [all, first, ih]
    rfl

/-- Entries are written one by one. -/
theorem entries_of_forall₂ {es : List (Text × Value)} {ms : List (Text × Json)}
    (h : List.Forall₂ (fun e m => keyText e.1 = m.1 ∧ d e.2 = .ok m.2) es ms) :
    entries key d (es.map fun e => (.text e.1, e.2)) = .ok ms := by
  induction h with
  | nil => rfl
  | cons first _ ih =>
    rw [List.map_cons, entries, key, first.1, first.2, ih]
    rfl

/-- A Unicode text as a key is that text. -/
theorem keyText_of_isScalar {t : Text} (unicode : t.isScalar = true) : keyText t = t := by
  obtain ⟨ps⟩ := t
  rw [Text.isScalar, List.all_eq_true] at unicode
  have kept : ∀ p ∈ ps, (if 0xD800 ≤ p.toNat && p.toNat < 0xE000 then
      List.replicate 3 (CodePoint.ofNat 0xFFFD) else [p]) = [p] := by
    intro p member
    cases p with
    | surrogate offset => cases unicode _ member
    | scalar c =>
      have outside : c.toNat < 0xD800 ∨ 0xDFFF < c.toNat ∧ c.toNat < 0x110000 := c.valid
      refine if_neg fun inside => ?_
      rw [CodePoint.toNat, Bool.and_eq_true, decide_eq_true_eq, decide_eq_true_eq] at inside
      omega
  rw [keyText, List.flatMap_congr kept, List.flatMap_singleton']

/-- Fields that are declared are written each in its own way. -/
theorem fields_of_forall₂ {strict keep : Bool} {declared : List (Text × (Value → Dumped))}
    {values : List (Text × Value)} {ms : List (Text × Json)}
    (h : List.Forall₂ (fun value m => m.1 = value.1 ∧
      ∃ d, declared.find? (·.1 == value.1) = some d ∧ d.2 value.2 = .ok m.2) values ms) :
    fields strict declared keep values = .ok ms := by
  induction h with
  | nil => rfl
  | @cons value m values ms first _ ih =>
    obtain ⟨named, ⟨declaredName, dump⟩, found, written⟩ := first
    obtain ⟨name, x⟩ := value
    dsimp only at named found written
    unfold fields
    rw [found]
    dsimp only
    rw [written, ih, ← named]
    rfl

end Dump

namespace Value

theorem ofJsonItems_eq_map (js : List Json) : ofJsonItems js = js.map ofJson := by
  induction js with
  | nil => rfl
  | cons j js ih => rw [ofJsonItems, ih, List.map_cons]

theorem ofJson_object (ms : List (Text × Json)) :
    ofJson (.object ms) = ofMembers (ms.map fun m => (m.1, ofJson m.2)) := by
  have members : ofJsonMembers ms = ms.map fun m => (text m.1, ofJson m.2) := by
    induction ms with
    | nil => rfl
    | cons m ms ih => rw [ofJsonMembers, ih, List.map_cons]
  rw [ofJson, members, ofMembers, List.map_map]
  rfl

theorem find?_ofMembers (name : Text) (ms : List (Text × Json)) :
    find? (.text name) ((ms.map fun m => (m.1, ofJson m.2)).map fun m => (.text m.1, m.2))
      = (Json.lookup name ms).map ofJson := by
  induction ms with
  | nil => rfl
  | cons m ms ih =>
    rw [List.map_cons, List.map_cons, find?, Json.lookup]
    by_cases same : m.1 = name
    · simp [Value.same, same]
    · rw [if_neg same, ← ih, if_neg (by simpa [Value.same] using same)]

end Value

/-! ### Carrying -/

namespace Shape

open Check

section Writing

variable (strict : Bool) (self : Value → Dumped) (s : Shape)

theorem dumpWithin_list (limits : LengthLimits) (xs : List Value) :
    (list s limits).dumpWithin strict self (.list xs)
      = (Dump.all (s.dumpWithin strict self) xs).map .array := rfl

theorem dumpWithin_dict (key : Shape) (limits : LengthLimits) (es : List (Value × Value)) :
    (dict key s limits).dumpWithin strict self (.dict es)
      = (Dump.entries Dump.key (s.dumpWithin strict self) es).map Json.ofMembers := rfl

theorem dumpWithin_literal (vs : List Value) (v : Value) :
    (literal vs).dumpWithin strict self v = if vs.any (TypeExpr.sameValue v) then
      Dump.untyped false Dump.depthLimit v else Dump.mismatch strict v := rfl

theorem dumpWithin_enum (name member : Text) (ms : List (Text × Value)) (base base' : EnumBase) (v : Value) :
    (enum name ms base).dumpWithin strict self (.member name member v base')
      = Dump.untyped true Dump.depthLimit v := if_pos rfl

end Writing

/-- A shape makes a value of a JSON value, makes the same of what it made, and writes it. -/
structure Carries (s : Shape) (j : Json) (x : Value) (written : Json) : Prop where
  makes : ∀ self, Makes (s.checkWithin self) (.ofJson j) x
  keeps : ∀ self, Makes (s.checkWithin self) x x
  writes : ∀ strict self, s.dumpWithin strict self x = .ok written

variable {s : Shape} {j written : Json} {x : Value}

/-- What carries a scalar carries it as it is. -/
theorem Carries.of_exact (exact : ∀ self, s.checkWithin self (.ofJson j) = .exact (.ofJson j))
    (writes : ∀ strict self, s.dumpWithin strict self (.ofJson j) = .ok j) :
    s.Carries j (.ofJson j) j where
  makes self := gives_of_eq_ok ⟨{}, exact self⟩
  keeps self := gives_of_eq_ok ⟨{}, exact self⟩
  writes := writes

theorem carries_text (t : Text) : (str {} Option.none).Carries (.text t) (.text t) (.text t) :=
  .of_exact (fun _ => by simp [checkWithin, Check.str, textVerdict, limitedText, limitedText.rest,
    limitedText.formed, LengthLimits.isFree, Value.ofJson]) fun _ _ => rfl

theorem carries_int (n : Int) : (int {}).Carries (.int n) (.int n) (.int n) :=
  .of_exact (fun _ => rfl) fun _ _ => rfl

theorem carries_float {finite : Bool} {x : Binary64} (isFinite : x.isFinite = true) :
    (float finite {}).Carries (.float x) (.float x) (.float x) := by
  refine .of_exact (fun _ => ?_) fun _ _ => rfl
  cases finite with
  | false => rfl
  | true =>
    simp only [checkWithin, Check.float, Value.ofJson, Value.bare, finiteFloat, if_pos, Verdict.exact,
      Verdict.require, isFinite]
    rfl

theorem carries_bool (b : Bool) : bool.Carries (.bool b) (.bool b) (.bool b) :=
  .of_exact (fun _ => rfl) fun _ _ => rfl

theorem carries_null : none.Carries .null .null .null :=
  .of_exact (fun _ => rfl) fun _ _ => rfl

/-- What may be missing carries nothing as nothing. -/
theorem carries_nullable_null : (nullable s).Carries .null .null .null :=
  .of_exact (fun _ => rfl) fun _ _ => rfl

/-- What may be missing is checked as what it is, if it is there. -/
theorem checkWithin_nullable (some : j ≠ .null) (self : Value → Verdict) :
    (nullable s).checkWithin self (.ofJson j) = s.checkWithin self (.ofJson j) := by
  cases j <;> first | rfl | exact absurd rfl some

/-- What may be missing carries what is there as what it is, if that is never nothing. -/
theorem Carries.nullable (h : s.Carries j x written) (present : x = .null → j = .null)
    (some : j ≠ .null) : (nullable s).Carries j x written where
  makes self := by
    rw [Makes, checkWithin_nullable some]
    exact h.makes self
  keeps self := by
    have made : (Shape.nullable s).checkWithin self x = s.checkWithin self x := by
      cases x <;> first | rfl | exact absurd (present rfl) some
    rw [Makes, made]
    exact h.keeps self
  writes strict self := by
    rw [← h.writes strict self]
    cases x <;> first | rfl | exact absurd (present rfl) some

/-- A list carries items that its shape carries. -/
theorem carries_list {js : List Json} {x : Json → Value} {written : Json → Json}
    (h : ∀ j ∈ js, s.Carries j (x j) (written j)) :
    (list s {}).Carries (.array js) (.list (js.map x)) (.array (js.map written)) where
  makes self := by
    rw [Value.ofJson, Value.ofJsonItems_eq_map]
    exact gives_sequence (forall₂_map_map fun j member => (h j member).makes self)
  keeps self := gives_sequence (forall₂_map_map fun j member => (h j member).keeps self)
  writes strict self := by
    rw [dumpWithin_list,
      Dump.all_of_forall₂ (forall₂_map_map fun j member => (h j member).writes strict self)]
    rfl

/-- A map carries entries whose values its shape carries. -/
theorem carries_dict {ms : List (Text × Json)} {x : Text × Json → Value}
    {written : Text × Json → Json}
    (nodup : (ms.map (·.1)).Nodup) (unicode : ∀ m ∈ ms, m.1.isScalar = true)
    (h : ∀ m ∈ ms, s.Carries m.2 (x m) (written m)) :
    (dict (str {} Option.none) s {}).Carries (.object ms) (Value.ofMembers (ms.map fun m => (m.1, x m)))
      (.object (ms.map fun m => (m.1, written m))) := by
  have keys {α : Type} (f : Text × Json → α) : ((ms.map fun m => (m.1, f m)).map (·.1)).Nodup := by
    rwa [List.map_map]
  constructor
  case makes =>
    intro self
    rw [Value.ofJson_object]
    exact gives_dictOf (forall₂_map_map fun m member =>
      ⟨(carries_text m.1).keeps self, (h m member).makes self⟩) (keys _)
  case keeps =>
    intro self
    exact gives_dictOf (forall₂_map_map fun m member =>
      ⟨(carries_text m.1).keeps self, (h m member).keeps self⟩) (keys _)
  case writes =>
    intro strict self
    have entered := Dump.entries_of_forall₂ (d := s.dumpWithin strict self)
      (forall₂_map_map (f := fun m => (m.1, x m)) (g := fun m => (m.1, written m)) fun m member =>
        ⟨Dump.keyText_of_isScalar (unicode m member), (h m member).writes strict self⟩)
    rw [Value.ofMembers, dumpWithin_dict, entered]
    exact congrArg Except.ok (Json.ofMembers_of_nodup (keys _))

/-! ### Constants -/

end Shape

namespace Value

/-- Texts and integers, of which there may be constants. -/
def isConstant : Value → Bool
  | text _ => true
  | int _ => true
  | _ => false

variable {v w : Value}

theorem isConstant_cases (constant : v.isConstant = true) : (∃ t, v = text t) ∨ ∃ n, v = int n := by
  cases v with
  | text t => exact Or.inl ⟨t, rfl⟩
  | int n => exact Or.inr ⟨n, rfl⟩
  | _ => cases constant

/-- Constants are told apart. -/
theorem sameValue_iff (constant : v.isConstant = true) (constant' : w.isConstant = true) :
    TypeExpr.sameValue v w = true ↔ v = w := by
  rcases isConstant_cases constant with ⟨t, rfl⟩ | ⟨m, rfl⟩ <;>
    rcases isConstant_cases constant' with ⟨u, rfl⟩ | ⟨n, rfl⟩ <;>
      simp [TypeExpr.sameValue, className, same, toExact?, wording?, bare]

/-- Among constants a constant is found as itself. -/
theorem find?_sameValue {α : Type} {f : α → Value} {as : List α} {a : α}
    (constants : ∀ a ∈ as, (f a).isConstant = true) (member : a ∈ as) :
    ∃ b ∈ as, f b = f a ∧ as.find? (fun b => TypeExpr.sameValue (f a) (f b)) = some b := by
  have isSome : (as.find? fun b => TypeExpr.sameValue (f a) (f b)).isSome = true :=
    List.find?_isSome.mpr ⟨a, member, (sameValue_iff (constants a member) (constants a member)).mpr rfl⟩
  obtain ⟨b, found⟩ := Option.isSome_iff_exists.mp isSome
  have among := List.mem_of_find?_eq_some found
  have alike := List.find?_some found
  exact ⟨b, among, ((sameValue_iff (constants a member) (constants b among)).mp alike).symm, found⟩

end Value

/-- A constant is written as it is. -/
theorem Dump.untyped_ofJson {j : Json} (constant : (Value.ofJson j).isConstant = true) (declared : Bool) :
    untyped declared depthLimit (.ofJson j) = .ok j := by
  cases j with
  | text t => simp [Value.ofJson, depthLimit, untyped, scalar?]
  | int n => simp [Value.ofJson, depthLimit, untyped, scalar?]
  | _ => cases constant

namespace Shape

open Check

variable {s : Shape} {j : Json}

/-- A literal carries the constants that it lists. -/
theorem carries_literal {vs : List Value} (constants : ∀ v ∈ vs, v.isConstant = true)
    (among : Value.ofJson j ∈ vs) : (literal vs).Carries j (.ofJson j) j := by
  obtain ⟨w, member, rfl, found⟩ := Value.find?_sameValue (f := id) constants among
  refine .of_exact (fun self => ?_) fun strict self => ?_
  · simp only [checkWithin, Check.literal, allowed?, id] at found ⊢
    rw [found]
    rfl
  · have listed : vs.any (TypeExpr.sameValue (.ofJson j)) = true :=
      List.any_eq_true.mpr ⟨_, among, List.find?_some found⟩
    rw [dumpWithin_literal, if_pos listed, Dump.untyped_ofJson (constants _ among)]

/-- Values that an enumeration with a base can have. -/
def fitsBase : EnumBase → Value → Bool
  | .plain, _ => true
  | .text, .text _ => true
  | .integer, .int _ => true
  | _, _ => false

/-- An enumeration of constants carries the values of its members as members. -/
theorem exists_carries_enum {name : Text} {ms : List (Text × Value)} {base : EnumBase} {m : Text × Value}
    (constants : ∀ m ∈ ms, m.2.isConstant = true) (member : m ∈ ms) (value : m.2 = .ofJson j)
    (fits : fitsBase base m.2 = true) :
    ∃ x, x ≠ .null ∧ (enum name ms base).Carries j x j := by
  obtain ⟨n, among, same, found⟩ := Value.find?_sameValue (f := fun m : Text × Value => m.2) constants member
  have adapted : Check.enum.adapted base m.2 = m.2 := by
    rcases Value.isConstant_cases (constants m member) with ⟨t, value⟩ | ⟨n, value⟩ <;>
      rw [value] at fits ⊢ <;> cases base <;> cases fits
    case inl.plain => rfl
    case inl.text => simp [Check.enum.adapted, Check.str, textVerdict, limitedText, limitedText.rest,
      limitedText.formed, LengthLimits.isFree, Verdict.exact]
    case inr.plain => rfl
    case inr.integer => rfl
  refine ⟨.member name n.1 n.2 base, nofun, fun self => gives_of_eq_ok ⟨{ grade := .converted }, ?_⟩,
    fun self => gives_of_eq_ok ⟨{}, ?_⟩, fun strict self => ?_⟩
  · -- what is given is no member, and is found by its value
    have byValue : Check.enum name ms base m.2 = Check.enum.byValue name ms base m.2 := by
      rcases Value.isConstant_cases (constants m member) with ⟨t, value⟩ | ⟨n, value⟩ <;> rw [value] <;> rfl
    rw [checkWithin, ← value, byValue, Check.enum.byValue, adapted, Check.enum.found, found]
    rfl
  · rw [checkWithin, Check.enum, if_pos rfl]
    rfl
  · rw [dumpWithin_enum, same, value, Dump.untyped_ofJson]
    exact value ▸ constants m member

/-! ### Models -/

theorem fieldDumps_eq_map (strict : Bool) (self : Value → Dumped) (ss : List (Text × Presence × Shape)) :
    fieldDumps strict self ss = ss.map fun f => (f.1, f.2.2.dumpWithin strict self) := by
  induction ss with
  | nil => rfl
  | cons f ss ih => rw [fieldDumps, ih, List.map_cons]

/-- A model carries an object with members under the names of its fields, each of which its field
carries. -/
theorem carries_model {options : ModelOptions} {name : Text} {ss : List (Text × Presence × Shape)}
    {ms : List (Text × Json)} {x : Text → Value} {written : Text → Json} (nodup : (ss.map (·.1)).Nodup)
    (given : ∀ f ∈ ss, ∃ j, Json.lookup f.1 ms = some j ∧ f.2.2.Carries j (x f.1) (written f.1)) :
    (record (.model options) name .ignore ss).Carries (.object ms)
      (.record .model name (ss.map fun f => (f.1, x f.1)) [])
      (.object (ss.map fun f => (f.1, written f.1))) := by
  constructor
  case makes =>
    intro self
    rw [Value.ofJson_object, Makes]
    refine gives_assemble _ (fieldValues_of_gives ?_)
    rw [checkFields_eq_map]
    refine forall₂_map_map fun f field => ⟨rfl, ?_⟩
    obtain ⟨j, found, carries⟩ := given f field
    exact ⟨_, by rw [Value.find?_ofMembers, found]; rfl, carries.makes _⟩
  case keeps =>
    exact fun self => gives_of_eq_ok ⟨{}, if_pos rfl⟩
  case writes =>
    intro strict self
    have shown {self' : Value → Dumped} :
        Dump.fields strict (fieldDumps strict self' ss) false (ss.map fun f => (f.1, x f.1))
          = .ok (ss.map fun f => (f.1, written f.1)) := by
      refine Dump.fields_of_forall₂ (forall₂_map_map fun f field => ⟨rfl, ?_⟩)
      obtain ⟨j, -, carries⟩ := given f field
      refine ⟨(f.1, f.2.2.dumpWithin strict self'), ?_, carries.writes strict self'⟩
      rw [fieldDumps_eq_map, List.find?_map]
      exact congrArg (Option.map _) (find?_of_nodup nodup field)
    show Dump.record strict (.model options) name .ignore (fieldDumps strict _ ss) _ = _
    rw [Dump.record, Dump.isOf, if_pos rfl]
    dsimp only
    rw [show (Extra.ignore == .allow) = false from rfl, shown]
    exact congrArg (fun ms => Except.ok (Json.object ms)) (List.append_nil _)

end Shape

end GuardedTools
