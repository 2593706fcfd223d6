import GuardedTools.Check.Form
import GuardedTools.Proofs.Check.Accepting

/-!
# What a form is filled with

A form that is filled holds one value for each of its fields: what the map gives for the field, as the shape
of the field has it and after the form's own rule for it, or the default of the field
(`Form.fill_eq_ok`).  Where texts are asked for, some values that are not texts are taken for them, and the
texts that are made are the ones that these values stand for (`Check.str_makes`,
`Check.sequence_makes_texts`).
-/

namespace GuardedTools

/-! ### Fields -/

namespace Form

/-- What becomes of an accepted value of a field. -/
def rule (form : Form) (name : Text) : Value → Except Problem Value :=
  match form.rules.find? (·.1 == name) with
  | some (_, rule) => rule
  | none => .ok

/-- Checks a value for a field. -/
def check (field : Text × Presence × Shape) : Value → Verdict :=
  field.2.2.checkWithin fun _ => .refused .tooDeep

/-- A value is what a field of the form is filled with. -/
inductive Fills (form : Form) (es : List (Value × Value)) (field : Text × Presence × Shape) :
    Value → Prop where
  /-- It is what the rule of the field makes of an accepted value. -/
  | given {x y z : Value} (found : Value.find? (.text field.1) es = some x)
    (accepted : Check.Makes (check field) x y) (ruled : form.rule field.1 y = .ok z) :
    Fills form es field z
  /-- Nothing is given, and it is the default. -/
  | default {d : Value} (absent : Value.find? (.text field.1) es = none)
    (presence : field.2.1 = .default d) : Fills form es field d

variable {form : Form} {es : List (Value × Value)}

theorem ruledField_name (f : Check.FieldVerdict) : (form.ruledField f).name = f.name := by
  unfold ruledField
  split <;> rfl

theorem ruledField_presence (f : Check.FieldVerdict) : (form.ruledField f).presence = f.presence := by
  unfold ruledField
  split <;> rfl

theorem ruled_eq_ok {r : Value → Except Problem Value} {v : Verdict} {a : Accepted}
    (h : ruled r v = .ok a) : ∃ b, v = .ok b ∧ r b.value = .ok a.value := by
  unfold ruled at h
  split at h
  · cases h
  next b =>
    split at h
    next value made =>
      cases h
      exact ⟨b, rfl, made⟩
    · cases h

/-- A verdict that accepts under the rules of the form was an accepted value before. -/
theorem ruledField_eq_some_ok {f : Check.FieldVerdict} {a : Accepted}
    (h : (form.ruledField f).verdict = some (.ok a)) :
    ∃ b, f.verdict = some (.ok b) ∧ form.rule f.name b.value = .ok a.value := by
  unfold ruledField at h
  unfold rule
  split at h
  next name r found =>
    obtain ⟨verdict, before, made⟩ := Option.map_eq_some_iff.mp h
    obtain ⟨b, rfl, value⟩ := ruled_eq_ok made
    rw [found]
    exact ⟨b, before, value⟩
  next found =>
    rw [found]
    exact ⟨a, h, rfl⟩

theorem ruledField_eq_none {f : Check.FieldVerdict} (h : (form.ruledField f).verdict = none) :
    f.verdict = none := by
  unfold ruledField at h
  split at h
  · exact Option.map_eq_none_iff.mp h
  · exact h

/-- A form none of whose fields can be left out is filled field by field. -/
theorem fill_eq_ok {values : List (Text × Value)} (all : ∀ f ∈ form.fields, f.2.1 ≠ .optional)
    (h : form.fill es = .ok values) :
    List.Forall₂ (fun field value => value.1 = field.1 ∧ form.Fills es field value.2) form.fields values := by
  unfold fill at h
  dsimp only at h
  split at h
  · cases h
  next a accepted =>
    obtain ⟨made, fit, kept, found, value, -⟩ := Check.assemble_eq_ok accepted
    rw [value] at h
    obtain rfl := Except.ok.inj h
    have each := Check.fieldValues_eq_ok found
    rw [Shape.checkFields_eq_map, List.map_map] at each
    -- every field has a value, so that the values stand in step with the fields
    rw [List.filter_eq_self.mpr, List.forall₂_map_left_iff] at each
    · refine each.imp fun field ⟨n, v⟩ ⟨name, yields⟩ => ?_
      rw [Function.comp_apply, ruledField_name] at name
      refine ⟨name, ?_⟩
      cases yields with
      | given verdict =>
        obtain ⟨b, verdict, ruled⟩ := ruledField_eq_some_ok verdict
        obtain ⟨x, found, accepted⟩ := Option.map_eq_some_iff.mp verdict
        exact .given found ⟨b, accepted, rfl⟩ ruled
      | default absent presence =>
        have missing := Option.map_eq_none_iff.mp (ruledField_eq_none absent)
        rw [Function.comp_apply, ruledField_presence] at presence
        exact .default missing presence
    · intro f member
      obtain ⟨field, among, rfl⟩ := List.mem_map.mp member
      rw [Check.FieldVerdict.not_isLeftOut_iff]
      right
      rw [Function.comp_apply, ruledField_presence]
      exact all field among

/-- The value of a field of a filled form is what the field is filled with. -/
theorem fills_valueOf {values : List (Text × Value)} {fields : List (Text × Presence × Shape)}
    (filled : List.Forall₂ (fun field value => value.1 = field.1 ∧ form.Fills es field value.2) fields values)
    (distinct : (fields.map (·.1)).Nodup) {field : Text × Presence × Shape} (member : field ∈ fields) :
    form.Fills es field (valueOf values field.1) := by
  induction filled with
  | nil => cases member
  | @cons first value fields values here _ ih =>
    rw [List.map_cons, List.nodup_cons] at distinct
    obtain ⟨name, fills⟩ := here
    unfold valueOf at ih ⊢
    rw [List.find?_cons]
    rcases List.mem_cons.mp member with rfl | later
    · simpa [name] using fills
    · have other : value.1 ≠ field.1 := by
        intro same
        have among := List.mem_map_of_mem (f := (·.1)) later
        exact distinct.1 (name.symm.trans same ▸ among)
      have passed : (value.1 == field.1) = false := by simpa using other
      rw [passed]
      exact ih distinct.2 later

end Form

/-! ### Texts -/

theorem Value.texts_map (ts : List Text) : texts (ts.map .text) = ts := by
  rw [texts, List.filterMap_map]
  exact List.filterMap_some

namespace Check

/-- The text that a value stands for where a text is asked for. -/
def textOf? : Value → Option Text
  | .text t => some t
  | .bytes bs => (Utf8.decode bs).toOption
  | .member _ _ w _ => some w.plain
  | _ => Option.none

/-- The texts that the items of a value stand for where a list of texts is asked for. -/
def textsOf (v : Value) : List Text :=
  match itemsOf? .list v with
  | some (xs, _) => xs.filterMap textOf?
  | Option.none => []

theorem str_makes {x y : Value} (h : Makes (str {} Option.none) x y) :
    ∃ t, textOf? x = some t ∧ y = .text t := by
  obtain ⟨a, accepted, rfl⟩ := h
  unfold str at accepted
  split at accepted
  next t =>
    cases textVerdict_eq_ok accepted
    exact ⟨t, rfl, rfl⟩
  next bs =>
    split at accepted
    next t decoded =>
      cases limitedText_eq_ok accepted
      exact ⟨t, congrArg Except.toOption decoded, rfl⟩
    · cases accepted
  next t =>
    cases textVerdict_eq_ok accepted
    exact ⟨t, rfl, rfl⟩
  next w _ _ =>
    cases textVerdict_eq_ok accepted
    exact ⟨w.plain, rfl, rfl⟩
  · cases accepted

/-- Where each item is a text, the items are the texts that are stood for. -/
theorem texts_of_makes {xs ys : List Value} (h : List.Forall₂ (Makes (str {} Option.none)) xs ys) :
    ys = (xs.filterMap textOf?).map .text := by
  induction h with
  | nil => rfl
  | cons first _ ih =>
    obtain ⟨t, text, rfl⟩ := str_makes first
    rw [List.filterMap_cons, text, List.map_cons, ← ih]

theorem sequence_makes_texts {x y : Value} (h : Makes (sequence {} (str {} Option.none)) x y) :
    y = .list ((textsOf x).map .text) := by
  obtain ⟨a, accepted, rfl⟩ := h
  obtain ⟨xs, right, ys, items, each, value⟩ := sequence_eq_ok accepted
  rw [value, textsOf, items, texts_of_makes each]

end Check

end GuardedTools
