import GuardedTools.Check
import GuardedTools.Proofs.Basic
import GuardedTools.Proofs.Shape.WellFormed
import Mathlib.Data.List.Forall2

/-!
# What checking a class comes to

Outside a class a shape is checked in one way (`Shape.WellFormed.checkWithin_congr`).  A class accepts a
map when each of its fields comes to a value: what was given for it, as the shape of the field has it,
or its default (`FieldVerdict.Yields`), and the record that it makes holds these values
(`Check.assemble_eq_ok`).
-/

namespace GuardedTools

/-! ### Shapes outside a class -/

namespace Shape

open Check

end Shape

/-! ### Fields -/

namespace Check

/-- A value is what comes of a field: what was given for it, as its shape has it, or its default. -/
inductive FieldVerdict.Yields (f : FieldVerdict) : Value → Prop where
  | given {a : Accepted} (verdict : f.verdict = some (.ok a)) : Yields f a.value
  | default {v : Value} (absent : f.verdict = Option.none) (presence : f.presence = .default v) : Yields f v

/-- Nothing was given for a field that may be absent. -/
def FieldVerdict.isLeftOut (f : FieldVerdict) : Bool :=
  match f.verdict, f.presence with
  | Option.none, .optional => true
  | _, _ => false

theorem FieldVerdict.not_isLeftOut_iff {f : FieldVerdict} :
    (!f.isLeftOut) = true ↔ f.verdict ≠ Option.none ∨ f.presence ≠ .optional := by
  obtain ⟨name, presence, verdict⟩ := f
  cases verdict <;> cases presence <;> simp [isLeftOut]

theorem within_eq_ok {step : LocationStep} {v : Verdict} {a : Accepted} :
    v.within step = .ok a ↔ v = .ok a := mapError_eq_ok

/-- The fields of a class come to one value each, except those that are left out. -/
theorem fieldValues_eq_ok {fs : List FieldVerdict} {values : List (Text × Value)} {fit : Fit}
    (h : fieldValues fs = .ok (values, fit)) :
    List.Forall₂ (fun f value => value.1 = f.name ∧ f.Yields value.2)
      (fs.filter (!·.isLeftOut)) values := by
  induction fs generalizing values fit with
  | nil =>
    cases h
    exact .nil
  | cons f fs ih =>
    rw [fieldValues] at h
    split at h
    next v verdict =>
      have kept : f.isLeftOut = false := by rw [FieldVerdict.isLeftOut, verdict]
      rw [List.filter_cons_of_pos (by rw [kept]; rfl)]
      split at h
      next a rest fits accepted others =>
        cases h
        exact .cons ⟨rfl, .given (verdict.trans (congrArg some (within_eq_ok.mp accepted)))⟩
          (ih others)
      all_goals cases h
    next d verdict presence =>
      obtain ⟨⟨rest, fits⟩, others, h⟩ := map_eq_ok.mp h
      have kept : f.isLeftOut = false := by rw [FieldVerdict.isLeftOut, verdict, presence]
      rw [List.filter_cons_of_pos (by rw [kept]; rfl)]
      cases h
      exact .cons ⟨rfl, .default verdict presence⟩ (ih others)
    next verdict presence =>
      have left : f.isLeftOut = true := by rw [FieldVerdict.isLeftOut, verdict, presence]
      rw [List.filter_cons_of_neg (by rw [left]; decide)]
      exact ih h
    next verdict presence => split at h <;> cases h

/-- A class that does not keep members that it does not declare keeps none. -/
theorem kept_of_furtherMembers {extra : Extra} (closed : extra ≠ .allow) (unknown : Problem)
    (declared : List Text) (es : List (Value × Value)) :
    (furtherMembers extra unknown declared es).2 = [] := by
  induction es with
  | nil => rfl
  | cons e es ih =>
    obtain ⟨k, x⟩ := e
    unfold furtherMembers
    dsimp only
    split
    · split
      · exact ih
      · cases extra with
        | allow => exact absurd rfl closed
        | ignore => exact ih
        | forbid => exact ih
    · exact ih

/-- What a class accepts is a record of what its fields come to. -/
theorem assemble_eq_ok {kind : ClassKind} {name : Text} {extra : Extra} {fs : List FieldVerdict}
    {es : List (Value × Value)} {a : Accepted} (h : assemble kind name extra fs es = .ok a) :
    ∃ values fit kept, fieldValues fs = .ok (values, fit) ∧
      a.value = recordOf kind name values kept ∧ (extra ≠ .allow → kept = []) := by
  unfold assemble at h
  dsimp only at h
  have closed : extra ≠ .allow →
      (if ignoresKeys kind extra = true then ([], [])
        else furtherMembers extra (unknownMember kind) (fs.map (·.name)) es).2 = [] := by
    intro closed
    split
    · rfl
    · exact kept_of_furtherMembers closed _ _ es
  generalize (if ignoresKeys kind extra = true then _ else _ : List Issue × List (Text × Value))
    = members at h closed
  obtain ⟨further, kept⟩ := members
  split at h
  · cases h
  · cases h
  · split at h
    · cases h
    next values fit found =>
      split at h
      · exact ⟨values, fit, kept, found, congrArg Accepted.value (Except.ok.inj h).symm, closed⟩
      · cases h

end Check

namespace Shape

open Check

theorem checkFields_eq_map (self : Value → Verdict) (fields : List (Text × Presence × Shape))
    (es : List (Value × Value)) :
    checkFields self fields es = fields.map fun f =>
      { name := f.1, presence := f.2.1
        verdict := (Value.find? (.text f.1) es).map (f.2.2.checkWithin self) } := by
  induction fields with
  | nil => rfl
  | cons f fields ih => rw [checkFields, ih, List.map_cons]

/-- A map is checked as a class by what it gives for the fields. -/
theorem check_record (kind : ClassKind) (name : Text) (extra : Extra)
    (fields : List (Text × Presence × Shape)) (es : List (Value × Value)) :
    ∃ self, (record kind name extra fields).check (.dict es)
      = assemble kind name extra (checkFields self fields es) es :=
  ⟨nested _ 254, rfl⟩

end Shape

end GuardedTools
