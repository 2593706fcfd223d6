import GuardedTools.Check

/-!
# Forms

A form is a class with declared fields of which some have rules of their own: a rule says what an
accepted value of the field becomes, or what is wrong with it.  Configurations and documents are
read as forms.
-/

namespace GuardedTools

/-- A class with rules for its fields. -/
structure Form where
  title : Text
  extra : Extra
  fields : List (Text × Presence × Shape)
  /-- What becomes of an accepted value of a field, or what is wrong with it. -/
  rules : List (Text × (Value → Except Problem Value)) := []

namespace Form

/-- A verdict under a rule. -/
def ruled (rule : Value → Except Problem Value) (v : Verdict) : Verdict :=
  match v with
  | .error issues => .error issues
  | .ok a => match rule a.value with
    | .ok value => .ok { a with value }
    | .error p => .refused p

/-- The verdict on a field under the rules of the form. -/
def ruledField (form : Form) (f : Check.FieldVerdict) : Check.FieldVerdict :=
  match form.rules.find? (·.1 == f.name) with
  | some (_, rule) => { f with verdict := f.verdict.map (ruled rule) }
  | none => f

/-- The values of the fields that a map gives, or what is wrong with it. -/
def fill (form : Form) (entries : List (Value × Value)) :
    Except (List Issue) (List (Text × Value)) :=
  let fields := Shape.checkFields (fun _ => .refused .tooDeep) form.fields entries
  match Check.assemble (.model {}) form.title form.extra (fields.map form.ruledField) entries with
  | .error issues => .error issues
  | .ok a => match a.value with
    | .record _ _ values _ => .ok values
    | _ => .ok []

/-- The value of a field of a filled form. -/
def valueOf (values : List (Text × Value)) (field : Text) : Value :=
  ((values.find? (·.1 == field)).map (·.2)).getD .null

/-- The report on a form that cannot be filled. -/
def report (form : Form) (issues : List Issue) : Text := Issue.report form.title issues

end Form

end GuardedTools
