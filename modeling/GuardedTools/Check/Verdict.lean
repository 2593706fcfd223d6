import GuardedTools.Check.Issue

/-!
# Verdicts

What checking a value against a shape comes to: the value as the shape has it, or the issues with
it.  An accepted value also says how closely the given one fitted (`Fit`); a union of shapes takes
the member that fits best.

`Fit.both` joins the fits of the parts of a value: the whole fits as closely as its worst part, and
the fields that were given are counted together.
-/

namespace GuardedTools

/-- How closely a value fits a shape, from worst to best: it was converted, it is of a kind that
counts as the right one, it is of the right kind. -/
inductive Grade where
  | converted
  | related
  | exact
deriving DecidableEq, Inhabited, Repr

namespace Grade

def rank : Grade → Nat
  | converted => 0
  | related => 1
  | exact => 2

/-- The worse of two grades. -/
def worse (a b : Grade) : Grade := if a.rank ≤ b.rank then a else b

end Grade

/-- How well a value fits: its grade, and the number of fields that were given to the classes in
it, if there are any. -/
structure Fit where
  grade : Grade := .exact
  given : Option Nat := none
deriving DecidableEq, Inhabited, Repr

namespace Fit

/-- The number of fields given to two parts. -/
def bothGiven : Option Nat → Option Nat → Option Nat
  | some m, some n => some (m + n)
  | some m, none => some m
  | none, n => n

/-- The fit of a value of which two parts fit as said. -/
def both (a b : Fit) : Fit :=
  { grade := a.grade.worse b.grade, given := bothGiven a.given b.given }

/-- Nothing can fit better: the kinds are right and no fields were given. -/
def isPerfect (f : Fit) : Bool := f.grade == .exact && f.given.isNone

/-- Whether the second fit is better than the first: by the number of given fields if both say one
and they differ, and by the grade otherwise. -/
def improvedBy (old new : Fit) : Bool :=
  match old.given, new.given with
  | some m, some n => if m = n then old.grade.rank < new.grade.rank else m < n
  | _, _ => old.grade.rank < new.grade.rank

end Fit

/-- A value as a shape has it, and how closely the given one fitted. -/
structure Accepted where
  value : Value
  fit : Fit := {}
deriving Inhabited, Repr

/-- The accepted value, or the issues with the given one. -/
abbrev Verdict := Except (List Issue) Accepted

namespace Verdict

/-- The value is of the right kind. -/
def exact (v : Value) : Verdict := .ok { value := v }

/-- The value is of a kind that counts as the right one. -/
def related (v : Value) : Verdict := .ok { value := v, fit := { grade := .related } }

/-- The value was converted. -/
def converted (v : Value) : Verdict := .ok { value := v, fit := { grade := .converted } }

/-- There is a problem with the value as a whole. -/
def refused (p : Problem) : Verdict := .error [.here p]

/-- Issues of a part as issues of the whole. -/
def within (step : LocationStep) (v : Verdict) : Verdict :=
  v.mapError fun issues => issues.map (Issue.within step)

/-- The value if it is right about a further condition. -/
def require (problem : Problem) (holds : Value → Bool) (v : Verdict) : Verdict :=
  match v with
  | .error issues => .error issues
  | .ok a => if holds a.value then .ok a else refused problem

/-- The accepted value with a worse grade and given fields. -/
def floored (fit : Fit) (v : Verdict) : Verdict :=
  v.map fun a => { a with fit := fit.both a.fit }

/-- The value that two lists of verdicts, on parts of one value, come to: all issues in order, or
all values in order. -/
def all : List Verdict → Except (List Issue) (List Value × Fit)
  | [] => .ok ([], {})
  | v :: vs => match v, all vs with
    | .ok a, .ok (values, fit) => .ok (a.value :: values, a.fit.both fit)
    | .ok _, .error issues => .error issues
    | .error issues, .ok _ => .error issues
    | .error issues, .error more => .error (issues ++ more)

end Verdict

end GuardedTools
