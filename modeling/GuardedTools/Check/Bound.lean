import GuardedTools.Check.Scalar
import GuardedTools.Shape.Limits
import GuardedTools.Text.Pattern.Size
import GuardedTools.Value.Order

/-!
# Limits beside a shape

A limit may be put on a shape that has no limits of the kind.  It is looked at when the shape has
accepted the value, and asks of the value only what the limit needs: an order, a remainder, a
length, digits, a text.  A value that has nothing of this is not at fault; the limit is
(`Problem.inapplicable`).
-/

namespace GuardedTools

namespace Check

/-- A pattern as the form of a text. -/
def formOf (source : Text) : Text × (Text → Bool) := (source, Pattern.isMet source)

/-- Whether a value is below another one, if they have an order. -/
def isBelow? (v w : Value) : Option Bool := (v.lt w).toOption

/-- Whether a value is below another one or equal to it, if they have an order. -/
def isAtMost? (v w : Value) : Option Bool := (isBelow? v w).map (· || v.same w)

/-- The length of a value that has one. -/
def lengthOf? (v : Value) : Option Nat :=
  match v.bare with
  | .text t => some t.length
  | .bytes bs => some bs.length
  | .list xs => some xs.length
  | .tuple xs => some xs.length
  | .set _ xs => some xs.length
  | .dict es => some es.length
  | _ => Option.none

/-- Whether the remainder of a number by another one is zero, if it can be taken. -/
def dividesExactly? (v of : Value) : Option Bool :=
  let isDecimal : Value → Bool := fun
    | .decimal _ => true
    | _ => false
  let isFloat : Value → Bool := fun
    | .float _ => true
    | _ => false
  if (isDecimal v && isFloat of) || (isFloat v && isDecimal of) then Option.none
  else match v.toExact?, of.toExact? with
    | some a, some b => match a.ratio?, b.ratio? with
      | some (_, n, d), some (_, n', d') =>
        if n' = 0 then Option.none else some ((n * d') % (n' * d) == 0)
      | some (_, n, _), Option.none => some (n == 0)
      | _, _ => some false
    | _, _ => Option.none

/-- The decimal that a value is, if it has digits. -/
def digitsOf? : Value → Option Decimal
  | .decimal (.finite s n e) => some (.finite s n e)
  | _ => Option.none

/-- Whether a number is finite, if it is a number. -/
def isFinite? (v : Value) : Option Bool :=
  match v with
  | .complex _ _ => Option.none
  | v => v.toExact?.map fun d => d.ratio?.isSome

/-- The class of a value with its module, as some messages tell it. -/
def fullClassName : Value → Text
  | .date _ => "datetime.date"
  | .time _ => "datetime.time"
  | .dateTime _ _ => "datetime.datetime"
  | .duration _ => "datetime.timedelta"
  | v => v.className

end Check

namespace Bound

open Check

/-- That a limit makes no sense for a value. -/
def misplaced (b : Bound) (v : Value) : Problem :=
  .inapplicable ("Unable to apply constraint " ++ b.name.quoted ++ " to supplied value " ++ v.plain)

/-- The problem with a value that is not in the wanted order to the limit. -/
def orderProblem (b : Bound) (v limit : Value) (problem : Text → Problem)
    (holds : Option Bool) : Option Problem :=
  match holds with
  | some true => Option.none
  | some false => some (problem (limitText limit.bare))
  | Option.none => some (b.misplaced v)

/-- The problem with a value of which something was counted, where the limit is not kept. -/
def countProblem (b : Bound) (v limit : Value) (counted : Option Nat)
    (problem : Nat → Nat → Problem) (holds : Value → Option Bool) : Option Problem :=
  match counted with
  | Option.none => some (b.misplaced v)
  | some n => match holds (.int n), Shape.count limit with
    | some true, _ => Option.none
    | some false, .ok m => some (problem m n)
    | _, _ => some (b.misplaced v)

/-- The lesser of two counts of a decimal: as it is written, and without its last zeros. -/
def leastCount (count : Decimal → Nat) (v : Value) : Option Nat :=
  (digitsOf? v).map fun d => min (count d) (count d.normalized)

/-- The problem that a limit has with a value. -/
def problem? (b : Bound) (v : Value) : Option Problem :=
  match b with
  | atLeast l => b.orderProblem v l .atLeast (isAtMost? l v)
  | above l => b.orderProblem v l .above (isBelow? l v)
  | atMost l => b.orderProblem v l .atMost (isAtMost? v l)
  | below l => b.orderProblem v l .below (isBelow? v l)
  | multipleOf l => b.orderProblem v l .multipleOf (dividesExactly? v l)
  | minLength l =>
    b.countProblem v l (lengthOf? v) (fun least n => .tooShort .any least n) (isAtMost? l ·)
  | maxLength l =>
    b.countProblem v l (lengthOf? v) (fun most n => .tooLong .any most (some n)) (isAtMost? · l)
  | digits l =>
    b.countProblem v l (leastCount (·.digitCounts.2) v) (fun most _ => .decimalMaxDigits most)
      (isAtMost? · l)
  | places l =>
    b.countProblem v l (leastCount (·.digitCounts.1) v) (fun most _ => .decimalMaxPlaces most)
      (isAtMost? · l)
  | finite => match isFinite? v with
    | some true => Option.none
    | some false => some .finiteNumber
    | Option.none => some (.inapplicable ("must be real number, not " ++ fullClassName v))
  | pattern _ => Option.none

/-- The verdict of a pattern on a value that a shape of a kind accepted.  Only a text can have
the form of a pattern. -/
def formVerdict (source kind : Text) (a : Accepted) : Verdict :=
  match Check.str {} (some (formOf source)) a.value with
  | .ok accepted => .ok { a with value := accepted.value }
  | .error issues =>
    if issues.any fun i => i.problem == .stringType then
      .refused (.inapplicable ("Unable to apply constraint 'pattern' to supplied value "
        ++ a.value.plain ++ " for schema of type " ++ kind.quoted))
    else .error issues

/-- The verdict on a value with a limit that is looked at after a shape of a kind. -/
def applied (b : Bound) (kind : Text) (v : Verdict) : Verdict :=
  match v with
  | .error issues => .error issues
  | .ok a => match b with
    | pattern source => formVerdict source kind a
    | b => match b.problem? a.value with
      | some p => .refused p
      | Option.none => .ok a

end Bound

end GuardedTools
