import GuardedTools.Text.Digit
import GuardedTools.Value.Display

/-!
# Integers from values

`Value.toInteger` makes an integer of a value where one is asked for: a number loses its fraction,
and a text or bytes are read as a numeral.
-/

namespace GuardedTools

/-- Why a value is made no integer. -/
inductive IntegerFault where
  /-- The text, as a message quotes it, is no numeral. -/
  | notNumeral (shown : Text)
  | tooManyDigits (count : Nat)
  | notANumber
  | infinite
  /-- Values of the class have no integer. -/
  | noInteger (className : Text)
deriving DecidableEq, Inhabited, Repr

namespace IntegerFault

/-- The word that names a kind of fault. -/
def kind : IntegerFault → Text
  | notNumeral _ => "ValueError"
  | tooManyDigits _ => "ValueError"
  | notANumber => "ValueError"
  | infinite => "OverflowError"
  | noInteger _ => "TypeError"

def message : IntegerFault → Text
  | notNumeral shown => "invalid literal for int() with base 10: " ++ shown
  | tooManyDigits n =>
    "Exceeds the limit (4300 digits) for integer string conversion: value has " ++ Text.ofNat n
      ++ " digits; use sys.set_int_max_str_digits() to increase the limit"
  | notANumber => "cannot convert float NaN to integer"
  | infinite => "cannot convert float infinity to integer"
  | noInteger c =>
    "int() argument must be a string, a bytes-like object or a real number, not " ++ c.quoted

end IntegerFault

namespace Value

/-- Reads a numeral, which a message shows as said. -/
def readInteger (shown t : Text) : Except IntegerFault Int :=
  let digits := t.points.countP (·.decimal?.isSome)
  match t.toInt? with
  | some n => .ok n
  | none => .error (if Text.digitLimit < digits then .tooManyDigits digits else .notNumeral shown)

/-- The integer of a value. -/
def toInteger (v : Value) : Except IntegerFault Int :=
  match v.bare with
  | bool b => .ok (if b then 1 else 0)
  | int n => .ok n
  | float x => match x.ratio? with
    | some (negative, n, d) =>
      let whole : Int := (n / d : Nat)
      .ok (if negative then -whole else whole)
    | none => .error (if x.isNaN then .notANumber else .infinite)
  | decimal d => match d.ratio? with
    | some (negative, n, d) =>
      let whole : Int := (n / d : Nat)
      .ok (if negative then -whole else whole)
    | none => .error .notANumber
  | text t => readInteger t.quoted t
  | bytes bs => readInteger (quoteBytes bs) ⟨bs.map fun b => .ofNat b.toNat⟩
  | w => .error (.noInteger w.className)

end Value

end GuardedTools
