/-!
# Binary floating-point numbers of 64 bits

A `Binary64` is its bit pattern.  `Binary64.view` reads the pattern as a number that is not a
number, an infinity, or a signed product of a mantissa and a power of two; `Binary64.ofRatio`
rounds a quotient of natural numbers to the nearest pattern, a tie to the even one.  Division,
comparison and conversion all go through these two, in exact arithmetic.
-/

namespace GuardedTools

/-- A floating-point number of 64 bits, as its bit pattern. -/
structure Binary64 where
  bits : UInt64
deriving DecidableEq, Inhabited, Repr

namespace Binary64

/-- What a bit pattern stands for. -/
inductive View where
  | nan
  | infinite (negative : Bool)
  /-- The number `mantissa * 2 ^ exponent`, or its negative. -/
  | finite (negative : Bool) (mantissa : Nat) (exponent : Int)
deriving DecidableEq, Repr

/-- Reads a bit pattern. -/
def view (x : Binary64) : View :=
  let n := x.bits.toNat
  let negative : Bool := Nat.pow 2 63 ≤ n
  let exponent : Nat := n / Nat.pow 2 52 % Nat.pow 2 11
  let fraction : Nat := n % Nat.pow 2 52
  if exponent = 2047 then
    if fraction = 0 then .infinite negative else .nan
  else if exponent = 0 then .finite negative fraction (-1074)
  else .finite negative (Nat.pow 2 52 + fraction) ((exponent : Int) - 1075)

/-- The pattern with a sign bit and the other bits as a number. -/
def ofMagnitude (negative : Bool) (magnitude : Nat) : Binary64 :=
  ⟨(if negative then Nat.pow 2 63 + magnitude else magnitude).toUInt64⟩

def nan : Binary64 := ⟨0x7FF8000000000000⟩

def infinity (negative : Bool) : Binary64 := ofMagnitude negative (2047 * Nat.pow 2 52)

def zero : Binary64 := ⟨0⟩

def isNaN (x : Binary64) : Bool := x.view == .nan

def isFinite (x : Binary64) : Bool :=
  match x.view with
  | .finite _ _ _ => true
  | _ => false

/-- A quotient times a power of two, as a quotient. -/
def scaleRatio (num den : Nat) (exponent : Int) : Nat × Nat :=
  if 0 ≤ exponent then (num * Nat.pow 2 exponent.toNat, den)
  else (num, den * Nat.pow 2 (-exponent).toNat)

/-- The exponent of the last bit that a quotient is rounded to: fifty-three bits are kept, and none
below the smallest pattern. -/
def lastBit (num den : Nat) : Int :=
  let guess := (num.log2 : Int) - (den.log2 : Int) - 53
  let (n, d) := scaleRatio num den (-guess)
  let exponent := if Nat.pow 2 53 ≤ n / d then guess + 1 else guess
  max exponent (-1074)

/-- The quotient of two natural numbers rounded to the nearest one, a tie to the even one. -/
def divRound (num den : Nat) : Nat :=
  let q := num / den
  let r := num % den
  if 2 * r < den then q
  else if den < 2 * r then q + 1
  else if q % 2 = 0 then q else q + 1

/-- The pattern nearest to a quotient, a tie going to the even pattern; quotients beyond the
largest finite one give an infinity. -/
def ofRatio (negative : Bool) (num den : Nat) : Binary64 :=
  if num = 0 then ofMagnitude negative 0
  else
    let exponent := lastBit num den
    let (n, d) := scaleRatio num den (-exponent)
    let magnitude := (exponent + 1074).toNat * Nat.pow 2 52 + divRound n d
    if 2047 * Nat.pow 2 52 ≤ magnitude then infinity negative else ofMagnitude negative magnitude

/-- The pattern nearest to `digits * 10 ^ exponent`.  Exponents far outside the range of the
format are settled by the number of digits. -/
def ofDecimal (negative : Bool) (digits : Nat) (exponent : Int) : Binary64 :=
  let size : Int := (Nat.toDigits 10 digits).length + exponent
  if digits = 0 || size < -400 then ofMagnitude negative 0
  else if 400 < size then infinity negative
  else if 0 ≤ exponent then ofRatio negative (digits * Nat.pow 10 exponent.toNat) 1
  else ofRatio negative digits (Nat.pow 10 (-exponent).toNat)

/-- The pattern nearest to an integer. -/
def ofInt (n : Int) : Binary64 := ofRatio (n < 0) n.natAbs 1

/-- Sign, numerator and denominator of a finite number. -/
def ratio? (x : Binary64) : Option (Bool × Nat × Nat) :=
  match x.view with
  | .finite negative mantissa exponent =>
    let (n, d) := scaleRatio mantissa 1 exponent
    some (negative, n, d)
  | _ => none

/-- The integer that a number is, if it is one. -/
def toInt? (x : Binary64) : Option Int :=
  match x.ratio? with
  | some (negative, n, d) =>
    if n % d = 0 then some (if negative then -((n / d : Nat) : Int) else ((n / d : Nat) : Int))
    else none
  | none => none

/-- A position of a number among the rationals and the two infinities: below them all, at a
quotient, or above them all. -/
inductive Place where
  | bottom
  | at (num : Int) (den : Nat)
  | top
deriving DecidableEq

/-- The place of a number; none for a number that is not a number. -/
def place? (x : Binary64) : Option Place :=
  match x.view with
  | .nan => none
  | .infinite true => some .bottom
  | .infinite false => some .top
  | .finite negative mantissa exponent =>
    let (n, d) := scaleRatio mantissa 1 exponent
    some (.at (if negative then -(n : Int) else n) d)

/-- The order of places. -/
def Place.compare : Place → Place → Ordering
  | .bottom, .bottom => .eq
  | .bottom, _ => .lt
  | .top, .top => .eq
  | .top, _ => .gt
  | .at _ _, .bottom => .gt
  | .at _ _, .top => .lt
  | .at n d, .at n' d' => Ord.compare (n * d') (n' * d)

/-- The order of two numbers; none if one of them is not a number. -/
def compare? (x y : Binary64) : Option Ordering :=
  match x.place?, y.place? with
  | some p, some q => some (p.compare q)
  | _, _ => none

/-- Whether two numbers are equal: zeros of both signs are, and what is not a number equals
nothing. -/
def equals (x y : Binary64) : Bool := x.compare? y == some .eq

/-- The order of a number and an integer; none if the first is not a number. -/
def compareInt? (x : Binary64) (n : Int) : Option Ordering :=
  x.place?.map fun p => p.compare (.at n 1)

/-- Whether a number has its sign bit set. -/
def isNegative (x : Binary64) : Bool := Nat.pow 2 63 ≤ x.bits.toNat

/-- The quotient of two finite numbers, the second of which is not zero. -/
def div (x y : Binary64) : Binary64 :=
  match x.ratio?, y.ratio? with
  | some (sx, nx, dx), some (sy, ny, dy) =>
    if ny = 0 then nan else ofRatio (sx != sy) (nx * dy) (dx * ny)
  | _, _ => nan

/-- The product of two finite numbers. -/
def mul (x y : Binary64) : Binary64 :=
  match x.ratio?, y.ratio? with
  | some (sx, nx, dx), some (sy, ny, dy) => ofRatio (sx != sy) (nx * ny) (dx * dy)
  | _, _ => nan

/-- The greatest integer that is not greater than a finite number. -/
def floor? (x : Binary64) : Option Int :=
  x.ratio?.map fun (negative, n, d) => (if negative then -(n : Int) else n).fdiv d

/-- What a finite number is above an integer that is not greater. -/
def above (x : Binary64) (n : Int) : Binary64 :=
  match x.ratio? with
  | some (negative, m, d) => ofRatio false ((if negative then -(m : Int) else m) - n * d).toNat d
  | none => nan

/-- The integer nearest to a finite number that is not negative, a tie going up. -/
def roundUp (x : Binary64) : Nat :=
  match x.ratio? with
  | some (_, n, d) => (2 * n + d) / (2 * d)
  | none => 0

end Binary64

end GuardedTools
