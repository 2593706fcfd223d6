import GuardedTools.Binary64
import GuardedTools.Text

/-!
# Shortest decimal text of a floating-point number

A number is written with the fewest digits that read back as it; of the candidates with that many
digits the nearest one is taken.  `Binary64.shortest` finds these digits, `DecimalStyle` says how
digits and exponent are laid out, and `Binary64.toText` is the layout of the program's output.
-/

namespace GuardedTools

namespace Binary64

/-- Whether a quotient is less than a power of ten. -/
def belowPower (num den : Nat) (exponent : Int) : Bool :=
  if 0 ≤ exponent then num < den * Nat.pow 10 exponent.toNat
  else num * Nat.pow 10 (-exponent).toNat < den

/-- The least exponent of a power of ten above a positive quotient: the number of digits that
stand before its point. -/
def pointPlace (num den : Nat) : Int :=
  let guess := ((num.log2 : Int) - (den.log2 : Int)) * 30103 / 100000
  let candidates := [guess - 1, guess, guess + 1, guess + 2]
  (candidates.find? (belowPower num den)).getD (guess + 3)

/-- The two neighbours of a quotient among the numbers with `count` digits, each as digits and
exponent, the nearer one first. -/
def neighbours (num den : Nat) (place : Int) (count : Nat) : List (Nat × Int) :=
  let exponent := place - count
  let (n, d) :=
    if 0 ≤ exponent then (num, den * Nat.pow 10 exponent.toNat)
    else (num * Nat.pow 10 (-exponent).toNat, den)
  let q := n / d
  let r := n % d
  let low := (q, exponent)
  let high := (q + 1, exponent)
  if 2 * r < d then [low, high]
  else if d < 2 * r then [high, low]
  else if q % 2 = 0 then [low, high] else [high, low]

/-- The fewest digits and the exponent that read back as a positive number. -/
def shortestOf (num den : Nat) : Nat × Int :=
  let place := pointPlace num den
  let target := ofRatio false num den
  let found := (List.range 17).findSome? fun i =>
    (neighbours num den place (i + 1)).find? fun (digits, exponent) =>
      ofDecimal false digits exponent == target
  found.getD (0, 0)

end Binary64

/-- How a decimal is laid out. -/
structure DecimalStyle where
  /-- The number of digits before the point from which an exponent is written. -/
  positionalBelow : Int
  /-- The number of digits before the point (negative: zeros after it) from which on no exponent
  is written. -/
  positionalFrom : Int
  /-- Digits that an exponent has at least. -/
  exponentWidth : Nat
  /-- Whether an integer is written with a point and a zero after it. -/
  pointsIntegers : Bool := true

/-- The layout of the program's output: positional from four zeros after the point up to sixteen
digits before it, otherwise an exponent of two digits. -/
def DecimalStyle.output : DecimalStyle :=
  { positionalBelow := 17, positionalFrom := -3, exponentWidth := 2 }

/-- The layout of numbers that are written out in full: always positional. -/
def DecimalStyle.full : DecimalStyle :=
  { positionalBelow := 1000, positionalFrom := -1000, exponentWidth := 2, pointsIntegers := false }

namespace Text

/-- Drops the zeros at the end of a number's digits. -/
def dropTrailingZeros (digits : List Char) : List Char :=
  (digits.reverse.dropWhile (· == '0')).reverse

/-- Zeros. -/
def zeros (n : Nat) : List Char := List.replicate n '0'

end Text

/-- Lays out digits whose point stands after `place` of them. -/
def DecimalStyle.layOut (style : DecimalStyle) (digits : List Char) (place : Int) : List Char :=
  if style.positionalFrom ≤ place ∧ place < style.positionalBelow then
    if place ≤ 0 then '0' :: '.' :: (Text.zeros (-place).toNat ++ digits)
    else
      let before := place.toNat
      if digits.length ≤ before then
        digits ++ Text.zeros (before - digits.length)
          ++ (if style.pointsIntegers then ['.', '0'] else [])
      else digits.take before ++ '.' :: digits.drop before
  else
    let exponent := place - 1
    let shown := Nat.toDigits 10 exponent.natAbs
    let mantissa := match digits with
      | [] => ['0']
      | [d] => [d]
      | d :: ds => d :: '.' :: ds
    mantissa ++ 'e' :: (if exponent < 0 then '-' else '+')
      :: (Text.zeros (style.exponentWidth - shown.length) ++ shown)

namespace Binary64

/-- The shortest decimal of a finite number from its parts, laid out in a style. -/
def finiteText (style : DecimalStyle) (negative : Bool) (mantissa : Nat) (exponent : Int) : Text :=
  let body :=
    if mantissa = 0 then if style.pointsIntegers then ['0', '.', '0'] else ['0']
    else
      let (num, den) := scaleRatio mantissa 1 exponent
      let (digits, exponent) := shortestOf num den
      let shown := Nat.toDigits 10 digits
      style.layOut (Text.dropTrailingZeros shown) ((shown.length : Int) + exponent)
  Text.ofChars (if negative then '-' :: body else body)

/-- The text of a number: `nan`, `inf`, `-inf`, or the shortest decimal with a point or an
exponent. -/
def toText (x : Binary64) : Text :=
  match x.view with
  | .nan => "nan"
  | .infinite negative => if negative then "-inf" else "inf"
  | .finite negative mantissa exponent => finiteText .output negative mantissa exponent

/-- The text of a number that is written out in full: positional, without a point if it is an
integer. -/
def fullText (x : Binary64) : Text :=
  match x.view with
  | .nan => "NaN"
  | .infinite negative => if negative then "-inf" else "inf"
  | .finite negative mantissa exponent => finiteText .full negative mantissa exponent

end Binary64

end GuardedTools
