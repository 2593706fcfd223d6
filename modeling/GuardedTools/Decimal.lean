import GuardedTools.Binary64
import GuardedTools.Text.Digit

/-!
# Decimal numbers

Decimal numbers keep the digits they are written with: `2.50` and `2.5` are different decimals of
one value.  `Decimal.ofText?` reads one and `Decimal.toText` writes it.  Two decimals have one value
if they are the same without the zeros at their ends (`Decimal.reduced`), and `Decimal.compare?`
orders them without writing out their powers of ten.
-/

namespace GuardedTools

/-- A finite decimal: a sign, an integer and a power of ten, or one of the values that are no
numbers. -/
inductive Decimal where
  | finite (negative : Bool) (digits : Nat) (exponent : Int)
  | infinite (negative : Bool)
  | nan
deriving DecidableEq, Inhabited, Repr

namespace Decimal

/-- The text of a decimal: without an exponent while the point stands within or up to five zeros
before the digits. -/
def toText : Decimal → Text
  | nan => "NaN"
  | infinite negative => if negative then "-Infinity" else "Infinity"
  | finite negative digits exponent =>
    let ds := Nat.toDigits 10 digits
    let place : Int := exponent + ds.length
    let sign : List Char := if negative then ['-'] else []
    let shown : Int := if exponent ≤ 0 ∧ -6 < place then place else 1
    let before : List Char :=
      if shown ≤ 0 then ['0']
      else if (ds.length : Int) ≤ shown then ds ++ List.replicate (shown.toNat - ds.length) '0'
      else ds.take shown.toNat
    let after : List Char :=
      if shown ≤ 0 then '.' :: (List.replicate (-shown).toNat '0' ++ ds)
      else if (ds.length : Int) ≤ shown then []
      else '.' :: ds.drop shown.toNat
    let power : List Char :=
      if place = shown then []
      else
        let e := place - shown
        'E' :: (if e < 0 then '-' else '+') :: Nat.toDigits 10 e.natAbs
    Text.ofChars (sign ++ before ++ after ++ power)

/-- The number of decimal digits of a number. -/
def width (n : Nat) : Nat := (Nat.toDigits 10 n).length

/-- A number without the zeros at its end, and how many there were, of which at most `fuel` are
looked at. -/
def withoutZeros : Nat → Nat → Nat × Nat
  | 0, n => (n, 0)
  | fuel + 1, n =>
    if n = 0 || n % 10 != 0 then (n, 0)
    else
      let (m, zeros) := withoutZeros fuel (n / 10)
      (m, zeros + 1)

/-- A decimal of the same value without zeros at its end; zero has no sign and no exponent. -/
def reduced : Decimal → Decimal
  | finite negative digits exponent =>
    if digits = 0 then finite false 0 0
    else
      let (m, zeros) := withoutZeros digits.log2 digits
      finite negative m (exponent + zeros)
  | d => d

/-- The decimal of exactly the value of a number. -/
def ofBinary64 (x : Binary64) : Decimal :=
  match x.view with
  | .nan => nan
  | .infinite negative => infinite negative
  | .finite negative mantissa exponent =>
    if 0 ≤ exponent then finite negative (mantissa * Nat.pow 2 exponent.toNat) 0
    else finite negative (mantissa * Nat.pow 5 (-exponent).toNat) exponent

def ofInt (n : Int) : Decimal := finite (n < 0) n.natAbs 0

/-- The number nearest to a decimal. -/
def toBinary64 : Decimal → Binary64
  | nan => .nan
  | infinite negative => .infinity negative
  | finite negative digits exponent => .ofDecimal negative digits exponent

/-- The order of two quantities other than zero, each digits times a power of ten: by the place of
the first digit, then by the digits. -/
def compareMagnitudes (m : Nat) (e : Int) (n : Nat) (f : Int) : Ordering :=
  let first := (width m : Int) + e
  let other := (width n : Int) + f
  if first < other then .lt
  else if other < first then .gt
  else
    let last := min e f
    Ord.compare (m * Nat.pow 10 (e - last).toNat) (n * Nat.pow 10 (f - last).toNat)

/-- The order of two decimals; none if one of them is not a number. -/
def compare? : Decimal → Decimal → Option Ordering
  | nan, _ => none
  | _, nan => none
  | infinite s, infinite t => some (if s = t then .eq else if s then .lt else .gt)
  | infinite s, finite _ _ _ => some (if s then .lt else .gt)
  | finite _ _ _, infinite t => some (if t then .gt else .lt)
  | finite s m e, finite t n f =>
    let below : Bool := s && m != 0
    let otherBelow : Bool := t && n != 0
    if m = 0 && n = 0 then some .eq
    else if m = 0 then some (if otherBelow then .gt else .lt)
    else if n = 0 then some (if below then .lt else .gt)
    else if below != otherBelow then some (if below then .lt else .gt)
    else if below then some (compareMagnitudes m e n f).swap
    else some (compareMagnitudes m e n f)

/-- Whether two decimals have one value; what is not a number equals nothing. -/
def equals (a b : Decimal) : Bool := a.compare? b == some .eq

/-- A number with at most `precision` digits, and the number of digits that were rounded off, a tie
going to the even neighbour; `rest` says that something follows the digits. -/
def roundTo (precision n : Nat) (rest : Bool) : Nat × Nat :=
  let excess := width n - precision
  let unit := Nat.pow 10 excess
  let q := n / unit
  let r := 2 * (n % unit)
  let up : Bool := unit < r || (unit == r && (rest || q % 2 == 1))
  let up : Bool := up && excess != 0
  (if up then q + 1 else q, excess)

/-- The precision of calculations. -/
def precision : Nat := 28

/-- A decimal with the precision of calculations and without zeros at its end. -/
def normalized : Decimal → Decimal
  | finite negative digits exponent =>
    let (m, excess) := roundTo precision digits false
    (finite negative m (exponent + excess)).reduced
  | d => d

/-- Whether a quotient of two finite decimals, with the precision of calculations, is an integer
that this precision can hold. -/
def isMultipleOf : Decimal → Decimal → Bool
  | finite _ m e, finite _ n f =>
    if n = 0 then false
    else
      let shift := width n + precision + 1 - width m
      let numerator := m * Nat.pow 10 shift
      let (q, excess) := roundTo precision (numerator / n) (numerator % n != 0)
      match (finite false q (e - f - shift + excess)).reduced with
      | finite _ k g => 0 ≤ g && (width k : Int) + g ≤ precision
      | _ => false
  | _, _ => false

/-- How many digits a finite decimal has after the point, and how many in all, zeros between the
point and the digits counted. -/
def digitCounts : Decimal → Nat × Nat
  | finite _ digits exponent =>
    if 0 ≤ exponent then (0, width digits + exponent.toNat)
    else ((-exponent).toNat, max (width digits) (-exponent).toNat)
  | _ => (0, 0)

/-- Reads digits of any script. -/
def digitsOf (ps : List CodePoint) : Option (List Nat) := ps.mapM CodePoint.decimal?

/-- The number that digits write, the first one first. -/
def numberOf (ds : List Nat) : Nat := ds.foldl (fun n d => 10 * n + d) 0

/-- Reads a sign, which may be missing. -/
def signOf (ps : List CodePoint) : Bool × List CodePoint :=
  match ps with
  | p :: rest => if p.is '-' then (true, rest) else if p.is '+' then (false, rest) else (false, ps)
  | [] => (false, ps)

/-- Reads what follows the letter of an exponent. -/
def exponentOf (ps : List CodePoint) : Option Int :=
  let (negative, rest) := signOf ps
  match digitsOf rest with
  | some [] => none
  | some ds => some (if negative then -(numberOf ds : Int) else numberOf ds)
  | none => none

/-- The greatest exponent of a first digit. -/
def greatestPlace : Int := 999999999999999999

/-- The least exponent of a last digit. -/
def leastExponent : Int := -1999999999999999997

/-- A finite decimal, if its exponent is not out of range. -/
def held (negative : Bool) (digits : Nat) (exponent : Int) : Option Decimal :=
  let first := if digits = 0 then exponent else exponent + width digits - 1
  if first ≤ greatestPlace && leastExponent ≤ exponent then some (finite negative digits exponent)
  else none

/-- Reads digits with a point and an exponent. -/
def numeral? (negative : Bool) (ps : List CodePoint) : Option Decimal := do
  let isMark (p : CodePoint) : Bool := p.is 'e' || p.is 'E'
  let mantissa := ps.takeWhile (!isMark ·)
  let exponent ← match ps.dropWhile (!isMark ·) with
    | [] => some 0
    | _ :: power => exponentOf power
  let whole ← digitsOf (mantissa.takeWhile (!·.is '.'))
  let fraction ← digitsOf ((mantissa.dropWhile (!·.is '.')).drop 1)
  if whole.isEmpty && fraction.isEmpty then none
  else held negative (numberOf (whole ++ fraction)) (exponent - fraction.length)

/-- Reads a decimal: blanks at the ends, underscores anywhere, a sign, digits with a point, an
exponent, or a word for infinity or for no number, which digits may follow. -/
def ofText? (t : Text) : Option Decimal :=
  let (negative, ps) := signOf (t.trim.points.filter (!·.is '_'))
  let word := (⟨ps⟩ : Text).asciiLower
  let payload (n : Nat) : Option Decimal := (digitsOf (ps.drop n)).map fun _ => nan
  if word = "inf" ∨ word = "infinity" then some (.infinite negative)
  else if word.startsWith "nan" then payload 3
  else if word.startsWith "snan" then payload 4
  else numeral? negative ps

/-- The value of a finite decimal as a sign and a quotient. -/
def ratio? : Decimal → Option (Bool × Nat × Nat)
  | finite negative digits exponent =>
    if 0 ≤ exponent then some (negative, digits * Nat.pow 10 exponent.toNat, 1)
    else some (negative, digits, Nat.pow 10 (-exponent).toNat)
  | _ => none

end Decimal

end GuardedTools
