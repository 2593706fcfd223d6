import GuardedTools.Text.Blank

/-!
# Decimal digits of all scripts

The code points of Unicode 14 that stand for a decimal digit.  Each script has its ten digits in
order, so the value of a digit is its distance from the zero of its block.  `Text.toInt?` reads an
integer in any of them, as the parameters of a query do.
-/

namespace GuardedTools

/-- The ranges of decimal digits; each starts with a zero and has a multiple of ten members. -/
def Text.digitRanges : Array (Nat × Nat) := #[
  (48, 57), (1632, 1641), (1776, 1785), (1984, 1993), (2406, 2415), (2534, 2543), (2662, 2671),
  (2790, 2799), (2918, 2927), (3046, 3055), (3174, 3183), (3302, 3311), (3430, 3439), (3558,
  3567), (3664, 3673), (3792, 3801), (3872, 3881), (4160, 4169), (4240, 4249), (6112, 6121),
  (6160, 6169), (6470, 6479), (6608, 6617), (6784, 6793), (6800, 6809), (6992, 7001), (7088,
  7097), (7232, 7241), (7248, 7257), (42528, 42537), (43216, 43225), (43264, 43273), (43472,
  43481), (43504, 43513), (43600, 43609), (44016, 44025), (65296, 65305), (66720, 66729), (68912,
  68921), (69734, 69743), (69872, 69881), (69942, 69951), (70096, 70105), (70384, 70393), (70736,
  70745), (70864, 70873), (71248, 71257), (71360, 71369), (71472, 71481), (71904, 71913), (72016,
  72025), (72784, 72793), (73040, 73049), (73120, 73129), (92768, 92777), (92864, 92873), (93008,
  93017), (120782, 120831), (123200, 123209), (123632, 123641), (125264, 125273), (130032, 130041)]

/-- The value of a decimal digit of any script. -/
def CodePoint.decimal? (p : CodePoint) : Option Nat :=
  (Text.digitRanges.find? fun range => range.1 ≤ p.toNat && p.toNat ≤ range.2).map fun range =>
    (p.toNat - range.1) % 10

namespace Text

/-- The number written by digits of any script, where a single underscore may stand between two
digits.  The second argument is the number read so far, absent before the first digit and after
an underscore. -/
def decimalDigits? : List CodePoint → Nat → Bool → Option Nat
  | [], read, afterDigit => if afterDigit then some read else none
  | p :: ps, read, afterDigit =>
    if p.is '_' then
      if afterDigit then decimalDigits? ps read false else none
    else match p.decimal? with
      | none => none
      | some d => decimalDigits? ps (10 * read + d) true

/-- The most digits of an integer that are read. -/
def digitLimit : Nat := 4300

/-- The integer that a text writes: blanks at the ends, a sign, and digits of any script with
single underscores between them. -/
def toInt? (t : Text) : Option Int :=
  if digitLimit < t.points.countP (·.decimal?.isSome) then none
  else match t.trim.points with
  | [] => none
  | p :: ps =>
    if p.is '-' then (decimalDigits? ps 0 false).map fun n => -(n : Int)
    else if p.is '+' then (decimalDigits? ps 0 false).map Int.ofNat
    else (decimalDigits? (p :: ps) 0 false).map Int.ofNat

end Text

end GuardedTools
