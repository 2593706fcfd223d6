import GuardedTools.Binary64
import GuardedTools.Text.Digit

/-!
# Numerals in texts

How a text is read where a number is asked for: without the blanks at its ends, with a sign, with
single underscores between its characters.  `Numeral.integer?` reads an integer, which may be
followed by a point and zeros; `Numeral.real?` reads a number with point and exponent, or a word
for infinity or for no number, and `Numeral.scriptReal?` one in the digits of any script.
-/

namespace GuardedTools.Numeral

/-- The blanks around a numeral; the information separators are none. -/
def isSpace (p : CodePoint) : Bool := p.isBlank && !p.between 0x1C 0x1F

/-- The text without the blanks at its ends. -/
def trimmed (t : Text) : List CodePoint := (t.trimBy isSpace).points

/-- Whether two underscores stand next to each other. -/
def hasDoubleUnderscore : List CodePoint → Bool
  | p :: q :: rest => (p.is '_' && q.is '_') || hasDoubleUnderscore (q :: rest)
  | _ => false

/-- The characters without underscores, which may stand alone between others. -/
def withoutUnderscores (ps : List CodePoint) : Option (List CodePoint) :=
  if ps.all (!·.is '_') then some ps
  else
    let atEnd := match ps.head?, ps.getLast? with
      | some p, some q => p.is '_' || q.is '_'
      | _, _ => false
    if atEnd || hasDoubleUnderscore ps then none else some (ps.filter (!·.is '_'))

/-- A sign, and what follows it. -/
def sign (ps : List CodePoint) : Bool × List CodePoint :=
  match ps with
  | p :: rest => if p.is '-' then (true, rest) else if p.is '+' then (false, rest) else (false, ps)
  | [] => (false, [])

/-- Whether characters are a point and zeros. -/
def isZeroFraction : List CodePoint → Bool
  | [] => false
  | p :: zeros => p.is '.' && !zeros.isEmpty && zeros.all (·.is '0')

/-- The characters without the zeros at their beginning and the underscores among these, of which
one character is kept before a point or the end; none if they do not begin with a digit. -/
def withoutLeadingZeros (ps : List CodePoint) : Option (List CodePoint) :=
  match ps with
  | [] => none
  | p :: _ =>
    if !p.isDigit then none
    else if !p.is '0' then some ps
    else
      let isFiller (q : CodePoint) : Bool := q.is '0' || q.is '_'
      let fillers := ps.takeWhile isFiller
      match ps.dropWhile isFiller with
      | [] => some (fillers.drop (fillers.length - 1))
      | q :: rest =>
        if q.is '.' then some (fillers.drop (fillers.length - 1) ++ q :: rest)
        else if q.isDigit then some (q :: rest)
        else none

/-- Digits with single underscores between them, which may be followed by a point and zeros. -/
def wholeDigits? (ps : List CodePoint) : Option (List CodePoint) := do
  let ps ← withoutLeadingZeros ps
  let rest := ps.dropWhile (!·.is '.')
  let ds ← withoutUnderscores (ps.takeWhile (!·.is '.'))
  if !ds.isEmpty && ds.all CodePoint.isDigit && (rest.isEmpty || isZeroFraction rest) then some ds
  else none

/-- The most digits that are read. -/
def digitLimit : Nat := 4300

/-- What a text is as an integer. -/
inductive IntegerReading where
  | integer (n : Int)
  | tooLong
  | none
deriving DecidableEq

/-- Reads a text as an integer. -/
def integer? (t : Text) : IntegerReading :=
  let (negative, rest) := sign (trimmed t)
  match wholeDigits? rest with
  | Option.none => .none
  | some ds =>
    if digitLimit < ds.length then .tooLong
    else
      let n : Int := Text.digitsToNat ds
      .integer (if negative then -n else n)

/-- An exponent: nothing, or a letter, a sign and digits. -/
def exponent? (ps : List CodePoint) : Option Int :=
  match ps with
  | [] => some 0
  | p :: rest =>
    if p.is 'e' || p.is 'E' then
      let (negative, ds) := sign rest
      if ds.isEmpty || !ds.all CodePoint.isDigit then none
      else
        let n : Int := Text.digitsToNat ds
        some (if negative then -n else n)
    else none

/-- Reads characters without a sign as a number. -/
def unsigned? (negative : Bool) (ps : List CodePoint) : Option Binary64 :=
  let word := (⟨ps⟩ : Text).asciiLower
  if word = "inf" ∨ word = "infinity" then some (.infinity negative)
  else if word = "nan" then some .nan
  else
    let whole := ps.takeWhile CodePoint.isDigit
    let rest := ps.dropWhile CodePoint.isDigit
    let (fraction, rest) := match rest with
      | p :: more =>
        if p.is '.' then (more.takeWhile CodePoint.isDigit, more.dropWhile CodePoint.isDigit)
        else ([], rest)
      | [] => ([], [])
    if whole.isEmpty && fraction.isEmpty then none
    else (exponent? rest).map fun e =>
      .ofDecimal negative (Text.digitsToNat (whole ++ fraction)) (e - fraction.length)

/-- Reads a text as a number. -/
def real? (t : Text) : Option Binary64 :=
  match withoutUnderscores (trimmed t) with
  | none => none
  | some ps =>
    let (negative, rest) := sign ps
    unsigned? negative rest

/-- Characters with the decimal digits of all scripts as ASCII digits. -/
def plainDigits (ps : List CodePoint) : List CodePoint :=
  ps.map fun p => match p.decimal? with
    | some d => .ofHexValue d
    | none => p

/-- Characters without underscores, each of which must stand between two digits. -/
def withoutMarks? (afterDigit : Bool) : List CodePoint → Option (List CodePoint)
  | [] => some []
  | p :: ps =>
    if p.is '_' then
      if afterDigit && ps.head?.any CodePoint.isDigit then withoutMarks? false ps else none
    else (withoutMarks? p.isDigit ps).map (p :: ·)

/-- Reads a text as a number, in the digits of any script. -/
def scriptReal? (t : Text) : Option Binary64 := do
  let ps ← withoutMarks? false (plainDigits t.trim.points)
  let (negative, rest) := sign ps
  unsigned? negative rest

end GuardedTools.Numeral
