import GuardedTools.Check.Numeral
import GuardedTools.Text.Case
import GuardedTools.Value.Display
import GuardedTools.Yaml.Cursor
import GuardedTools.Yaml.Node

/-!
# Values of YAML scalars

What a plain scalar looks like decides the kind of its value (`Kind.ofPlain`), and the kind how the
value is read from the text (`scalarValue`).  Integers may be binary, octal, hexadecimal or in
base sixty; a date is one only in full.
-/

namespace GuardedTools.Yaml

/-! ### Kinds of plain scalars -/

def truthWords : List (String × Bool) := [
  ("yes", true), ("no", false), ("true", true), ("false", false), ("on", true), ("off", false)]

/-- A word in small letters, in capitals, or with a first capital. -/
def isCasing (word : String) (t : Text) : Bool :=
  let small := Text.ofString word
  let big := small.map CodePoint.asciiUpper
  t == small || t == big || t == ⟨big.points.take 1 ++ small.points.drop 1⟩

def isDigitOrMark (p : CodePoint) : Bool := p.isDigit || p.is '_'

/-- The code points after a sign, if there is one. -/
def unsigned (ps : List CodePoint) : List CodePoint :=
  if isOneOf "+-" ps.head? then ps.drop 1 else ps

/-- A digit other than zero, then digits and underscores. -/
def isDecimal : List CodePoint → Bool
  | p :: ps => p.between 49 57 && ps.all isDigitOrMark
  | [] => false

/-- A part of a number in base sixty after the first: below sixty. -/
def isSixtieth : List CodePoint → Bool
  | [a] => a.isDigit
  | [a, b] => a.between 48 53 && b.isDigit
  | _ => false

/-- The parts of a number between colons. -/
def colonParts (ps : List CodePoint) : List (List CodePoint) :=
  Text.splitPointsBy (·.is ':') ps

/-- Digits of a base after its mark. -/
def isBased (mark : Char) (isDigit : CodePoint → Bool) : List CodePoint → Bool
  | z :: m :: ds => z.is '0' && m.is mark && !ds.isEmpty && ds.all fun p => p.is '_' || isDigit p
  | _ => false

/-- A zero, then octal digits and underscores. -/
def isOctal : List CodePoint → Bool
  | z :: ds => z.is '0' && !ds.isEmpty && ds.all fun p => p.is '_' || p.between 48 55
  | [] => false

def looksInteger (ps : List CodePoint) : Bool :=
  let body := unsigned ps
  isBased 'b' (·.between 48 49) body || isOctal body || body == [.scalar '0'] || isDecimal body
    || isBased 'x' (fun p => p.hexValue?.isSome) body
    || match colonParts body with
      | first :: more => isDecimal first && !more.isEmpty && more.all isSixtieth
      | [] => false

/-- An exponent, with its sign, or nothing. -/
def isExponent : List CodePoint → Bool
  | [] => true
  | e :: s :: ds => (e.is 'e' || e.is 'E') && (s.is '+' || s.is '-') && !ds.isEmpty
      && ds.all CodePoint.isDigit
  | _ => false

/-- Digits and underscores of which the first is a digit. -/
def startsDigits : List CodePoint → Bool
  | p :: ps => p.isDigit && ps.all isDigitOrMark
  | [] => false

def looksReal (ps : List CodePoint) : Bool :=
  let body := unsigned ps
  let whole := body.takeWhile isDigitOrMark
  let hasPoint := (body.drop whole.length).head?.any (·.is '.')
  let after := body.drop (whole.length + 1)
  let rest := after.dropWhile isDigitOrMark
  let sixty := match (colonParts body).reverse with
    | last :: m :: more => match (m :: more).reverse with
      | first :: middle =>
        let low := last.takeWhile CodePoint.isDigit
        startsDigits first && middle.all isSixtieth && isSixtieth low
          && (last.drop low.length).head?.any (·.is '.')
          && (last.drop (low.length + 1)).all isDigitOrMark
      | [] => false
    | _ => false
  (hasPoint && startsDigits whole && isExponent rest)
    || (hasPoint && whole.isEmpty && body.length == ps.length
      && startsDigits (after.takeWhile isDigitOrMark) && isExponent rest)
    || sixty
    || (body.head?.any (·.is '.') && isCasing "inf" ⟨body.drop 1⟩)
    || [".nan", ".NaN", ".NAN"].any fun w => ps == (Text.ofString w).points

/-- A date with the time of day that may follow it, as they are written. -/
structure Moment where
  year : Nat
  month : Nat
  day : Nat
  /-- Whether month and day have two digits. -/
  isFull : Bool
  /-- Hour, minute, second, microsecond, and the offset from UTC in minutes. -/
  clock : Option (Nat × Nat × Nat × Nat × Option Int) := none

namespace Moment

/-- A number of at least and at most some digits, how many it has, and what follows it. -/
def number? (least most : Nat) (ps : List CodePoint) : Option (Nat × Nat × List CodePoint) :=
  let digits := (ps.take most).takeWhile CodePoint.isDigit
  if digits.length < least then none
  else some (Text.digitsToNat digits, digits.length, ps.drop digits.length)

/-- What follows a mark. -/
def mark? (c : Char) : List CodePoint → Option (List CodePoint)
  | p :: ps => if p.is c then some ps else none
  | [] => none

/-- The microseconds of the digits of a fraction. -/
def microseconds (digits : List CodePoint) : Nat :=
  let six := digits.take 6
  Text.digitsToNat six * Nat.pow 10 (6 - six.length)

/-- The offset of a zone at the end. -/
def zone? (ps : List CodePoint) : Option (Option Int) :=
  let rest := ps.dropWhile fun p => p.is ' ' || p.is '\t'
  match rest with
  | [] => if ps.isEmpty then some none else none
  | p :: more =>
    if p.is 'Z' then (if more.isEmpty then some (some 0) else none)
    else if p.is '+' || p.is '-' then do
      let (hour, _, more) ← number? 1 2 more
      let minute ← if more.isEmpty then pure 0 else do
        let (minute, _, more) ← number? 2 2 (← mark? ':' more)
        if more.isEmpty then pure minute else none
      let offset : Int := hour * 60 + minute
      return some (if p.is '-' then -offset else offset)
    else none

/-- The clock after a date and what divides them. -/
def clock? (ps : List CodePoint) : Option (Nat × Nat × Nat × Nat × Option Int) := do
  let (hour, _, ps) ← number? 1 2 ps
  let (minute, _, ps) ← number? 2 2 (← mark? ':' ps)
  let (second, _, ps) ← number? 2 2 (← mark? ':' ps)
  let (micro, ps) := match mark? '.' ps with
    | some ps => (microseconds (ps.takeWhile CodePoint.isDigit), ps.dropWhile CodePoint.isDigit)
    | none => (0, ps)
  let zone ← zone? ps
  return (hour, minute, second, micro, zone)

/-- The moment that a scalar writes. -/
def read? (ps : List CodePoint) : Option Moment := do
  let (year, _, ps) ← number? 4 4 ps
  let (month, m, ps) ← number? 1 2 (← mark? '-' ps)
  let (day, d, ps) ← number? 1 2 (← mark? '-' ps)
  let date : Moment := { year, month, day, isFull := m == 2 && d == 2 }
  match ps with
  | [] => return date
  | p :: rest =>
    if p.is 'T' || p.is 't' then return { date with clock := some (← clock? rest) }
    else if p.is ' ' || p.is '\t' then
      let rest := rest.dropWhile fun p => p.is ' ' || p.is '\t'
      return { date with clock := some (← clock? rest) }
    else none

/-- Whether a moment is taken for one without a tag. -/
def isPlain (m : Moment) : Bool := m.clock.isSome || m.isFull

end Moment

namespace Kind

/-- The kind of the value of a plain scalar. -/
def ofPlain (t : Text) : Kind :=
  if t.isEmpty || t == "~" || isCasing "null" t then .null
  else if truthWords.any fun w => isCasing w.1 t then .truth
  else if looksReal t.points then .real
  else if looksInteger t.points then .integer
  else if t == "<<" then .merge
  else if (Moment.read? t.points).any Moment.isPlain then .moment
  else if t == "=" then .standIn
  else .text

end Kind

/-! ### Values -/

/-- Characters with underscores left out. -/
def withoutMarks (t : Text) : List CodePoint := t.points.filter (!·.is '_')

/-- The letter that may stand after a zero before the digits of a base. -/
def baseLetter : Nat → List Char
  | 2 => ['b', 'B']
  | 8 => ['o', 'O']
  | 16 => ['x', 'X']
  | _ => []

/-- Digits without the mark of their base. -/
def withoutBase (base : Nat) : List CodePoint → List CodePoint
  | z :: m :: ps => if z.is '0' && (baseLetter base).any m.is then ps else z :: m :: ps
  | ps => ps

/-- The digits of a base, which may be marked again, as an integer; blanks around them are let
through. -/
def basedInteger (base : Nat) (ps : List CodePoint) : Except Fault Int :=
  let (negative, body) := Numeral.sign (Numeral.plainDigits (⟨ps⟩ : Text).trim.points)
  let digits := (withoutBase base body).mapM fun p => p.hexValue?.filter (· < base)
  match digits with
  | some (d :: ds) =>
    if base = 10 && Text.digitLimit < ds.length + 1 then .error (.tooManyDigits (ds.length + 1))
    else
      let n := (d :: ds).foldl (fun n d => base * n + d) 0
      .ok (if negative then -(n : Int) else n)
  | _ => .error (.badInteger base ⟨ps⟩)

/-- The integer in base sixty of parts. -/
def sixties (parts : List Int) : Int := parts.foldl (fun n p => 60 * n + p) 0

/-- The integer that a scalar writes. -/
def integerValue (t : Text) : Except Fault Int := do
  let ps := withoutMarks t
  if ps.isEmpty then throw .emptyNumber
  let sign : Int := if isOneOf "-" ps.head? then -1 else 1
  let body := unsigned ps
  let first := body.head?
  if body == [.scalar '0'] then return 0
  else if isOneOf "0" first && isOneOf "b" body[1]? then
    return sign * (← basedInteger 2 (body.drop 2))
  else if isOneOf "0" first && isOneOf "x" body[1]? then
    return sign * (← basedInteger 16 (body.drop 2))
  else if body.isEmpty then throw .emptyNumber
  else if isOneOf "0" first then return sign * (← basedInteger 8 body)
  else if body.any (·.is ':') then
    return sign * sixties (← (colonParts body).mapM (basedInteger 10))
  else return sign * (← basedInteger 10 body)

/-- A part of a number as a number. -/
def realPart (ps : List CodePoint) : Except Fault Binary64 :=
  match Numeral.scriptReal? ⟨ps⟩ with
  | some x => .ok x
  | none => .error (.badReal ⟨ps⟩)

/-- The number in base sixty of parts. -/
def sixtyReal (parts : List Binary64) : Binary64 :=
  match parts.find? (!·.isFinite) with
  | some x => x
  | none =>
    let (num, den) := parts.foldl (fun (num, den) x => match x.ratio? with
      | some (negative, n, d) =>
        let part : Int := if negative then -(n : Int) else n
        (num * 60 * d + part * den, den * d)
      | none => (num, den)) ((0 : Int), 1)
    .ofRatio (num < 0) num.natAbs den

/-- The number that a scalar writes. -/
def realValue (t : Text) : Except Fault Binary64 := do
  let ps := (⟨withoutMarks t⟩ : Text).lower.points
  if ps.isEmpty then throw .emptyNumber
  let negative := isOneOf "-" ps.head?
  let signed (x : Binary64) : Binary64 :=
    if negative then ⟨x.bits ^^^ 0x8000000000000000⟩ else x
  let body := unsigned ps
  if body == (Text.ofString ".inf").points then return .infinity negative
  else if body == (Text.ofString ".nan").points then return .nan
  else if body.any (·.is ':') then return signed (sixtyReal (← (colonParts body).mapM realPart))
  else return signed (← realPart body)

/-- The truth value that a scalar writes. -/
def truthValue (t : Text) : Except Fault Bool :=
  match truthWords.find? fun w => Text.ofString w.1 == t.lower with
  | some (_, b) => .ok b
  | none => .error (.badTruth t.lower)

/-- What is wrong with the fields of a date, if anything. -/
def dateFault? (d : Date) : Option Text :=
  if d.year < 1 then some ("year " ++ Text.ofNat d.year ++ " is out of range")
  else if d.month < 1 || 12 < d.month then some "month must be in 1..12"
  else if d.isValid then none else some "day is out of range for month"

/-- What is wrong with a clock, if anything. -/
def clockFault? (hour minute second : Nat) : Option Text :=
  if 23 < hour then some "hour must be in 0..23"
  else if 59 < minute then some "minute must be in 0..59"
  else if 59 < second then some "second must be in 0..59"
  else none

/-- A length of time in minutes as it is quoted. -/
def minutesShown (minutes : Int) : Text :=
  let seconds := minutes * 60
  let days := seconds.fdiv 86400
  let rest := seconds.fmod 86400
  let parts : List Text := (if days = 0 then [] else ["days=" ++ Text.ofInt days])
    ++ (if rest = 0 then [] else ["seconds=" ++ Text.ofInt rest])
  "datetime.timedelta(" ++ Text.intercalate ", " (if parts.isEmpty then ["0"] else parts) ++ ")"

/-- What is wrong with an offset from UTC, if anything. -/
def offsetFault? (minutes : Int) : Option Text :=
  if minutes.natAbs < 1440 then none
  else some ("offset must be a timedelta strictly between -timedelta(hours=24) and "
    ++ "timedelta(hours=24), not " ++ minutesShown minutes ++ ".")

/-- The date or moment that a scalar writes. -/
def momentValue (t : Text) : Except Fault Value :=
  match Moment.read? t.points with
  | none => .error .badMoment
  | some m =>
    let date : Date := { year := m.year, month := m.month, day := m.day }
    match m.clock with
    | none => match dateFault? date with
      | some fault => .error (.badCalendar fault)
      | none => .ok (.date date)
    | some (hour, minute, second, microsecond, offset) =>
      let fault := (offset.bind offsetFault?) <|> dateFault? date <|> clockFault? hour minute second
      match fault with
      | some fault => .error (.badCalendar fault)
      | none => .ok (.dateTime date {
          hour, minute, second, microsecond, offset := offset.map (· * 60) })

/-- The value of a digit of base sixty-four. -/
def base64Value? (p : CodePoint) : Option Nat :=
  if p.between 65 90 then some (p.toNat - 65)
  else if p.between 97 122 then some (p.toNat - 71)
  else if p.isDigit then some (p.toNat + 4)
  else if p.is '+' then some 62
  else if p.is '/' then some 63
  else none

/-- The bytes of digits of base sixty-four, where padding ends the text once it is enough and what
is no digit is passed over.  The digits of the present group are given. -/
def base64Bytes : List Nat → Nat → List CodePoint → Option (List UInt8)
  | group, _, [] => if group.isEmpty then some [] else none
  | group, pads, p :: ps =>
    if p.is '=' then
      if 2 ≤ group.length && 4 ≤ group.length + pads + 1 then some (ofGroup group)
      else base64Bytes group (pads + 1) ps
    else match base64Value? p with
      | none => base64Bytes group pads ps
      | some v =>
        let group := group ++ [v]
        if group.length = 4 then (base64Bytes [] 0 ps).map (ofGroup group ++ ·)
        else base64Bytes group 0 ps
where
  /-- The whole bytes of a group. -/
  ofGroup (group : List Nat) : List UInt8 :=
    let n := (group ++ List.replicate (4 - group.length) 0).foldl (fun n d => 64 * n + d) 0
    [(n / 65536).toUInt8, (n / 256).toUInt8, n.toUInt8].take (group.length - 1)

/-- The bytes that a scalar writes. -/
def binaryValue (t : Text) : Except Fault (List UInt8) :=
  if t.points.all (·.toNat < 128) then
    match base64Bytes [] 0 t.points with
    | some bs => .ok bs
    | none => .error .malformed
  else .error .malformed

/-- The value of a scalar of a kind. -/
def scalarValue (kind : Kind) (t : Text) : Except Fault Value :=
  match kind with
  | .null => .ok .null
  | .truth => (truthValue t).map .bool
  | .integer => (integerValue t).map .int
  | .real => (realValue t).map .float
  | .binary => (binaryValue t).map .bytes
  | .moment => momentValue t
  | .text => .ok (.text t)
  | _ => .error .malformed

end GuardedTools.Yaml
