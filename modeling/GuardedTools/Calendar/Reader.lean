import GuardedTools.Binary64
import GuardedTools.Calendar

/-!
# Reading dates, times and durations

Calendar values are read from the bytes of the texts of ISO 8601, with a few freedoms: the separator
between date and time may be a blank or an underscore, an offset may be written without its colon,
and a duration may be written as days and hours.  A number stands for the seconds since the first
of January 1970; numbers beyond `Calendar.watershed` count milliseconds.
-/

namespace GuardedTools

/-- Why bytes or a number are no calendar value. -/
inductive CalendarFault where
  | tooShort
  | extraCharacters
  | charInYear | charInMonth | charInDay | charInHour | charInMinute | charInSecond
  | charInOffsetHour | charInOffsetMinute | charInOffsetSign
  | dateSeparator | dateTimeSeparator | timeSeparator
  | yearRange | monthRange | dayRange | hourRange | minuteRange | secondRange
  | offsetRange | offsetMinuteRange
  | fractionMissing
  | tooEarly | tooLate
  | notANumber
  | notExact
  | negativeTime | longTime
  | durationDigit | durationFraction | durationTimeUnit | durationDateUnit | durationRepeatedTime
  | durationDays | durationValue | longDuration | longHours
deriving DecidableEq, Inhabited, Repr

def CalendarFault.message : CalendarFault → Text
  | tooShort => "input is too short"
  | extraCharacters => "unexpected extra characters at the end of the input"
  | charInYear => "invalid character in year"
  | charInMonth => "invalid character in month"
  | charInDay => "invalid character in day"
  | charInHour => "invalid character in hour"
  | charInMinute => "invalid character in minute"
  | charInSecond => "invalid character in second"
  | charInOffsetHour => "invalid timezone hour"
  | charInOffsetMinute => "invalid timezone minute"
  | charInOffsetSign => "invalid timezone sign"
  | dateSeparator => "invalid date separator, expected \x60-\x60"
  | dateTimeSeparator =>
    "invalid datetime separator, expected \x60T\x60, \x60t\x60, \x60_\x60 or space"
  | timeSeparator => "invalid time separator, expected \x60:\x60"
  | yearRange => "year 0 is out of range"
  | monthRange => "month value is outside expected range of 1-12"
  | dayRange => "day value is outside expected range"
  | hourRange => "hour value is outside expected range of 0-23"
  | minuteRange => "minute value is outside expected range of 0-59"
  | secondRange => "second value is outside expected range of 0-59"
  | offsetRange => "timezone offset must be less than 24 hours"
  | offsetMinuteRange => "timezone minute value is outside expected range of 0-59"
  | fractionMissing => "second fraction digits missing after \x60.\x60"
  | tooEarly => "dates before 0000 are not supported as unix timestamps"
  | tooLate => "dates after 9999 are not supported as unix timestamps"
  | notANumber => "NaN values not permitted"
  | notExact => "unix timestamp used as a date must be exact dates"
  | negativeTime => "time in seconds should be positive"
  | longTime => "numeric times may not exceed 86,399 seconds"
  | durationDigit => "invalid digit in duration"
  | durationFraction => "quantity fraction invalid in duration"
  | durationTimeUnit => "quantity invalid in time part of duration"
  | durationDateUnit => "quantity invalid in date part of duration"
  | durationRepeatedTime => "\x60t\x60 character repeated in duration"
  | durationDays => "\"day\" identifier in duration not correctly formatted"
  | durationValue => "a numeric value in the duration is too large"
  | longDuration => "durations may not exceed 999,999,999 days"
  | longHours => "durations may not exceed 999,999,999 hours"

abbrev CalendarReading (α : Type) := Except CalendarFault α

/-- The bytes of a written value. -/
abbrev Octets := List UInt8

namespace Calendar

/-- Whether a byte is that of an ASCII character. -/
def isMark (b : UInt8) (c : Char) : Bool := b.toNat == c.toNat

def isDigit (b : UInt8) : Bool := 48 ≤ b && b ≤ 57

/-- The value of a digit. -/
def digitValue (b : UInt8) : Nat := b.toNat - 48

/-- The number that digits write. -/
def numberOf (ds : Octets) : Nat := ds.foldl (fun n d => 10 * n + digitValue d) 0

/-- Reads a number of a given count of digits, and what follows it. -/
def digits (fault : CalendarFault) : Nat → Nat → Octets → CalendarReading (Nat × Octets)
  | 0, n, bs => .ok (n, bs)
  | count + 1, n, bs => match bs with
    | b :: rest =>
      if isDigit b then digits fault count (10 * n + digitValue b) rest else .error fault
    | [] => .error fault

/-- Reads one character. -/
def mark (fault : CalendarFault) (c : Char) : Octets → CalendarReading Octets
  | b :: rest => if isMark b c then .ok rest else .error fault
  | [] => .error fault

/-- Reads a date, and what follows it. -/
def datePart (bs : Octets) : CalendarReading (Date × Octets) := do
  if bs.length < 10 then throw .tooShort
  let (year, bs) ← digits .charInYear 4 0 bs
  let bs ← mark .dateSeparator '-' bs
  let (month, bs) ← digits .charInMonth 2 0 bs
  let bs ← mark .dateSeparator '-' bs
  let (day, bs) ← digits .charInDay 2 0 bs
  if month < 1 || 12 < month then throw .monthRange
  if day < 1 || Date.daysOf year month < day then throw .dayRange
  return ({ year, month, day }, bs)

/-- Digits of a fraction of a second as microseconds; digits beyond the sixth are dropped. -/
def microseconds (ds : Octets) : Nat :=
  let kept := ds.take 6
  numberOf kept * Nat.pow 10 (6 - kept.length)

/-- Reads seconds with an optional fraction, if there are any. -/
def secondPart (bs : Octets) : CalendarReading (Nat × Nat × Octets) :=
  match bs with
  | b :: rest =>
    if isMark b ':' then do
      let (second, bs) ← digits .charInSecond 2 0 rest
      if 59 < second then throw .secondRange
      match bs with
      | c :: rest =>
        if isMark c '.' || isMark c ',' then
          let ds := rest.takeWhile isDigit
          if ds.isEmpty then throw .fractionMissing
          return (second, microseconds ds, rest.dropWhile isDigit)
        else return (second, 0, bs)
      | [] => return (second, 0, bs)
    else return (0, 0, bs)
  | [] => return (0, 0, bs)

/-- Reads hours, minutes and seconds, and what follows them. -/
def clockPart (bs : Octets) : CalendarReading ((Nat × Nat × Nat × Nat) × Octets) := do
  if bs.length < 5 then throw .tooShort
  let (hour, bs) ← digits .charInHour 2 0 bs
  let bs ← mark .timeSeparator ':' bs
  let (minute, bs) ← digits .charInMinute 2 0 bs
  if 23 < hour then throw .hourRange
  if 59 < minute then throw .minuteRange
  let (second, fraction, bs) ← secondPart bs
  return ((hour, minute, second, fraction), bs)

/-- Reads the minutes of an offset, after an optional colon. -/
def offsetMinutes (bs : Octets) : CalendarReading (Nat × Octets) :=
  match bs with
  | b :: rest => digits .charInOffsetMinute 2 0 (if isMark b ':' then rest else bs)
  | [] => .error .charInOffsetMinute

/-- Reads the sign of an offset, which may be the minus sign of three bytes: whether it is negative,
and what follows it. -/
def offsetSign (bs : Octets) : CalendarReading (Bool × Octets) :=
  match bs with
  | 226 :: 136 :: 146 :: rest => .ok (true, rest)
  | b :: rest =>
    if isMark b '+' then .ok (false, rest)
    else if isMark b '-' then .ok (true, rest)
    else .error .charInOffsetSign
  | [] => .error .charInOffsetSign

/-- Reads an offset from UTC up to the end, if there is one. -/
def offsetPart (bs : Octets) : CalendarReading (Option Int) :=
  match bs with
  | [] => return none
  | b :: rest =>
    if isMark b 'Z' || isMark b 'z' then
      if rest.isEmpty then return some 0 else throw .extraCharacters
    else do
      let (negative, rest) ← offsetSign bs
      let (hours, rest) ← digits .charInOffsetHour 2 0 rest
      let (minutes, rest) ← offsetMinutes rest
      if 60 ≤ minutes then throw .offsetMinuteRange
      if 24 ≤ hours then throw .offsetRange
      if !rest.isEmpty then throw .extraCharacters
      let seconds : Int := hours * 3600 + minutes * 60
      return some (if negative then -seconds else seconds)

/-- Numbers of seconds beyond this one, on either side, are numbers of milliseconds. -/
def watershed : Nat := 20000000000

/-- The first and the last second that are taken. -/
def earliest : Int := -62167219200

def latest : Int := 253402300799

/-- The time of day some microseconds after midnight, at UTC. -/
def clockOf (microseconds : Nat) : TimeOfDay :=
  let seconds := microseconds / 1000000
  { hour := seconds / 3600, minute := seconds / 60 % 60, second := seconds % 60,
    microsecond := microseconds % 1000000, offset := some 0 }

/-- The moment of a number of seconds or milliseconds, and of microseconds after it. -/
def moment (number : Int) (micro : Nat) : CalendarReading (Date × TimeOfDay) := do
  let perUnit : Int := if watershed < number.natAbs then 1000 else 1000000
  let total : Int := number * perUnit + micro
  let second := total.fdiv 1000000
  if second < earliest then throw .tooEarly
  if latest < second then throw .tooLate
  let perDay : Int := 86400000000
  return (Date.ofDays (total.fdiv perDay), clockOf (total.fmod perDay).toNat)

/-- The integers of 64 bits. -/
def greatestInteger : Int := 9223372036854775807

def isInteger64 (n : Int) : Bool := -greatestInteger - 1 ≤ n && n ≤ greatestInteger

/-- A million, as a number. -/
def million : Binary64 := .ofInt 1000000

/-- The integer below a number, or the outermost one of 64 bits, and its fraction in microseconds,
rounded to the nearest one. -/
def parts (x : Binary64) : CalendarReading (Int × Nat) :=
  match x.floor? with
  | some n =>
    if isInteger64 n then .ok (n, ((x.above n).mul million).roundUp)
    else .ok (if n < 0 then -greatestInteger - 1 else greatestInteger, 0)
  | none =>
    if x.isNaN then .error .notANumber
    else .ok (if x.isNegative then -greatestInteger - 1 else greatestInteger, 0)

/-- The moment of a number of seconds or milliseconds with a fraction. -/
def momentOfFloat (x : Binary64) : CalendarReading (Date × TimeOfDay) := do
  let (seconds, micro) ← parts x
  if seconds = -greatestInteger - 1 then throw .tooEarly
  moment seconds micro

/-- A number that stands for a moment in a text. -/
inductive Numeral where
  | integer (n : Int)
  | real (x : Binary64)

/-- Reads digits with a point and an exponent, after a sign. -/
def real? (negative : Bool) (bs : Octets) : Option Binary64 :=
  let whole := bs.takeWhile isDigit
  let fraction := ((bs.dropWhile isDigit).drop 1).takeWhile isDigit
  let rest := ((bs.dropWhile isDigit).drop 1).dropWhile isDigit
  let number (power : Int) : Option Binary64 :=
    if whole.isEmpty && fraction.isEmpty then none
    else some (.ofDecimal negative (numberOf (whole ++ fraction)) (power - fraction.length))
  match rest with
  | [] => number 0
  | b :: power =>
    let (below, ds) := match power with
      | c :: more =>
        if isMark c '-' then (true, more) else if isMark c '+' then (false, more)
        else (false, power)
      | [] => (false, power)
    if !(isMark b 'e' || isMark b 'E') || ds.isEmpty || !ds.all isDigit then none
    else number (if below then -(numberOf ds : Int) else numberOf ds)

/-- Reads a number: a sign and digits, which may go on with a point. -/
def numeral? (bs : Octets) : Option Numeral :=
  let (negative, body) := match bs with
    | b :: c :: rest =>
      if isMark b '-' then (true, c :: rest) else if isMark b '+' then (false, c :: rest)
      else (false, bs)
    | bs => (false, bs)
  let whole := body.takeWhile isDigit
  let value : Int := numberOf whole
  if greatestInteger < value then none
  else match body.dropWhile isDigit with
    | [] => if whole.isEmpty then none else some (.integer (if negative then -value else value))
    | b :: _ => if isMark b '.' then (real? negative body).map .real else none

/-- The moment of a number in a text; a fraction beyond the watershed is one of milliseconds. -/
def momentOfNumeral : Numeral → CalendarReading (Date × TimeOfDay)
  | .integer n => moment n 0
  | .real x =>
    let bound : Int := watershed
    let beyond := x.compareInt? bound == some .gt || x.compareInt? (-bound) == some .lt
    momentOfFloat (if beyond then x.div (.ofInt 1000) else x)

end Calendar

open Calendar

/-- Reads a time of day. -/
def TimeOfDay.read (bs : Octets) : CalendarReading TimeOfDay := do
  let ((hour, minute, second, microsecond), bs) ← clockPart bs
  let offset ← offsetPart bs
  return { hour, minute, second, microsecond, offset }

/-- Reads a date and a time of day. -/
def Calendar.dateTimePart (bs : Octets) : CalendarReading (Date × TimeOfDay) := do
  let (date, bs) ← datePart bs
  match bs with
  | b :: rest =>
    if isMark b 'T' || isMark b 't' || isMark b ' ' || isMark b '_' then
      return (date, ← TimeOfDay.read rest)
    else throw .dateTimeSeparator
  | [] => throw .dateTimeSeparator

/-- Reads a moment, or the number of one. -/
def Calendar.readMoment (bs : Octets) : CalendarReading (Date × TimeOfDay) :=
  match dateTimePart bs with
  | .ok r => .ok r
  | .error fault => match numeral? bs with
    | some n => momentOfNumeral n
    | none => .error fault

/-- Reads a date, or an integer that is the number of one. -/
def Date.read (bs : Octets) : CalendarReading Date :=
  let strict : CalendarReading Date := do
    let (date, rest) ← datePart bs
    if !rest.isEmpty then throw .extraCharacters
    return date
  match strict with
  | .ok d => .ok d
  | .error fault => match numeral? bs with
    | some (.integer n) => do
      let (date, time) ← moment n 0
      if time.seconds = 0 then return date else throw .notExact
    | _ => .error fault

/-- The time of day some seconds after midnight. -/
def TimeOfDay.ofSeconds (seconds : Int) (micro : Nat) : CalendarReading TimeOfDay :=
  let total := seconds.toNat * 1000000 + micro
  if seconds < 0 then .error .negativeTime
  else if 86400000000 ≤ total then .error .longTime
  else .ok (clockOf total)

namespace Duration

/-- The longest duration in days. -/
def maxDays : Nat := 999999999

/-- A duration that is not too long. -/
def ofMicroseconds (n : Int) : CalendarReading Duration :=
  if (maxDays + 1) * 86400000000 ≤ n.natAbs then .error .longDuration else .ok { microseconds := n }

/-- The duration of a number of seconds. -/
def ofFloat (x : Binary64) : CalendarReading Duration :=
  match x.ratio? with
  | some (negative, n, d) => do
    let size := Binary64.ofRatio false n d
    let (seconds, micro) ← parts size
    let total := seconds * 1000000 + micro
    ofMicroseconds (if negative then -total else total)
  | none => .error (if x.isNaN then .notANumber else .longDuration)

/-- The numbers of 32 bits. -/
def greatestValue : Nat := 4294967295

/-- Reads digits. -/
def quantity (bs : Octets) : CalendarReading (Nat × Octets) :=
  let whole := bs.takeWhile isDigit
  if whole.isEmpty then .error .durationDigit
  else if greatestValue < numberOf whole then .error .durationValue
  else .ok (numberOf whole, bs.dropWhile isDigit)

/-- Reads a fraction after its mark, if there is one. -/
def fractionPart (bs : Octets) : Option Binary64 × Octets :=
  match bs with
  | b :: rest =>
    if isMark b '.' || isMark b ',' then
      let ds := rest.takeWhile isDigit
      (some (.ofRatio false (numberOf ds) (Nat.pow 10 ds.length)), rest.dropWhile isDigit)
    else (none, bs)
  | [] => (none, bs)

/-- The days of a unit of a date. -/
def dateUnit? (b : UInt8) : Option Nat :=
  if isMark b 'Y' then some 365 else if isMark b 'M' then some 30
  else if isMark b 'W' then some 7 else if isMark b 'D' then some 1 else none

/-- The seconds of a unit of a time. -/
def timeUnit? (b : UInt8) : Option Nat :=
  if isMark b 'H' then some 3600 else if isMark b 'M' then some 60
  else if isMark b 'S' then some 1 else none

/-- A fraction of a unit as whole parts of it and what is left. -/
def split (fraction : Binary64) (size : Nat) : Nat × Binary64 :=
  let amount := fraction.mul (.ofInt size)
  let whole := (amount.floor?.getD 0).toNat
  (whole, amount.above whole)

/-- The microseconds of a quantity of a unit of a date or of a time. -/
def amount (inTime : Bool) (value size : Nat) (fraction : Option Binary64) :
    CalendarReading Nat := do
  if greatestValue < value * size then throw .durationValue
  let perUnit := if inTime then 1 else 86400
  let whole := value * size * perUnit * 1000000
  match fraction with
  | none => return whole
  | some f =>
    let (units, rest) := split f size
    let (seconds, rest) := if inTime then (units, rest)
      else
        let (seconds, rest) := split rest 86400
        (units * 86400 + seconds, rest)
    return whole + seconds * 1000000 + (rest.mul million).roundUp

/-- Reads quantities with units, each of them at most once more than there are bytes.  Only the last
one may have a fraction. -/
def designated : Nat → Bool → Bool → Nat → Octets → CalendarReading Nat
  | _, _, _, total, [] => .ok total
  | 0, _, _, _, _ => .error .durationDigit
  | fuel + 1, inTime, fractional, total, b :: rest =>
    if isMark b 'T' then
      if inTime then .error .durationRepeatedTime else designated fuel true fractional total rest
    else do
      let (value, after) ← quantity (b :: rest)
      let (fraction, after) := fractionPart after
      if fractional then throw .durationFraction
      let fault : CalendarFault := if inTime then .durationTimeUnit else .durationDateUnit
      match after with
      | [] => throw fault
      | u :: after => match if inTime then timeUnit? u else dateUnit? u with
        | none => throw fault
        | some size =>
          designated fuel inTime fraction.isSome (total + (← amount inTime value size fraction))
            after

/-- The most hours that are read. -/
def maxHours : Nat := 2400000000

/-- The hours, and the microseconds of the rest of a clock with any number of hours, of which the
characters after the sixth digit of a fraction are dropped. -/
def clock (bs : Octets) : CalendarReading (Nat × Nat) := do
  if bs.length < 5 then throw .tooShort
  let hours := bs.takeWhile (!isMark · ':')
  match bs.dropWhile (!isMark · ':') with
  | [] => throw .charInHour
  | _ :: rest =>
    if 10 < hours.length then throw .longHours
    if !hours.all isDigit then throw .charInHour
    if maxHours < numberOf hours then throw .longHours
    let zero : Octets := [48, 48, 58]
    let ((_, minute, second, fraction), rest) ← clockPart (zero ++ rest.take 12)
    if !rest.isEmpty then throw .extraCharacters
    return (numberOf hours, (minute * 60 + second) * 1000000 + fraction)

/-- Drops the rest of the word for days after its first letter; none if another word stands
there. -/
def dropWord (bs : Octets) : Option Octets :=
  let is (b : UInt8) (small capital : Char) : Bool := isMark b small || isMark b capital
  match bs with
  | a :: rest =>
    if !is a 'a' 'A' then some bs
    else match rest with
      | y :: rest =>
        if !is y 'y' 'Y' then none
        else match rest with
          | s :: more => some (if is s 's' 'S' then more else rest)
          | [] => some []
      | [] => none
  | [] => some []

/-- Drops one character, if it is there. -/
def dropMark (c : Char) (bs : Octets) : Octets :=
  match bs with
  | b :: rest => if isMark b c then rest else bs
  | [] => []

/-- The microseconds of days, and of a clock of less than a day after them. -/
def daysAndClock (bs : Octets) : CalendarReading Nat := do
  if bs.isEmpty then throw .tooShort
  let (days, rest) ← quantity bs
  match dropMark ' ' rest with
  | d :: rest =>
    if !(isMark d 'd' || isMark d 'D') then throw .durationDays
    match dropWord rest with
    | none => throw .durationDays
    | some rest =>
      let rest := dropMark ' ' (dropMark ',' rest)
      if rest.isEmpty then return days * 86400000000
      let (hours, micro) ← clock rest
      if 24 ≤ hours then throw .longHours
      return (days * 24 + hours) * 3600000000 + micro
  | [] => throw .durationDays

/-- Reads a duration. -/
def read (bs : Octets) : CalendarReading Duration := do
  let (negative, body) := match bs with
    | b :: rest =>
      if isMark b '-' then (true, rest) else if isMark b '+' then (false, rest) else (false, bs)
    | [] => (false, bs)
  if bs.isEmpty then throw .tooShort
  let hasDays := bs.any fun b => isMark b 'd' || isMark b 'D'
  let amount ← match body with
    | b :: rest =>
      if isMark b 'P' then do
        let amount ← designated (rest.length + 1) false false 0 rest
        if bs.length < 3 then throw .tooShort
        pure amount
      else if hasDays || body.length < 5 then daysAndClock body
      else do
        let (hours, micro) ← clock body
        pure (hours * 3600000000 + micro)
    | [] => daysAndClock body
  ofMicroseconds (if negative then -(amount : Int) else amount)

end Duration

end GuardedTools
