import GuardedTools.Text

/-!
# Dates, times of day and durations

Calendar values as tools receive and return them, with their two texts: the one with a blank
between date and time, and the one of ISO 8601.
-/

namespace GuardedTools

/-- A day of the Gregorian calendar. -/
structure Date where
  year : Nat
  month : Nat
  day : Nat
deriving DecidableEq, Inhabited, Repr

/-- A time of day, with the offset from UTC in seconds if it is known. -/
structure TimeOfDay where
  hour : Nat
  minute : Nat
  second : Nat
  microsecond : Nat
  offset : Option Int
deriving DecidableEq, Inhabited, Repr

/-- A length of time in microseconds. -/
structure Duration where
  microseconds : Int
deriving DecidableEq, Inhabited, Repr

namespace Text

/-- A number in decimal with at least the given number of digits. -/
def padded (width n : Nat) : Text :=
  let digits := (Nat.toDigits 10 n).map CodePoint.scalar
  ⟨List.replicate (width - digits.length) (.scalar '0') ++ digits⟩

end Text

namespace Date

def isLeap (year : Nat) : Bool := year % 4 == 0 && (year % 100 != 0 || year % 400 == 0)

/-- The number of days of a month. -/
def daysOf (year month : Nat) : Nat :=
  if month = 2 then (if isLeap year then 29 else 28)
  else if month = 4 || month = 6 || month = 9 || month = 11 then 30
  else 31

/-- Whether the fields name a day from year 1 to year 9999. -/
def isValid (d : Date) : Bool :=
  1 ≤ d.year && d.year ≤ 9999 && 1 ≤ d.month && d.month ≤ 12 && 1 ≤ d.day
    && d.day ≤ daysOf d.year d.month

/-- The day that is a number of days after the first of January 1970. -/
def ofDays (days : Int) : Date :=
  let z := days + 719468
  let era := z.fdiv 146097
  let dayOfEra := (z - era * 146097).toNat
  let yearOfEra :=
    (dayOfEra - dayOfEra / 1460 + dayOfEra / 36524 - dayOfEra / 146096) / 365
  let dayOfYear := dayOfEra - (365 * yearOfEra + yearOfEra / 4 - yearOfEra / 100)
  let mp := (5 * dayOfYear + 2) / 153
  let day := dayOfYear - (153 * mp + 2) / 5 + 1
  let month := if mp < 10 then mp + 3 else mp - 9
  let year := era * 400 + yearOfEra + (if month ≤ 2 then 1 else 0)
  { year := year.toNat, month, day }

/-- The number of days from the first of January 1970 to a day. -/
def toDays (d : Date) : Int :=
  let year : Int := if d.month ≤ 2 then (d.year : Int) - 1 else d.year
  let era := year.fdiv 400
  let yearOfEra := year - era * 400
  let month : Int := if d.month ≤ 2 then (d.month : Int) + 9 else (d.month : Int) - 3
  let dayOfYear := (153 * month + 2) / 5 + d.day - 1
  era * 146097 + yearOfEra * 365 + yearOfEra / 4 - yearOfEra / 100 + dayOfYear - 719468

def toText (d : Date) : Text :=
  Text.padded 4 d.year ++ "-" ++ Text.padded 2 d.month ++ "-" ++ Text.padded 2 d.day

end Date

namespace TimeOfDay

/-- The seconds since midnight. -/
def seconds (t : TimeOfDay) : Int := (t.hour * 60 + t.minute) * 60 + t.second

/-- The seconds since midnight at UTC, which may be those of another day. -/
def utcSeconds (t : TimeOfDay) : Int := t.seconds - t.offset.getD 0

/-- Whether two times are equal: at known offsets if they are one time at UTC, and otherwise if both
have none. -/
def same (t u : TimeOfDay) : Bool :=
  t.offset.isSome == u.offset.isSome && t.utcSeconds == u.utcSeconds
    && t.microsecond == u.microsecond

/-- An offset from UTC as hours and minutes with a sign. -/
def offsetText (offset : Int) : Text :=
  let n := offset.natAbs
  (if offset < 0 then "-" else "+") ++ Text.padded 2 (n / 3600) ++ ":"
    ++ Text.padded 2 (n / 60 % 60)

/-- Hours, minutes, seconds and, unless it is zero, the fraction. -/
def clockText (t : TimeOfDay) : Text :=
  Text.padded 2 t.hour ++ ":" ++ Text.padded 2 t.minute ++ ":" ++ Text.padded 2 t.second
    ++ (if t.microsecond = 0 then Text.empty else "." ++ Text.padded 6 t.microsecond)

/-- The time with its offset as hours and minutes. -/
def toText (t : TimeOfDay) : Text :=
  t.clockText ++ (match t.offset with
    | none => Text.empty
    | some o => offsetText o)

/-- The time with its offset, where that of UTC is `Z`. -/
def isoText (t : TimeOfDay) : Text :=
  t.clockText ++ (match t.offset with
    | none => Text.empty
    | some 0 => Text.ofString "Z"
    | some o => offsetText o)

end TimeOfDay

/-- Whether two moments are equal: at known offsets if they are one moment, and otherwise if both
have none. -/
def Calendar.sameMoment (d : Date) (t : TimeOfDay) (e : Date) (u : TimeOfDay) : Bool :=
  t.offset.isSome == u.offset.isSome
    && d.toDays * 86400 + t.utcSeconds == e.toDays * 86400 + u.utcSeconds
    && t.microsecond == u.microsecond

namespace Duration

/-- Days, and hours, minutes, seconds and fraction of the rest, as in `-1 day, 23:59:59`. -/
def toText (d : Duration) : Text :=
  let perDay : Int := 86400000000
  let days := d.microseconds.fdiv perDay
  let rest := (d.microseconds.fmod perDay).toNat
  let seconds := rest / 1000000
  let fraction := rest % 1000000
  let clock := Text.ofNat (seconds / 3600) ++ ":" ++ Text.padded 2 (seconds / 60 % 60) ++ ":"
    ++ Text.padded 2 (seconds % 60)
    ++ (if fraction = 0 then Text.empty else "." ++ Text.padded 6 fraction)
  if days = 0 then clock
  else Text.ofInt days ++ (if days.natAbs = 1 then " day, " else " days, ") ++ clock

/-- The designators of ISO 8601, a year counting 365 days; nothing at all is `PT0S`. -/
def isoText (d : Duration) : Text :=
  let n := d.microseconds.natAbs
  let fraction := n % 1000000
  let seconds := n / 1000000 % 86400
  let days := n / 86400000000
  let part := fun (k : Nat) (unit : String) =>
    if k = 0 then Text.empty else Text.ofNat k ++ Text.ofString unit
  let shownFraction :=
    if fraction = 0 then Text.empty
    else "." ++ (Text.padded 6 fraction).trimEndBy (·.is '0')
  let clock :=
    if n = 0 then Text.ofString "T0S"
    else if seconds = 0 ∧ fraction = 0 then Text.empty
    else
      "T" ++ part (seconds / 3600) "H" ++ part (seconds / 60 % 60) "M"
        ++ (if seconds % 60 = 0 ∧ fraction = 0 then Text.empty
            else Text.ofNat (seconds % 60) ++ shownFraction ++ "S")
  (if d.microseconds < 0 then Text.ofString "-" else Text.empty) ++ "P" ++ part (days / 365) "Y"
    ++ part (days % 365) "D" ++ clock

end Duration

end GuardedTools
