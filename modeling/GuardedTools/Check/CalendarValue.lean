import GuardedTools.Check.Scalar

/-!
# Checking dates, times and durations

A calendar value is accepted as it is, or read from a text, from bytes or from a number of seconds.
A moment at midnight is a date, and a date is a moment at midnight.  Limits are looked at before a
date is held to be one from year 1 on.
-/

namespace GuardedTools.Check

open Calendar

/-- The bytes of a value that is read as one, if it is a text or bytes; none within if the text has
no bytes. -/
def octets? (v : Value) : Option (Option Octets) :=
  match v.bare with
  | .text t => some (Utf8.encode t)
  | .bytes bs => some (some bs)
  | _ => Option.none

/-- A number of seconds, as an integer of 64 bits or as a number with a fraction. -/
inductive SecondCount where
  | whole (n : Int)
  | real (x : Binary64)

/-- The number of seconds that a value is. -/
def secondCount? (v : Value) : Option SecondCount :=
  match v.bare with
  | .int n =>
    if isInteger64 n then some (.whole n)
    else
      let x := Binary64.ofInt n
      if x.isFinite then some (.real x) else Option.none
  | .float x => some (.real x)
  | .decimal d => some (.real d.toBinary64)
  | _ => Option.none

/-- A reading as a verdict. -/
def ofReading {α : Type} (problem : Text → Problem) (make : α → Value) :
    CalendarReading α → Verdict
  | .ok a => .converted (make a)
  | .error fault => .refused (problem fault.message)

/-- The moment of a number of seconds. -/
def momentOfCount : SecondCount → CalendarReading (Date × TimeOfDay)
  | .whole n => moment n 0
  | .real x => momentOfFloat x

/-- The time of day of a number of seconds. -/
def timeOfCount : SecondCount → CalendarReading TimeOfDay
  | .whole n => TimeOfDay.ofSeconds n 0
  | .real x => (parts x).bind fun (s, m) => TimeOfDay.ofSeconds s m

/-- The duration of a number of seconds. -/
def durationOfCount : SecondCount → CalendarReading Duration
  | .whole n => Duration.ofMicroseconds (n * 1000000)
  | .real x => Duration.ofFloat x

/-- Midnight of no known offset. -/
def midnight : TimeOfDay :=
  { hour := 0, minute := 0, second := 0, microsecond := 0, offset := Option.none }

/-- Refuses a date of the year zero. -/
def inYears (problem : Text → Problem) (v : Verdict) : Verdict :=
  let refused : Verdict := .refused (problem CalendarFault.yearRange.message)
  match v with
  | .ok a => match a.value with
    | .date d => if d.year = 0 then refused else v
    | .dateTime d _ => if d.year = 0 then refused else v
    | _ => v
  | .error _ => v

/-- A moment as a date, if it is at midnight. -/
def dateOfMoment (date : Date) (time : TimeOfDay) : Verdict :=
  if { time with offset := Option.none } = midnight then .converted (.date date)
  else .refused .dateInexact

/-- The date of the moment that a reading gives. -/
def dateOfReading : CalendarReading (Date × TimeOfDay) → Verdict
  | .ok (d, t) => dateOfMoment d t
  | .error fault => .refused (.dateParsing fault.message)

/-- A date, without regard to limits. -/
def dateOf (v : Value) : Verdict :=
  match v with
  | .date _ => .exact v
  | .dateTime d t => dateOfMoment d t
  | v => match octets? v, secondCount? v with
    | some Option.none, _ => .refused .stringUnicode
    | some (some bs), _ => match Date.read bs with
      | .ok d => .converted (.date d)
      | .error _ => dateOfReading (readMoment bs)
    | Option.none, some n => dateOfReading (momentOfCount n)
    | Option.none, Option.none => .refused .dateType

def date (limits : Limits) (v : Value) : Verdict :=
  inYears .dateFormat (limited limits (dateOf v))

/-- The moment that bytes write, or midnight of the date that they write. -/
def dateTimeOfOctets (bs : Octets) : Verdict :=
  match readMoment bs with
  | .ok (d, t) => .converted (.dateTime d t)
  | .error _ => ofReading .dateTimeParsing (.dateTime · midnight) (Date.read bs)

/-- A moment, without regard to limits. -/
def dateTimeOf (v : Value) : Verdict :=
  match v with
  | .dateTime _ _ => .exact v
  | .date d => .converted (.dateTime d midnight)
  | v => match octets? v, secondCount? v with
    | some Option.none, _ => .refused .stringUnicode
    | some (some bs), _ => dateTimeOfOctets bs
    | Option.none, some n =>
      ofReading .dateTimeFormat (fun (d, t) => .dateTime d t) (momentOfCount n)
    | Option.none, Option.none => .refused .dateTimeType

def dateTime (limits : Limits) (v : Value) : Verdict :=
  inYears .dateTimeFormat (limited limits (dateTimeOf v))

/-- A time of day, without regard to limits. -/
def timeOf (v : Value) : Verdict :=
  match v with
  | .time _ => .exact v
  | v => match octets? v, secondCount? v with
    | some Option.none, _ => .refused .stringUnicode
    | some (some bs), _ => ofReading .timeParsing .time (TimeOfDay.read bs)
    | Option.none, some n => ofReading .timeParsing .time (timeOfCount n)
    | Option.none, Option.none => .refused .timeType

def time (limits : Limits) (v : Value) : Verdict := limited limits (timeOf v)

/-- A length of time, without regard to limits.  A truth value is a number of seconds, too. -/
def durationOf (v : Value) : Verdict :=
  match v with
  | .duration _ => .exact v
  | .bool b => ofReading .durationParsing .duration (durationOfCount (.whole (if b then 1 else 0)))
  | v => match octets? v, secondCount? v with
    | some Option.none, _ => .refused .stringUnicode
    | some (some bs), _ => ofReading .durationParsing .duration (Duration.read bs)
    | Option.none, some n => ofReading .durationParsing .duration (durationOfCount n)
    | Option.none, Option.none => .refused .durationType

def duration (limits : Limits) (v : Value) : Verdict := limited limits (durationOf v)

end GuardedTools.Check
