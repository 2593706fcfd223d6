import GuardedTools.Text.Quoted
import GuardedTools.Value

/-!
# Values in messages

`Value.shown` is a value as messages quote it, with texts in quotes and collections in brackets;
`Value.plain` is the same except that a text stands for itself.
-/

namespace GuardedTools

/-- A byte inside quotes. -/
def quoteByte (quote : Char) (b : UInt8) : List CodePoint :=
  if b.toNat = quote.toNat || b = 92 then [.scalar '\\', .ofNat b.toNat]
  else if b = 10 then [.scalar '\\', .scalar 'n']
  else if b = 13 then [.scalar '\\', .scalar 'r']
  else if b = 9 then [.scalar '\\', .scalar 't']
  else if 32 ≤ b && b < 127 then [.ofNat b.toNat]
  else .scalar '\\' :: .scalar 'x' :: (Text.hex 2 b.toNat).points

/-- Bytes in quotes after a letter `b`. -/
def quoteBytes (bs : List UInt8) : Text :=
  let q : Char := if bs.contains 39 && !bs.contains 34 then '"' else '\''
  ⟨.scalar 'b' :: .scalar q :: (bs.flatMap (quoteByte q) ++ [.scalar q])⟩

namespace Value

/-- The parts of a time of day as arguments: seconds and fraction only if they are not zero. -/
def clockArguments (t : TimeOfDay) : List Text :=
  let micro := if t.microsecond = 0 then [] else [Text.ofNat t.microsecond]
  let second := if t.second = 0 && micro.isEmpty then [] else [Text.ofNat t.second]
  [Text.ofNat t.hour, Text.ofNat t.minute] ++ second ++ micro

/-- A duration as days, seconds and microseconds, of which only the days can be negative. -/
def shownDuration (d : Duration) : Text :=
  let perDay : Int := 86400000000
  let rest := (d.microseconds.fmod perDay).toNat
  let part (name : String) (n : Int) : List Text :=
    if n = 0 then [] else [Text.ofString name ++ "=" ++ Text.ofInt n]
  let parts := part "days" (d.microseconds.fdiv perDay) ++ part "seconds" (rest / 1000000 : Nat)
    ++ part "microseconds" (rest % 1000000 : Nat)
  let inside := if parts.isEmpty then Text.ofString "0" else Text.intercalate ", " parts
  "datetime.timedelta(" ++ inside ++ ")"

/-- The zone of a time of day as an argument. -/
def zoneArguments (t : TimeOfDay) : List Text :=
  match t.offset with
  | none => []
  | some 0 => ["tzinfo=datetime.timezone.utc"]
  | some o => ["tzinfo=datetime.timezone(" ++ shownDuration { microseconds := o * 1000000 } ++ ")"]

mutual

/-- A value as messages quote it. -/
def shown : Value → Text
  | null => "None"
  | bool b => if b then "True" else "False"
  | int n => Text.ofInt n
  | float x => x.toText
  | text t => t.quoted
  | bytes bs => quoteBytes bs
  | list xs => "[" ++ shownItems xs ++ "]"
  | tuple [x] => "(" ++ shown x ++ ",)"
  | tuple xs => "(" ++ shownItems xs ++ ")"
  | set true [] => "frozenset()"
  | set true xs => "frozenset(\x7b" ++ shownItems xs ++ "\x7d)"
  | set false [] => "set()"
  | set false xs => "\x7b" ++ shownItems xs ++ "\x7d"
  | dict es => "\x7b" ++ shownEntries es ++ "\x7d"
  | ellipsis => "Ellipsis"
  | object c => "<" ++ c ++ ">"
  | member c m v _ => "<" ++ c ++ "." ++ m ++ ": " ++ shown v ++ ">"
  | record _ c fs es =>
    c ++ "(" ++ shownFields fs ++ (if fs.isEmpty || es.isEmpty then Text.empty else ", ")
      ++ shownFields es ++ ")"
  | date d =>
    "datetime.date(" ++ Text.intercalate ", " [Text.ofNat d.year, Text.ofNat d.month,
      Text.ofNat d.day] ++ ")"
  | time t =>
    "datetime.time(" ++ Text.intercalate ", " (clockArguments t ++ zoneArguments t) ++ ")"
  | dateTime d t =>
    "datetime.datetime(" ++ Text.intercalate ", " ([Text.ofNat d.year, Text.ofNat d.month,
      Text.ofNat d.day] ++ clockArguments t ++ zoneArguments t) ++ ")"
  | duration d => shownDuration d
  | decimal d => "Decimal(" ++ d.toText.quoted ++ ")"
  | uuid t => "UUID(" ++ t.quoted ++ ")"
  | complex re im => "(" ++ re.toText ++ "+" ++ im.toText ++ "j)"

def shownItems : List Value → Text
  | [] => ""
  | [x] => shown x
  | x :: xs => shown x ++ ", " ++ shownItems xs

def shownEntries : List (Value × Value) → Text
  | [] => ""
  | [(k, x)] => shown k ++ ": " ++ shown x
  | (k, x) :: es => shown k ++ ": " ++ shown x ++ ", " ++ shownEntries es

def shownFields : List (Text × Value) → Text
  | [] => ""
  | [(k, x)] => k ++ "=" ++ shown x
  | (k, x) :: fs => k ++ "=" ++ shown x ++ ", " ++ shownFields fs

end

/-- A value as it stands in running text. -/
def plain : Value → Text
  | text t => t
  | member c m _ _ => c ++ "." ++ m
  | record .model _ fs es => Text.intercalate " " ((fs ++ es).map fun f => f.1 ++ "=" ++ f.2.shown)
  | date d => d.toText
  | time t => t.toText
  | dateTime d t => d.toText ++ " " ++ t.toText
  | duration d => d.toText
  | decimal d => d.toText
  | uuid t => t
  | v => v.shown

end Value

end GuardedTools
