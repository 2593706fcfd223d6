import GuardedTools.Binary64.Shortest
import GuardedTools.Calendar.Reader
import GuardedTools.Check.Numeral
import GuardedTools.Check.Verdict
import GuardedTools.Shape
import GuardedTools.Text.Utf8

/-!
# Checking scalars

What each scalar shape accepts: values of its own kind, and those that are converted to it.  Truth
values, numbers and texts are converted into each other where nothing is lost; texts are numerals
or truth words then.
-/

namespace GuardedTools

namespace Check

/-- A length of time in words: its days, hours, minutes, seconds and microseconds. -/
def durationWords (d : Duration) : Text :=
  let perDay : Int := 86400000000
  let rest := (d.microseconds.fmod perDay).toNat
  let part (n : Int) (unit : String) : List Text :=
    if n = 0 then []
    else [Text.ofInt n ++ " " ++ Text.ofString unit ++ (if n = 1 then Text.empty else "s")]
  let parts := part (d.microseconds.fdiv perDay) "day"
    ++ part (rest / 3600000000 : Nat) "hour" ++ part (rest / 60000000 % 60 : Nat) "minute"
    ++ part (rest / 1000000 % 60 : Nat) "second" ++ part (rest % 1000000 : Nat) "microsecond"
  if parts.isEmpty then Text.ofString "0 seconds" else Text.intercalate " and " parts

/-- A limit as a message tells it. -/
def limitText : Value → Text
  | .bool b => if b then "1" else "0"
  | .float x => x.fullText
  | .time t => t.isoText
  | .dateTime d t => d.toText ++ "T" ++ t.isoText
  | .duration d => durationWords d
  | v => v.plain

/-- The place of a moment on the line of time, or on the clock where an offset is not known. -/
def instant (known : Bool) (d : Date) (t : TimeOfDay) : Int :=
  let seconds := if known then t.utcSeconds else t.seconds
  (d.toDays * 86400 + seconds) * 1000000 + t.microsecond

/-- A day to which times of day belong that are compared. -/
def someDay : Date := { year := 1970, month := 1, day := 1 }

/-- The order of two values of one kind, if they have one. -/
def compareLike : Value → Value → Option Ordering
  | .int a, .int b => some (Ord.compare a b)
  | .float a, .float b => a.compare? b
  | .decimal a, .decimal b => a.compare? b
  | .date a, .date b => some (Ord.compare a.toDays b.toDays)
  | .time a, .time b =>
    let known := a.offset.isSome && b.offset.isSome
    some (Ord.compare (instant known someDay a) (instant known someDay b))
  | .dateTime d a, .dateTime e b =>
    let known := a.offset.isSome && b.offset.isSome
    some (Ord.compare (instant known d a) (instant known e b))
  | .duration a, .duration b => some (Ord.compare a.microseconds b.microseconds)
  | _, _ => none

/-- Whether the remainder of a number by another one is zero, which it may miss by a billionth of
the number. -/
def isNearMultiple (x of : Binary64) : Bool :=
  match x.ratio?, of.ratio? with
  | some (_, n, d), some (_, n', d') =>
    let a := n * d'
    let b := n' * d
    if b = 0 then true
    else
      let r := a % b
      r * 1000000000 ≤ a || (b - r) * 1000000000 ≤ a
  | _, _ => true

/-- Whether a number is a multiple of another one of its kind; values that are no numbers are not
asked. -/
def isMultiple : Value → Value → Bool
  | .int n, .int m => m != 0 && n.fmod m = 0
  | .float x, .float y => isNearMultiple x y
  | .decimal a, .decimal b => a.isMultipleOf b
  | _, _ => true

/-- Whether a value that has no order to a limit breaks it: a decimal that is not a number does. -/
def breaksUnordered : Value → Bool
  | .decimal _ => true
  | _ => false

/-- The first limit that a value breaks. -/
def brokenLimit (limits : Limits) (v : Value) : Option Problem :=
  let broken (limit : Option Limit) (problem : Text → Problem) (wrong : Ordering → Bool) :=
    match limit with
    | some l =>
      if ((compareLike v l.value).map wrong).getD (breaksUnordered v) then
        some (problem (limitText l.value))
      else none
    | none => none
  let multiple := match limits.multipleOf with
    | some l =>
      if isMultiple v l.value then none else some (Problem.multipleOf (limitText l.value))
    | none => none
  multiple
    <|> broken limits.atMost .atMost (· == .gt)
    <|> broken limits.below .below (· != .lt)
    <|> broken limits.atLeast .atLeast (· == .lt)
    <|> broken limits.above .above (· != .gt)

/-- The verdict on a value, with its limits. -/
def limited (limits : Limits) (v : Verdict) : Verdict :=
  match v with
  | .error issues => .error issues
  | .ok a => match brokenLimit limits a.value with
    | some p => .refused p
    | none => .ok a

/-- The verdict on a value that is read if it is a text, or bytes that are one in UTF-8. -/
def worded (read : Text → Verdict) (unreadable otherwise : Problem) (v : Value) : Verdict :=
  match v.bare with
  | .text t => if t.isScalar then read t else .refused .stringUnicode
  | .bytes bs => match Utf8.decode bs with
    | .ok t => read t
    | .error _ => .refused unreadable
  | _ => .refused otherwise

/-- Floating-point numbers from here on are too large to be taken as integers. -/
def integerBound : Nat := Nat.pow 2 63

/-- The integer that a floating-point number is taken as. -/
def integerOfFloat (x : Binary64) : Verdict :=
  if !x.isFinite then .refused .finiteNumber
  else match x.toInt? with
    | some n => if n.natAbs < integerBound then .converted (.int n) else .refused .intParsingSize
    | none => .refused .intFromFloat

/-- The integer that a decimal is taken as. -/
def integerOfDecimal (d : Decimal) : Verdict :=
  match d.ratio? with
  | none => .refused .finiteNumber
  | some (negative, n, den) =>
    if n % den = 0 then
      .converted (.int (if negative then -((n / den : Nat) : Int) else (n / den : Nat)))
    else .refused .intFromFloat

/-- The integer that a text is taken as. -/
def integerOfText (t : Text) : Verdict :=
  match Numeral.integer? t with
  | .integer n => .converted (.int n)
  | .tooLong => .refused .intParsingSize
  | .none => .refused .intParsing

/-- An integer.  A member of an enumeration that has no kind of its own stands for its value,
whatever that is. -/
def int (limits : Limits) (v : Value) : Verdict :=
  limited limits <| match v with
  | .int _ => .exact v
  | .bool b => .converted (.int (if b then 1 else 0))
  | .float x => integerOfFloat x
  | .decimal d => integerOfDecimal d
  | .member _ _ (.int n) .integer => .related (.int n)
  | .member _ _ w .plain => .converted w
  | v => worded integerOfText .intParsing .intType v

/-- A number, which must be finite where the shape says so. -/
def finiteFloat (finite : Bool) (v : Verdict) : Verdict :=
  if finite then
    v.require .finiteNumber fun
      | .float x => x.isFinite
      | _ => true
  else v

/-- The number that an integer is taken as. -/
def floatOfInt (n : Int) : Verdict :=
  let x := Binary64.ofInt n
  if x.isFinite then .related (.float x) else .refused .floatType

/-- The number that a text is taken as. -/
def floatOfText (t : Text) : Verdict :=
  match Numeral.real? t with
  | some x => .converted (.float x)
  | none => .refused .floatParsing

def float (finite : Bool) (limits : Limits) (v : Value) : Verdict :=
  limited limits <| finiteFloat finite <| match v.bare with
  | .float x => .exact (.float x)
  | .int n => floatOfInt n
  | .bool b => .converted (.float (.ofInt (if b then 1 else 0)))
  | .decimal d => .related (.float d.toBinary64)
  | v => worded floatOfText .floatParsing .floatType v

/-- Words for the two truth values. -/
def trueWords : List Text := ["1", "t", "y", "on", "yes", "true"]

def falseWords : List Text := ["0", "f", "n", "no", "off", "false"]

/-- The truth value of a word; letters of either case are alike. -/
def truthOf (t : Text) : Verdict :=
  let word := t.asciiLower
  if trueWords.contains word then .converted (.bool true)
  else if falseWords.contains word then .converted (.bool false)
  else .refused .boolParsing

/-- The truth value of an integer. -/
def truthOfInt (n : Int) : Verdict :=
  if n = 1 then .converted (.bool true)
  else if n = 0 then .converted (.bool false)
  else .refused .boolParsing

/-- The truth value of a number that is an integer and not too large to be taken as one. -/
def truthOfFloat (x : Binary64) : Verdict :=
  match x.toInt? with
  | some n => if n.natAbs < integerBound then truthOfInt n else .refused .boolType
  | none => .refused .boolType

def bool (v : Value) : Verdict :=
  match v.bare with
  | .bool _ => .exact v
  | .int n => if Calendar.isInteger64 n then truthOfInt n else .refused .boolType
  | .float x => truthOfFloat x
  | .decimal d => truthOfFloat d.toBinary64
  | v => worded truthOf .boolParsing .boolType v

/-- The verdict on a text of limited length and form. -/
def limitedText (length : LengthLimits) (form : Option (Text × (Text → Bool))) (t : Text)
    (v : Verdict) : Verdict :=
  match length.max, length.min with
  | some most, _ =>
    if most < t.length then .refused (.stringTooLong most)
    else rest length.min
  | none, least => rest least
where
  /-- The lower limit and the form. -/
  rest (least : Option Nat) : Verdict :=
    match least with
    | some n => if t.length < n then .refused (.stringTooShort n) else formed
    | none => formed
  formed : Verdict :=
    match form with
    | some (pattern, matched) => if matched t then v else .refused (.stringPattern pattern)
    | none => v

/-- The verdict on a text as it is.  Only one with limits must be a text of Unicode. -/
def textVerdict (length : LengthLimits) (form : Option (Text × (Text → Bool))) (t : Text)
    (v : Verdict) : Verdict :=
  if t.isScalar || (length.isFree && form.isNone) then limitedText length form t v
  else .refused .stringUnicode

def str (length : LengthLimits) (form : Option (Text × (Text → Bool))) (v : Value) : Verdict :=
  match v with
  | .text t => textVerdict length form t (.exact v)
  | .bytes bs => match Utf8.decode bs with
    | .ok t => limitedText length form t (.converted (.text t))
    | .error _ => .refused .stringUnicode
  | .member _ _ (.text t) .text => textVerdict length form t (.related (.text t))
  | .member _ _ w _ => textVerdict length form w.plain (.converted (.text w.plain))
  | _ => .refused .stringType

/-- The verdict on bytes of limited length. -/
def limitedBytes (length : LengthLimits) (bs : List UInt8) (v : Verdict) : Verdict :=
  match length.max with
  | some most => if most < bs.length then .refused (.bytesTooLong most) else atLeast
  | none => atLeast
where
  atLeast : Verdict :=
    match length.min with
    | some least => if bs.length < least then .refused (.bytesTooShort least) else v
    | none => v

/-- The bytes of a text in UTF-8, as converted ones. -/
def bytesOfText (length : LengthLimits) (t : Text) : Verdict :=
  match Utf8.encode t with
  | some bs => limitedBytes length bs (.converted (.bytes bs))
  | Option.none => .refused .stringUnicode

def bytes (length : LengthLimits) (v : Value) : Verdict :=
  match v.bare with
  | .bytes bs => limitedBytes length bs (.exact v)
  | .text t => bytesOfText length t
  | _ => .refused .bytesType

/-- Whether a count of digits breaks a limit as it is written and without its last zeros. -/
def exceeds (most : Option Nat) (count least : Nat) : Option Nat :=
  match most with
  | some n => if n < count && n < least then some n else Option.none
  | Option.none => Option.none

/-- The first limit on its digits that a finite decimal breaks. -/
def brokenDigits (digits : DigitLimits) (d : Decimal) : Option Problem :=
  let (places, total) := d.digitCounts
  let (leastPlaces, leastTotal) := d.normalized.digitCounts
  let whole := match digits.total, digits.places with
    | some t, some p => exceeds (some (t - p)) (total - places) (leastTotal - leastPlaces)
    | _, _ => Option.none
  (exceeds digits.total total leastTotal).map Problem.decimalMaxDigits
    <|> (exceeds digits.places places leastPlaces).map Problem.decimalMaxPlaces
    <|> whole.map Problem.decimalWholeDigits

/-- The verdict on a decimal with its digits; one with limits on them must be finite. -/
def digitVerdict (finite : Bool) (digits : DigitLimits) (d : Decimal) (v : Verdict) : Verdict :=
  let isCounted := digits.total.isSome || digits.places.isSome
  match d with
  | .finite _ _ _ => match if isCounted then brokenDigits digits d else Option.none with
    | some p => .refused p
    | Option.none => v
  | _ => if finite || isCounted then .refused .finiteNumber else v

/-- A decimal that a value was converted to, if it was. -/
def convertedDecimal (finite : Bool) (digits : DigitLimits) (d : Option Decimal) : Verdict :=
  match d with
  | some d => digitVerdict finite digits d (.converted (.decimal d))
  | Option.none => .refused .decimalParsing

def decimal (finite : Bool) (digits : DigitLimits) (limits : Limits) (v : Value) : Verdict :=
  limited limits <| match v.bare with
  | .decimal d => digitVerdict finite digits d (.exact v)
  | .int n => convertedDecimal finite digits (some (.ofInt n))
  | .float x => convertedDecimal finite digits (Decimal.ofText? x.toText)
  | .text t => convertedDecimal finite digits (Decimal.ofText? t)
  | _ => .refused .decimalType

/-- The lengths of the groups of hexadecimal digits in an identifier with hyphens. -/
def uuidGroups : List Nat := [8, 4, 4, 4, 12]

/-- The digits of an identifier without what may stand around them, the number of code points
before them, and whether nothing stood around them. -/
def uuidCore (t : Text) : Text × Nat × Bool :=
  let inner := (t.drop 1).take (t.length - 2)
  if t.startsWith "\x7b" && t.endsWith "\x7d" && 2 ≤ t.length then (inner, 1, false)
  else if t.startsWith "urn:uuid:" then (t.drop 9, 9, false)
  else (t, 0, true)

/-- The digits of an identifier: plain, or in groups with hyphens, which may stand in braces or
after a prefix. -/
def uuidDigits? (t : Text) : Option (List CodePoint) :=
  let isHex (p : CodePoint) : Bool := p.hexValue?.isSome
  let (body, _, bare) := uuidCore t
  let groups := body.splitOn '-'
  if groups.map Text.length = uuidGroups && groups.all (·.points.all isHex) then
    some (groups.flatMap (·.points))
  else if bare && body.length = 32 && body.points.all isHex then some body.points
  else Option.none

/-- Why a text is no identifier.  Characters are counted from the beginning of the digits, a brace
before them being one of them. -/
def uuidFault (t : Text) : Text :=
  let (body, offset, bare) := uuidCore t
  let strange := (body.points.zipIdx).find? fun (p, _) => !(p.is '-' || p.hexValue?.isSome)
  match strange with
  | some (p, i) =>
    "invalid character: found \x60" ++ ⟨[p]⟩ ++ "\x60 at " ++ Text.ofNat (i + offset)
  | Option.none =>
    let groups := body.splitOn '-'
    let lengths := groups.map Text.length
    let counted := lengths.take 4 ++ (lengths.drop 4).map fun _ => t.length - 24
    if groups.length = 1 && bare then "invalid length: found " ++ Text.ofNat t.length
    else if groups.length != 5 then
      "invalid group count: expected 5, found " ++ Text.ofNat groups.length
    else
      match ((lengths.zip counted).zip uuidGroups).zipIdx.find? fun ((n, m), _) => n.1 != m with
      | some ((n, m), i) =>
        "invalid group length in group " ++ Text.ofNat i ++ ": expected " ++ Text.ofNat m
          ++ ", found " ++ Text.ofNat n.2
      | Option.none => ""

/-- The text of an identifier from its digits. -/
def uuidText (digits : List CodePoint) : Text :=
  let small := digits.map CodePoint.asciiLower
  let cut (start length : Nat) : Text := ⟨(small.drop start).take length⟩
  Text.intercalate "-" [cut 0 8, cut 8 4, cut 12 4, cut 16 4, cut 20 12]

def uuid (v : Value) : Verdict :=
  match v with
  | .uuid _ => .exact v
  | .text t =>
    if !t.isScalar then .refused .stringUnicode
    else match uuidDigits? t with
      | some ds => .converted (.uuid (uuidText ds))
      | Option.none => .refused (.uuidParsing (uuidFault t))
  | .bytes bs => match (Utf8.decode bs).toOption.bind uuidDigits? with
    | some ds => .converted (.uuid (uuidText ds))
    | Option.none =>
      if bs.length = 16 then
        .converted (.uuid (uuidText (bs.flatMap fun b => (Text.hex 2 b.toNat).points)))
      else .refused (.uuidParsing
        ("invalid length: expected 16 bytes, found " ++ Text.ofNat bs.length))
  | _ => .refused .uuidType

/-- The parts of a complex number that a text writes: a real number, an imaginary one with a final
`j`, or the sum of both. -/
def complexOf? (t : Text) : Option (Binary64 × Binary64) :=
  let body := t.trim
  let body := match body.points with
    | p :: rest =>
      if p.is '(' then (match rest.reverse with
        | q :: inner => if q.is ')' then (⟨inner.reverse⟩ : Text).trim else body
        | [] => body)
      else body
    | [] => body
  match body.points.reverse with
  | [] => none
  | last :: others =>
    if last.is 'j' || last.is 'J' then
      let ps := others.reverse
      let starts := (List.range ps.length).reverse.filter fun i =>
        match ps[i]? with
        | some p => (p.is '+' || p.is '-') && !(match ps[i - 1]? with
          | some q => i != 0 && (q.is 'e' || q.is 'E')
          | none => false)
        | none => false
      let imaginary (ps : List CodePoint) : Option Binary64 :=
        match ps with
        | [] => some (.ofInt 1)
        | [p] => if p.is '+' then some (.ofInt 1) else if p.is '-' then some (.ofInt (-1))
          else Numeral.real? ⟨ps⟩
        | ps => Numeral.real? ⟨ps⟩
      match starts with
      | i :: _ =>
        if i = 0 then (imaginary ps).map fun y => (.zero, y)
        else match Numeral.real? ⟨ps.take i⟩, imaginary (ps.drop i) with
          | some x, some y => some (x, y)
          | _, _ => none
      | [] => (imaginary ps).map fun y => (.zero, y)
    else (Numeral.real? body).map fun x => (x, .zero)

def complex (v : Value) : Verdict :=
  match v.bare with
  | .complex _ _ => .exact v
  | .int n =>
    let x := Binary64.ofInt n
    if x.isFinite then .converted (.complex x .zero) else .refused .complexType
  | .float x => .converted (.complex x .zero)
  | .bool b => .converted (.complex (.ofInt (if b then 1 else 0)) .zero)
  | .decimal d => .converted (.complex d.toBinary64 .zero)
  | .text t => match complexOf? t with
    | some (x, y) => .converted (.complex x y)
    | none => .refused .complexParsing
  | _ => .refused .complexType

def none (v : Value) : Verdict :=
  match v with
  | .null => .exact v
  | _ => .refused .noneRequired

/-- Whether a value can be called, as far as can be told. -/
def callable (_ : Value) : Verdict := .refused .callableType

/-- The values that are allowed, as a message lists them. -/
def listed (vs : List Value) : Text :=
  let shown := vs.map Value.shown
  match shown.reverse with
  | [] => ""
  | [t] => t
  | last :: others => Text.intercalate ", " others.reverse ++ " or " ++ last

/-- Whether a value is a truth value. -/
def isTruth : Value → Bool
  | .bool _ => true
  | _ => false

/-- Whether a value is a text that stands for itself. -/
def isWord : Value → Bool
  | .text _ => true
  | _ => false

/-- Whether a value is a text that is none of Unicode, where texts are asked for. -/
def isForeignText (expected : List Value) (v : Value) : Bool :=
  match v with
  | .text t => !t.isScalar && expected.any isWord
  | _ => false

/-- The one of the allowed values that a value is: one of its own kind, or else an equal one, where
truth values are equal to nothing else. -/
def allowed? (values : List Value) (v : Value) : Option Value :=
  values.find? (TypeExpr.sameValue v)
    <|> (if isTruth v then Option.none else values.find? fun w => !isTruth w && v.same w)

/-- Whether a value is one of the allowed ones. -/
def literal (values : List Value) (v : Value) : Verdict :=
  match allowed? values v with
  | some w => .exact w
  | Option.none =>
    .refused (if isForeignText values v then .stringUnicode else .literalValue (listed values))

/-- Refuses a value where an instance of a class is asked for. -/
def instances (className : Text) (_ : Value) : Verdict := .refused (.notInstance className)

/-- The member of an enumeration that a value stands for: a member itself, or the one with its
value or with what it converts to. -/
def enum (name : Text) (members : List (Text × Value)) (base : EnumBase) (v : Value) : Verdict :=
  match v with
  | .member c _ _ _ => if c = name then .exact v else byValue
  | _ => byValue
where
  refusal : Verdict :=
    .refused (if members.isEmpty then .notInstance name
      else if isForeignText (members.map (·.2)) v then .stringUnicode
      else .enumValue (listed (members.map (·.2))))
  /-- The member with a value. -/
  found (w : Value) : Option Value :=
    (members.find? (fun m => TypeExpr.sameValue w m.2) <|> members.find? fun m => m.2.same w).map
      fun m => .member name m.1 m.2 base
  /-- The value as the base of the enumeration has it. -/
  adapted : Value :=
    let verdict := match base with
      | .plain => Verdict.exact v
      | .text => str {} Option.none v
      | .integer => int {} v
    match verdict with
    | .ok a => a.value
    | .error _ => v
  byValue : Verdict := ((found adapted <|> found v).map Verdict.converted).getD refusal

end Check

end GuardedTools
