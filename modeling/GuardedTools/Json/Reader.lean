import GuardedTools.Json

/-!
# Reading JSON text

`Json.read` reads a whole text as one JSON value.  Beside the numbers of JSON it knows `NaN`,
`Infinity` and `-Infinity`; of members with one key the last one counts, at the place of the first.
A text that is not JSON is refused with the place where it stops being JSON (`Fault`); a number of
too many digits and a value nested too deeply are refused as such (`ReadLimits`).

Every reading function returns what is left of the text; places are counted from the end until the
whole text is known again.
-/

namespace GuardedTools.Json

/-- What is wrong with a text that is not JSON. -/
inductive Fault where
  | expectingValue
  | expectingName
  | expectingColon
  | expectingComma
  | extraData
  | badEscape
  | badUnicodeEscape
  | controlCharacter
  | unterminatedString
  | byteOrderMark
deriving DecidableEq, Repr

/-- A fault in words. -/
def Fault.message : Fault → Text
  | .expectingValue => "Expecting value"
  | .expectingName => "Expecting property name enclosed in double quotes"
  | .expectingColon => "Expecting ':' delimiter"
  | .expectingComma => "Expecting ',' delimiter"
  | .extraData => "Extra data"
  | .badEscape => "Invalid \\escape"
  | .badUnicodeEscape => "Invalid \\uXXXX escape"
  | .controlCharacter => "Invalid control character at"
  | .unterminatedString => "Unterminated string starting at"
  | .byteOrderMark => "Unexpected UTF-8 BOM (decode using utf-8-sig)"

/-- Why a text was not read. -/
inductive ReadError where
  /-- The text stops being JSON at a position. -/
  | malformed (fault : Fault) (position : Nat)
  /-- An integer has more digits than are read. -/
  | tooManyDigits (count : Nat)
  /-- Arrays and objects are nested more deeply than is read. -/
  | tooDeep
deriving DecidableEq, Repr

/-- What is read: the number of digits of an integer and the depth of nesting. -/
structure ReadLimits where
  digits : Nat
  depth : Nat

/-- The limits on texts from callers. -/
def ReadLimits.standard : ReadLimits := { digits := 4300, depth := 990 }

/-- The blanks of JSON. -/
def isBlank (p : CodePoint) : Bool :=
  p.is ' ' || p.is '\t' || p.is '\n' || p.is '\r'

/-- What is left after blanks. -/
def skipBlanks (ps : List CodePoint) : List CodePoint := ps.dropWhile isBlank

/-- Refuses a text for a fault at the head of what is left of it. -/
def refuse {α : Type} (fault : Fault) (left : List CodePoint) : Except ReadError α :=
  .error (.malformed fault left.length)

/-- The character that a one-letter escape stands for. -/
def simpleEscape? (p : CodePoint) : Option CodePoint :=
  if p.is '"' || p.is '\\' || p.is '/' then some p
  else if p.is 'b' then some (.ofNat 8)
  else if p.is 'f' then some (.ofNat 12)
  else if p.is 'n' then some (.ofNat 10)
  else if p.is 'r' then some (.ofNat 13)
  else if p.is 't' then some (.ofNat 9)
  else none

/-- The number that four hexadecimal digits write. -/
def hexQuad? (a b c d : CodePoint) : Option Nat := do
  return (((← a.hexValue?) * 16 + (← b.hexValue?)) * 16 + (← c.hexValue?)) * 16 + (← d.hexValue?)

/-- The code point that two halves of a surrogate pair stand for. -/
def joinPair? (high low : Nat) : Option CodePoint :=
  if 0xD800 ≤ high ∧ high < 0xDC00 ∧ 0xDC00 ≤ low ∧ low < 0xE000 then
    some (.ofNat (0x10000 + (high - 0xD800) * 1024 + (low - 0xDC00)))
  else none

/-- The rest of a string after its opening quote, and what is left after its closing one.  An
unterminated string is refused at its opening quote, which `opening` code points follow. -/
def readString (opening : Nat) :
    List CodePoint → Except ReadError (List CodePoint × List CodePoint)
  | [] => .error (.malformed .unterminatedString opening)
  | p :: rest =>
    if p.is '"' then .ok ([], rest)
    else if p.toNat < 32 then refuse .controlCharacter (p :: rest)
    else if p.is '\\' then
      match rest with
      | [] => .error (.malformed .unterminatedString opening)
      | e :: rest =>
        if e.is 'u' then
          match rest with
          | a :: b :: c :: d :: rest' =>
            match hexQuad? a b c d, rest' with
            | none, _ => refuse .badUnicodeEscape (e :: rest)
            | some _, [] => refuse .badUnicodeEscape (e :: rest)
            | some n, f :: g :: h :: i :: j :: k :: rest'' =>
              match
                (if f.is '\\' && g.is 'u' then (hexQuad? h i j k).bind (joinPair? n) else none)
              with
              | some joined => do
                let (ps, left) ← readString opening rest''
                return (joined :: ps, left)
              | none => do
                let (ps, left) ← readString opening (f :: g :: h :: i :: j :: k :: rest'')
                return (.ofNat n :: ps, left)
            | some n, rest' => do
              let (ps, left) ← readString opening rest'
              return (.ofNat n :: ps, left)
          | _ => refuse .badUnicodeEscape (e :: rest)
        else match simpleEscape? e with
          | some q => do
            let (ps, left) ← readString opening rest
            return (q :: ps, left)
          | none => refuse .badEscape (p :: e :: rest)
    else do
      let (ps, left) ← readString opening rest
      return (p :: ps, left)
termination_by ps => ps.length
decreasing_by all_goals simp_all <;> omega

/-- Digits at the head of a text, and what is left. -/
def takeDigits (ps : List CodePoint) : List CodePoint × List CodePoint :=
  (ps.takeWhile CodePoint.isDigit, ps.dropWhile CodePoint.isDigit)

/-- The digits after a point, and what is left; none unless a digit follows the point. -/
def takeFraction (ps : List CodePoint) : Option (List CodePoint × List CodePoint) :=
  match ps with
  | p :: rest =>
    if p.is '.' then
      match takeDigits rest with
      | ([], _) => none
      | found => some found
    else none
  | [] => none

/-- A sign, true for a minus, and what is left; no sign is a plus. -/
def takeSign (ps : List CodePoint) : Bool × List CodePoint :=
  match ps with
  | s :: rest => if s.is '-' then (true, rest) else if s.is '+' then (false, rest) else (false, ps)
  | [] => (false, [])

/-- The exponent of a number, and what is left; none unless a digit stands in it. -/
def takeExponent (ps : List CodePoint) : Option (Int × List CodePoint) :=
  match ps with
  | p :: rest =>
    if p.is 'e' || p.is 'E' then
      let (negative, rest) := takeSign rest
      match takeDigits rest with
      | ([], _) => none
      | (ds, left) =>
        let n : Int := Text.digitsToNat ds
        some (if negative then -n else n, left)
    else none
  | [] => none

/-- The digits before the point of a number, and what is left; none unless a digit stands there. -/
def takeWhole (ps : List CodePoint) : Option (List CodePoint × List CodePoint) :=
  match ps with
  | p :: rest =>
    if p.is '0' then some ([p], rest)
    else if p.isDigit then some (takeDigits ps)
    else none
  | [] => none

/-- A part that may be missing, and what is left. -/
def takeOptional {α : Type} (take : List CodePoint → Option (α × List CodePoint))
    (ps : List CodePoint) : Option α × List CodePoint :=
  match take ps with
  | some (x, left) => (some x, left)
  | none => (none, ps)

/-- The number of a sign and digits, which is an integer unless it has a fraction or an exponent. -/
def numberOf (limits : ReadLimits) (negative : Bool) (whole : List CodePoint)
    (fraction : Option (List CodePoint)) (exponent : Option Int) : Except ReadError Json :=
  match fraction, exponent with
  | none, none =>
    if limits.digits < whole.length then .error (.tooManyDigits whole.length)
    else
      let n : Int := Text.digitsToNat whole
      .ok (int (if negative then -n else n))
  | _, _ =>
    let fs := fraction.getD []
    .ok (float (Binary64.ofDecimal negative (Text.digitsToNat (whole ++ fs))
      (exponent.getD 0 - fs.length)))

/-- A number without its sign, and what is left; none unless a number stands there. -/
def readUnsigned (limits : ReadLimits) (negative : Bool) (ps : List CodePoint) :
    Option (Except ReadError (Json × List CodePoint)) :=
  match takeWhole ps with
  | none => none
  | some (whole, left) =>
    let (fraction, left) := takeOptional takeFraction left
    let (exponent, left) := takeOptional takeExponent left
    some ((numberOf limits negative whole fraction exponent).map fun j => (j, left))

/-- What is left after a word, if it stands at the head. -/
def takeWord (word : String) (ps : List CodePoint) : Option (List CodePoint) :=
  let w := (Text.ofString word).points
  if w.isPrefixOf ps then some (ps.drop w.length) else none

/-- A number or a word, and what is left. -/
def readScalar (limits : ReadLimits) (ps : List CodePoint) :
    Except ReadError (Json × List CodePoint) :=
  match takeWord "null" ps with
  | some left => .ok (null, left)
  | none => match takeWord "true" ps with
    | some left => .ok (bool true, left)
    | none => match takeWord "false" ps with
      | some left => .ok (bool false, left)
      | none => match takeWord "NaN" ps with
        | some left => .ok (float .nan, left)
        | none => match takeWord "Infinity" ps with
          | some left => .ok (float (.infinity false), left)
          | none => match takeWord "-Infinity" ps with
            | some left => .ok (float (.infinity true), left)
            | none =>
              let found := match ps with
                | p :: rest =>
                  if p.is '-' then readUnsigned limits true rest else readUnsigned limits false ps
                | [] => none
              match found with
              | some result => result
              | none => refuse .expectingValue ps

mutual

/-- A value at the head of a text, and what is left.  `depth` is how much more nesting is read. -/
def readValue (limits : ReadLimits) (depth : Nat) :
    Nat → List CodePoint → Except ReadError (Json × List CodePoint)
  | 0, _ => .error .tooDeep
  | fuel + 1, ps =>
    match ps with
    | p :: rest =>
      if p.is '"' then do
        let (t, left) ← readString ps.length rest
        return (text ⟨t⟩, left)
      else if p.is '[' then
        match depth with
        | 0 => .error .tooDeep
        | depth + 1 =>
          match skipBlanks rest with
          | [] => readItems limits depth fuel [] []
          | q :: left =>
            if q.is ']' then .ok (array [], left)
            else readItems limits depth fuel [] (q :: left)
      else if p.is '\x7b' then
        match depth with
        | 0 => .error .tooDeep
        | depth + 1 =>
          match skipBlanks rest with
          | [] => refuse .expectingName []
          | q :: left =>
            if q.is '\x7d' then .ok (object [], left)
            else readMembers limits depth fuel [] (q :: left)
      else readScalar limits ps
    | [] => refuse .expectingValue []

/-- The items of an array up to its closing bracket; those before are given in reverse. -/
def readItems (limits : ReadLimits) (depth : Nat) :
    Nat → List Json → List CodePoint → Except ReadError (Json × List CodePoint)
  | 0, _, _ => .error .tooDeep
  | fuel + 1, before, ps => do
    let (x, left) ← readValue limits depth fuel ps
    match skipBlanks left with
    | [] => refuse .expectingComma []
    | q :: left =>
      if q.is ']' then .ok (array (x :: before).reverse, left)
      else if q.is ',' then readItems limits depth fuel (x :: before) (skipBlanks left)
      else refuse .expectingComma (q :: left)

/-- The members of an object up to its closing brace, after those that were read before. -/
def readMembers (limits : ReadLimits) (depth : Nat) :
    Nat → List (Text × Json) → List CodePoint → Except ReadError (Json × List CodePoint)
  | 0, _, _ => .error .tooDeep
  | fuel + 1, before, ps =>
    match ps with
    | [] => refuse .expectingName []
    | p :: rest =>
      if p.is '"' then do
        let (key, left) ← readString ps.length rest
        match skipBlanks left with
        | [] => refuse .expectingColon []
        | q :: left =>
          if q.is ':' then do
            let (x, left) ← readValue limits depth fuel (skipBlanks left)
            let members := put ⟨key⟩ x before
            match skipBlanks left with
            | [] => refuse .expectingComma []
            | q :: left =>
              if q.is '\x7d' then .ok (object members, left)
              else if q.is ',' then readMembers limits depth fuel members (skipBlanks left)
              else refuse .expectingComma (q :: left)
          else refuse .expectingColon (q :: left)
      else refuse .expectingName ps

end

/-- A place counted from the end, counted from the start of a text. -/
def ReadError.fromStart (total : Nat) : ReadError → ReadError
  | .malformed fault left => .malformed fault (total - left)
  | e => e

/-- Reads a text as one JSON value, whatever it begins with. -/
def readBody (limits : ReadLimits) (t : Text) : Except ReadError Json :=
  let total := t.points.length
  match readValue limits limits.depth (2 * total + 2) (skipBlanks t.points) with
  | .error e => .error (e.fromStart total)
  | .ok (j, left) =>
    match skipBlanks left with
    | [] => .ok j
    | left => .error (.malformed .extraData (total - left.length))

/-- Reads a text as one JSON value; a byte order mark at its head is refused. -/
def read (limits : ReadLimits) (t : Text) : Except ReadError Json :=
  if t.points.head?.any (·.toNat = 0xFEFF) then .error (.malformed .byteOrderMark 0)
  else readBody limits t

/-- Line and column of a position, both counted from one. -/
def lineColumn (t : Text) (position : Nat) : Nat × Nat :=
  let before := t.points.take position
  let line := before.countP (·.is '\n') + 1
  let column := (before.reverse.takeWhile (!·.is '\n')).length + 1
  (line, column)

/-- An error in words, about the text that was read. -/
def ReadError.message (t : Text) : ReadError → Text
  | .malformed fault position =>
    let (line, column) := lineColumn t position
    fault.message ++ ": line " ++ Text.ofNat line ++ " column " ++ Text.ofNat column
      ++ " (char " ++ Text.ofNat position ++ ")"
  | .tooManyDigits count =>
    "Exceeds the limit (4300 digits) for integer string conversion: value has "
      ++ Text.ofNat count
      ++ " digits; use sys.set_int_max_str_digits() to increase the limit"
  | .tooDeep => ""

end GuardedTools.Json
