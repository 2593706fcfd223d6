import GuardedTools.Text.Quoted

/-!
# Cursors in YAML texts

A cursor is a place in a text, with its line and column.  Lines end in a line feed, a carriage
return, both, or one of three further separators; the byte order mark takes no column.
-/

namespace GuardedTools.Yaml

/-- Why a text has no value. -/
inductive Fault where
  /-- The text is no YAML, or not of the kinds that are accepted. -/
  | malformed
  /-- The text is nested too deeply. -/
  | tooDeep
  /-- An escape stands for a number that is no code point. -/
  | badCodePoint (isHuge : Bool)
  /-- A scalar that is said to be an integer does not write one in the base. -/
  | badInteger (base : Nat) (written : Text)
  /-- An integer has more digits than are read. -/
  | tooManyDigits (count : Nat)
  /-- A scalar that is said to be a number does not write one. -/
  | badReal (written : Text)
  /-- A scalar that is said to be a number is empty. -/
  | emptyNumber
  /-- A scalar that is said to be a truth value is no word for one. -/
  | badTruth (written : Text)
  /-- A scalar that is said to be a moment does not look like one. -/
  | badMoment
  /-- A date or a time is not of the calendar. -/
  | badCalendar (message : Text)
deriving DecidableEq, Inhabited, Repr

/-- A fault in words, apart from those in the text itself. -/
def Fault.message : Fault → Text
  | .malformed => "<yaml>"
  | .tooDeep => "maximum recursion depth exceeded"
  | .badCodePoint false => "chr() arg not in range(0x110000)"
  | .badCodePoint true => "Python int too large to convert to C int"
  | .badInteger base t =>
    "invalid literal for int() with base " ++ Text.ofNat base ++ ": " ++ t.quoted
  | .tooManyDigits n =>
    "Exceeds the limit (4300 digits) for integer string conversion: value has " ++ Text.ofNat n
      ++ " digits; use sys.set_int_max_str_digits() to increase the limit"
  | .badReal t => "could not convert string to float: " ++ t.quoted
  | .emptyNumber => "string index out of range"
  | .badTruth t => t.quoted
  | .badMoment => "'NoneType' object has no attribute 'groupdict'"
  | .badCalendar m => m

/-- The separators of lines. -/
def isBreak (p : CodePoint) : Bool :=
  p.is '\n' || p.is '\r' || p.is '\x85' || p.is '\u2028' || p.is '\u2029'

/-- The end of the text or of a line. -/
def endsLine : Option CodePoint → Bool
  | none => true
  | some p => isBreak p

/-- The end of a line, or a space. -/
def endsWord : Option CodePoint → Bool
  | none => true
  | some p => p.is ' ' || isBreak p

/-- The end of a line, a space or a tab. -/
def isGap : Option CodePoint → Bool
  | none => true
  | some p => p.is ' ' || p.is '\t' || isBreak p

/-- Whether a code point may be in a YAML text. -/
def isPrintable (p : CodePoint) : Bool :=
  p.is '\t' || p.is '\n' || p.is '\r' || p.between 0x20 0x7E || p.is '\x85'
    || p.between 0xA0 0xD7FF || p.between 0xE000 0xFFFD || p.between 0x10000 0x10FFFF

/-- One of some characters. -/
def isOneOf (chars : String) : Option CodePoint → Bool
  | none => false
  | some p => chars.toList.any (p.is ·)

/-- The letters, digits and marks that names are made of. -/
def isNamePoint (p : CodePoint) : Bool := p.isLetter || p.isDigit || p.is '-' || p.is '_'

/-- A place in a text: what is left of it, how many code points come before, and the line and the
column. -/
structure Cursor where
  rest : List CodePoint
  index : Nat := 0
  line : Nat := 0
  column : Nat := 0
deriving Inhabited, Repr

namespace Cursor

/-- The code point a number of places on. -/
def peekAt (c : Cursor) (n : Nat) : Option CodePoint := c.rest[n]?

/-- The next code point. -/
def peek (c : Cursor) : Option CodePoint := c.rest.head?

/-- Whether the next code point is a given character. -/
def sees (c : Cursor) (char : Char) : Bool := c.peek.any (·.is char)

/-- The place after the next code point. -/
def next (c : Cursor) : Cursor :=
  match c.rest with
  | [] => c
  | p :: rest =>
    let c := { c with rest, index := c.index + 1 }
    if isBreak p && !(p.is '\r' && rest.head?.any (·.is '\n')) then
      { c with line := c.line + 1, column := 0 }
    else if p.is '\uFEFF' then c
    else { c with column := c.column + 1 }

/-- The place a number of code points on. -/
def skip (c : Cursor) : Nat → Cursor
  | 0 => c
  | n + 1 => c.next.skip n

/-- The code points from here on while they are in a class, and the place after them. -/
def takeWhile (c : Cursor) (within : CodePoint → Bool) : List CodePoint × Cursor :=
  let taken := c.rest.takeWhile within
  (taken, c.skip taken.length)

/-- The place after code points of a class. -/
def skipWhile (c : Cursor) (within : CodePoint → Bool) : Cursor := (c.takeWhile within).2

def skipSpaces (c : Cursor) : Cursor := c.skipWhile (·.is ' ')

/-- The place at the end of the line. -/
def skipLine (c : Cursor) : Cursor := c.skipWhile (!isBreak ·)

/-- A separator of lines as it is kept in a value, if one is here, and the place after it. -/
def lineBreak? (c : Cursor) : Option (CodePoint × Cursor) :=
  match c.rest with
  | p :: q :: _ =>
    if p.is '\r' && q.is '\n' then some (.scalar '\n', c.skip 2) else single c p
  | [p] => single c p
  | [] => none
where
  single (c : Cursor) (p : CodePoint) : Option (CodePoint × Cursor) :=
    if p.is '\u2028' || p.is '\u2029' then some (p, c.next)
    else if isBreak p then some (.scalar '\n', c.next)
    else none

/-- The place after the line break, if one is here. -/
def skipBreak (c : Cursor) : Cursor := (c.lineBreak?.map (·.2)).getD c

/-- The place after the comment, if one is here. -/
def skipComment (c : Cursor) : Cursor := if c.sees '#' then c.skipLine else c

/-- Whether three characters that mark documents stand here on their own. -/
def seesMarker (c : Cursor) (marker : String) : Bool :=
  (Text.ofString marker).points.isPrefixOf c.rest && isGap (c.peekAt 3)

/-- Whether a document begins or ends here. -/
def seesDocumentMarker (c : Cursor) : Bool := c.seesMarker "---" || c.seesMarker "..."

end Cursor

end GuardedTools.Yaml
