import GuardedTools.Text.PointSet
import GuardedTools.Text.Pattern.Fault

/-!
# Patterns as they are written

The parts of a regular expression as the text has them, before settings give them a meaning: what
a point, a mark or an escaped letter matches depends on the settings that hold where it stands.
Parts that may turn out to be faulty keep their places.

`PatternTerm.level` and `SetTerm.level` stand around the parts that count as one level of nesting,
with the places of these; `PatternTerm.tooDeep?` finds the first one that lies too deep.
-/

namespace GuardedTools

/-- What holds in a part of a pattern, if it is set. -/
inductive Setting where
  /-- Letters match in both cases. -/
  | anyCase
  /-- The marks for start and end mean those of lines. -/
  | lines
  /-- A point matches line breaks, too. -/
  | breaks
  /-- Repetitions prefer few rounds; the same texts match. -/
  | lazy
  /-- Letters, digits and cases are those of Unicode, not of ASCII. -/
  | unicode
  /-- A carriage return ends a line, too. -/
  | returns
  /-- Blanks and comments mean nothing. -/
  | spaced
deriving DecidableEq, Inhabited, Repr

/-- A written character. -/
structure WrittenPoint where
  point : CodePoint
  place : Extent
  /-- It is written as the two hexadecimal digits of a byte. -/
  isByte : Bool := false
deriving DecidableEq, Inhabited, Repr

/-- The sets that a single escaped letter stands for. -/
inductive LetterSet where
  | digit
  | blank
  | word
deriving DecidableEq, Inhabited, Repr

/-- What joins two sets within brackets. -/
inductive Joint where
  | intersection
  | difference
  | symmetric
deriving DecidableEq, Inhabited, Repr

/-- A set of code points as it is written. -/
inductive SetTerm where
  | nothing
  | literal (p : WrittenPoint)
  | range (low high : WrittenPoint)
  | letter (s : LetterSet) (others : Bool) (place : Extent)
  /-- A set of ASCII characters that has a name. -/
  | ascii (s : PointSet) (others : Bool) (place : Extent)
  /-- The code points with a property. -/
  | property (name : Text) (others : Bool) (place : Extent)
  /-- The code points for which a kind of property has a value. -/
  | propertyValue (name value : Text) (others : Bool) (place : Extent)
  | either (s t : SetTerm)
  | joined (j : Joint) (s t : SetTerm)
  /-- A set in brackets, or that of what is not in it. -/
  | bracketed (s : SetTerm) (others : Bool) (place : Extent)
  | level (place : Extent) (s : SetTerm)
deriving DecidableEq, Inhabited, Repr

/-- What is asked about the word characters on both sides of a position. -/
inductive WordEdge where
  /-- A word begins or ends here. -/
  | edge
  /-- No word begins or ends here. -/
  | noEdge
  | start
  | stop
  /-- What stands before is no word character. -/
  | startHalf
  /-- What stands behind is no word character. -/
  | stopHalf
deriving DecidableEq, Inhabited, Repr

/-- A condition on a position as it is written. -/
inductive EdgeTerm where
  | lineStart
  | lineEnd
  | textStart
  | textEnd
  | word (e : WordEdge)
deriving DecidableEq, Inhabited, Repr

/-- A pattern as it is written. -/
inductive PatternTerm where
  | empty
  | literal (p : WrittenPoint)
  /-- The point that stands for any character. -/
  | any (place : Extent)
  | edge (e : EdgeTerm)
  | set (s : SetTerm)
  | sequence (a b : PatternTerm)
  | either (a b : PatternTerm)
  | repeated (least : Nat) (most : Option Nat) (a : PatternTerm)
  /-- A group; what it matches is kept or not. -/
  | group (isKept : Bool) (settings : List (Setting × Bool)) (a : PatternTerm)
  /-- Settings for the rest of the group. -/
  | setting (settings : List (Setting × Bool))
  | level (place : Extent) (a : PatternTerm)
deriving DecidableEq, Inhabited, Repr

/-- The first place of a set that lies too deep, below a number of levels. -/
def SetTerm.tooDeep? (depth : Nat) : SetTerm → Option Extent
  | level place s => if nestingBound ≤ depth then some place else tooDeep? (depth + 1) s
  | either s t => tooDeep? depth s <|> tooDeep? depth t
  | joined _ s t => tooDeep? depth s <|> tooDeep? depth t
  | bracketed s _ _ => tooDeep? depth s
  | _ => none

/-- The first place of a pattern that lies too deep, below a number of levels. -/
def PatternTerm.tooDeep? (depth : Nat) : PatternTerm → Option Extent
  | level place a => if nestingBound ≤ depth then some place else tooDeep? (depth + 1) a
  | sequence a b => tooDeep? depth a <|> tooDeep? depth b
  | either a b => tooDeep? depth a <|> tooDeep? depth b
  | repeated _ _ a => tooDeep? depth a
  | group _ _ a => tooDeep? depth a
  | set s => s.tooDeep? depth
  | _ => none

end GuardedTools
