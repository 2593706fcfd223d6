import GuardedTools.Text.Property
import GuardedTools.Text.Pattern.Fault

/-!
# What is left of a pattern

The rest of a text that is being read as a pattern, with what the reader has to remember: how much
it has read, whether blanks and comments mean nothing, and the names that groups already have.
-/

namespace GuardedTools

/-- The white space of Unicode 15. -/
def patternBlanks : PointSet := BinaryProperty.whiteSpace.set

/-- Whether a code point is white space. -/
def isPatternBlank (p : CodePoint) : Bool := patternBlanks.holds p

/-- What is left of a text. -/
structure Source where
  rest : List CodePoint
  position : Nat := 0
  /-- Blanks and comments mean nothing. -/
  spaced : Bool := false
  /-- The names of the groups that were read, and where they stand. -/
  names : List (Text × Extent) := []
deriving Inhabited, Repr

namespace Source

def next? (s : Source) : Option CodePoint := s.rest.head?

def isEmpty (s : Source) : Bool := s.rest.isEmpty

/-- What is left after a number of characters. -/
def skip (s : Source) (n : Nat) : Source :=
  { s with rest := s.rest.drop n, position := s.position + min n s.rest.length }

/-- What is left after the characters of a kind. -/
def skipAll (s : Source) (f : CodePoint → Bool) : Source := s.skip (s.rest.takeWhile f).length

/-- Whether a text is next. -/
def hasNext (s : Source) (t : Text) : Bool := t.points.isPrefixOf s.rest

/-- Skips blanks and comments, a number of them. -/
def skipSpaced : Nat → Source → Source
  | 0, s => s
  | n + 1, s => match s.next? with
    | some p =>
      if isPatternBlank p then skipSpaced n (s.skip 1)
      else if p.is '#' then skipSpaced n (s.skipAll (!·.is '\n'))
      else s
    | none => s

/-- Skips blanks and comments where they mean nothing. -/
def unspaced (s : Source) : Source := if s.spaced then skipSpaced s.rest.length s else s

/-- What is left after the next character and what means nothing. -/
def advance (s : Source) : Source := (s.skip 1).unspaced

/-- The character after the next one and what means nothing. -/
def second? (s : Source) : Option CodePoint :=
  let rest := s.rest.drop 1
  if s.spaced then
    let rest := rest.dropWhile isPatternBlank
    if rest.head?.any (·.is '#') then ((rest.drop 1).dropWhile isPatternBlank).head?
    else rest.head?
  else rest.head?

/-- The place from a position up to here. -/
def placeFrom (s : Source) (start : Nat) : Extent := { start, stop := s.position }

/-- A fault from a position up to here. -/
def fault (s : Source) (problem : PatternProblem) (start : Nat) : PatternFault :=
  { problem, place := s.placeFrom start }

/-- A fault at this position. -/
def faultHere (s : Source) (problem : PatternProblem) : PatternFault := s.fault problem s.position

/-- A fault of the next character. -/
def faultOfNext (s : Source) (problem : PatternProblem) : PatternFault :=
  (s.skip 1).fault problem s.position

end Source

end GuardedTools
