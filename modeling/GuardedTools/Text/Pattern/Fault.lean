import GuardedTools.Text

/-!
# Why a text is no pattern

A text that is not a regular expression is refused with the place in it that is to blame, and
sometimes a second place that has to do with it.  `PatternFault.message` shows the text with these
places marked below it.  A text of several lines is shown with the numbers of its lines, between
two rules; a place that goes over the end of a line is not marked but named.
-/

namespace GuardedTools

/-- A part of a text, from one position up to another. -/
structure Extent where
  start : Nat
  stop : Nat
deriving DecidableEq, Inhabited, Repr

/-- How deep the parts of a pattern may lie in each other. -/
def nestingBound : Nat := 250

/-- What is wrong with a text that is no pattern. -/
inductive PatternProblem where
  | unclosedSet
  | invalidRange
  | rangeOfSets
  | setEscape
  | emptyCount
  | largeCount
  | unclosedCount
  | invalidCount
  | noOperand
  | unclosedGroup
  | unopenedGroup
  | incompleteEscape
  | unknownEscape
  | emptyHex
  | invalidHex
  | invalidHexDigit
  | escapedPropertyName
  | unclosedEdge
  | unknownEdge
  | incompleteEdge
  | backReference
  | lookAround
  | unknownSetting
  | missingSetting
  | repeatedSetting
  | danglingNegation
  | repeatedNegation
  | emptyGroupName
  | invalidGroupName
  | unclosedGroupName
  | repeatedGroupName
  | tooDeep
  | unknownProperty
  | unknownPropertyValue
  | notUnicode
  | notOneCharacter
deriving DecidableEq, Inhabited, Repr

def PatternProblem.message : PatternProblem → Text
  | unclosedSet => "unclosed character class"
  | invalidRange => "invalid character class range, the start must be <= the end"
  | rangeOfSets => "invalid range boundary, must be a literal"
  | setEscape => "invalid escape sequence found in character class"
  | emptyCount => "repetition quantifier expects a valid decimal"
  | largeCount => "decimal literal invalid"
  | unclosedCount => "unclosed counted repetition"
  | invalidCount => "invalid repetition count range, the start must be <= the end"
  | noOperand => "repetition operator missing expression"
  | unclosedGroup => "unclosed group"
  | unopenedGroup => "unopened group"
  | incompleteEscape => "incomplete escape sequence, reached end of pattern prematurely"
  | unknownEscape => "unrecognized escape sequence"
  | emptyHex => "hexadecimal literal empty"
  | invalidHex => "hexadecimal literal is not a Unicode scalar value"
  | invalidHexDigit => "invalid hexadecimal digit"
  | escapedPropertyName => "invalid Unicode character class"
  | unclosedEdge =>
    "special word boundary assertion is either unclosed or contains an invalid character"
  | unknownEdge => Text.ofString "unrecognized special word boundary assertion, " ++
    "valid choices are: start, end, start-half or end-half"
  | incompleteEdge => Text.ofString "found either the beginning of a special word boundary or a " ++
    "bounded repetition on a \\b with an opening brace, but no closing brace"
  | backReference => "backreferences are not supported"
  | lookAround => "look-around, including look-ahead and look-behind, is not supported"
  | unknownSetting => "unrecognized flag"
  | missingSetting => "expected flag but got end of regex"
  | repeatedSetting => "duplicate flag"
  | danglingNegation => "dangling flag negation operator"
  | repeatedNegation => "flag negation operator repeated"
  | emptyGroupName => "empty capture group name"
  | invalidGroupName => "invalid capture group character"
  | unclosedGroupName => "unclosed capture group name"
  | repeatedGroupName => "duplicate capture group name"
  | tooDeep => Text.ofString "exceed the maximum number of nested parentheses/brackets (" ++
    Text.ofNat nestingBound ++ ")"
  | unknownProperty => "Unicode property not found"
  | unknownPropertyValue => "Unicode property value not found"
  | notUnicode => "Unicode not allowed here"
  | notOneCharacter => "pattern can match invalid UTF-8"

/-- A problem, the place that is to blame, and the place that it repeats. -/
structure PatternFault where
  problem : PatternProblem
  place : Extent
  repeats : Option Extent := none
deriving DecidableEq, Inhabited, Repr

namespace PatternFault

/-- The line and the column of a position, both counted from zero. -/
def lineAndColumn (source : Text) (position : Nat) : Nat × Nat :=
  let before := source.points.take position
  (before.countP (·.is '\n'), (before.reverse.takeWhile (!·.is '\n')).length)

/-- The lines of a text, without what ends them; a break at the end begins no further one. -/
def linesOf (source : Text) : List Text :=
  let lines := source.splitOn '\n'
  let closed := lines.dropLast.map fun t =>
    if t.points.getLast?.any (·.is '\r') then ⟨t.points.dropLast⟩ else t
  closed ++ lines.getLast?.toList.filter (!·.isEmpty)

/-- The marks below a line from a column on, for places given by the columns where they begin and
end. -/
def marksFrom (column : Nat) : List (Nat × Nat) → List Char
  | [] => []
  | (low, high) :: places =>
    let marks := max 1 (high - low)
    List.replicate (low - column) ' ' ++ List.replicate marks '^'
      ++ marksFrom (max column low + marks) places

/-- The places of a fault in the order of the text. -/
def places (f : PatternFault) : List Extent :=
  match f.repeats with
  | none => [f.place]
  | some p => if p.start ≤ f.place.start then [p, f.place] else [f.place, p]

/-- What a place that goes over the end of a line is named. -/
def placeName (source : Text) (p : Extent) : Text :=
  let (line, column) := lineAndColumn source p.start
  let (lastLine, lastColumn) := lineAndColumn source p.stop
  Text.ofString "on line " ++ Text.ofNat (line + 1) ++ " (column " ++ Text.ofNat (column + 1)
    ++ ") through line " ++ Text.ofNat (lastLine + 1) ++ " (column " ++ Text.ofNat lastColumn
    ++ ")"

/-- A line with what stands before it, and the marks below it. -/
def shownLine (source : Text) (places : List Extent) (lead : Text) (number : Nat) (line : Text) :
    Text :=
  let marked := places.filterMap fun p =>
    let (first, low) := lineAndColumn source p.start
    let (last, high) := lineAndColumn source p.stop
    if first == number && last == number then some (low, high) else none
  let below : Text :=
    if marked.isEmpty then Text.empty
    else Text.ofChars (List.replicate lead.length ' ' ++ marksFrom 0 marked) ++ "\n"
  lead ++ line ++ "\n" ++ below

/-- The text of a pattern with the blamed places marked, and what is wrong with it. -/
def message (f : PatternFault) (source : Text) : Text :=
  let lines := linesOf source
  if source.containsChar '\n' then
    let count := lines.length + (if source.points.getLast?.any (·.is '\n') then 1 else 0)
    let width := (Text.ofNat count).length
    let lead (i : Nat) : Text :=
      let number := Text.ofNat (i + 1)
      Text.ofChars (List.replicate (width - number.length) ' ') ++ number ++ ": "
    let rule := Text.ofChars (List.replicate 79 '~') ++ "\n"
    let broken := f.places.filter fun p =>
      (lineAndColumn source p.start).1 != (lineAndColumn source p.stop).1
    Text.ofString "regex parse error:\n" ++ rule
      ++ Text.concat (lines.zipIdx.map fun (line, i) => shownLine source f.places (lead i) i line)
      ++ rule
      ++ (if broken.isEmpty then Text.empty
        else Text.intercalate "\n" (broken.map (placeName source)) ++ "\n")
      ++ "error: " ++ f.problem.message
  else
    Text.ofString "regex parse error:\n"
      ++ Text.concat (lines.map (shownLine source f.places "    " 0))
      ++ "error: " ++ f.problem.message

end PatternFault

end GuardedTools
