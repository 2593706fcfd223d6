import GuardedTools.Text.Property
import GuardedTools.Text.Pattern.Term

/-!
# Patterns of texts

Regular expressions over code points.  A pattern stands for the stretches of a text that it
matches: `Pattern.ends` finds, from a set of positions where a stretch may begin, the positions
where it may end, and recurses on the pattern.  `Pattern.occursIn` says whether a text has such a
stretch anywhere.

Every end of a stretch is within the text, and a repetition without an upper limit is followed for
as many rounds as the text has positions: each round that matters goes on to a new one.
-/

namespace GuardedTools

/-- The letters, digits and joining marks that words consist of in Unicode 15. -/
def wordSet : PointSet :=
  BinaryProperty.alphabeticSet ∪ Category.setOfAll (.digit :: .connector :: Category.marks)
    ∪ BinaryProperty.joinControl.set

/-- The ASCII characters that words consist of. -/
def asciiWordSet : PointSet :=
  PointSet.range 48 57 ∪ PointSet.range 65 90 ∪ PointSet.range 95 95 ∪ PointSet.range 97 122

/-- A condition on a position between code points. -/
inductive Boundary where
  | textStart
  | textEnd
  | lineStart
  | lineEnd
  /-- As `lineStart`, where a carriage return breaks a line, too, alone or before a line feed. -/
  | returnStart
  /-- As `lineEnd`, where a carriage return breaks a line, too, alone or before a line feed. -/
  | returnEnd
  /-- What stands before and behind, in words of Unicode or of ASCII. -/
  | word (e : WordEdge) (isAscii : Bool)
deriving DecidableEq, Inhabited, Repr

/-- Whether the word characters on both sides of a position are as an edge has it. -/
def WordEdge.holds (e : WordEdge) (before after : Bool) : Bool :=
  match e with
  | .edge => before != after
  | .noEdge => before == after
  | .start => !before && after
  | .stop => before && !after
  | .startHalf => !before
  | .stopHalf => !after

/-- Whether a position of a text meets a condition. -/
def Boundary.holds (text : Array CodePoint) (b : Boundary) (position : Nat) : Bool :=
  let before := if position = 0 then none else text[position - 1]?
  let after := text[position]?
  let isWord (isAscii : Bool) (p : CodePoint) : Bool :=
    (if isAscii then asciiWordSet else wordSet).holds p
  let is (c : Char) (p : Option CodePoint) : Bool := p.any (·.is c)
  match b with
  | .textStart => before.isNone
  | .textEnd => after.isNone
  | .lineStart => before.isNone || is '\n' before
  | .lineEnd => after.isNone || is '\n' after
  | .returnStart =>
    before.isNone || is '\n' before || (is '\r' before && !is '\n' after)
  | .returnEnd => after.isNone || is '\r' after || (is '\n' after && !is '\r' before)
  | .word e isAscii => e.holds (before.any (isWord isAscii)) (after.any (isWord isAscii))

/-- A regular expression. -/
inductive Pattern where
  /-- Matches the empty stretch. -/
  | empty
  /-- Matches one code point of a set. -/
  | point (s : PointSet)
  /-- Matches the empty stretch at certain positions. -/
  | boundary (b : Boundary)
  | sequence (a b : Pattern)
  | either (a b : Pattern)
  /-- Matches stretches of another pattern one after the other, at least and at most so many. -/
  | repeated (least : Nat) (most : Option Nat) (a : Pattern)
  /-- Matches what another pattern matches, and keeps it. -/
  | kept (a : Pattern)
deriving DecidableEq, Inhabited, Repr

namespace Pattern

/-- The members of two lists, each once. -/
def merged (ks ms : List Nat) : List Nat := (ks ++ ms).eraseDups

/-- A step taken a number of times. -/
def taken (step : List Nat → List Nat) : Nat → List Nat → List Nat
  | 0, ks => ks
  | n + 1, ks => taken step n (step ks)

/-- What is reached by taking a step up to a number of times. -/
def reached (step : List Nat → List Nat) : Nat → List Nat → List Nat
  | 0, ks => ks
  | n + 1, ks => if ks.isEmpty then [] else merged ks (reached step n (step ks))

/-- The positions where a stretch ends that begins at one of the given positions. -/
def ends (text : Array CodePoint) : Pattern → List Nat → List Nat
  | empty, ks => ks
  | point s, ks => ks.filterMap fun k => match text[k]? with
    | some p => if s.holds p then some (k + 1) else none
    | none => none
  | boundary b, ks => ks.filter (b.holds text)
  | sequence a b, ks => ends text b (ends text a ks)
  | either a b, ks => merged (ends text a ks) (ends text b ks)
  | repeated least most a, ks =>
    let further := match most with
      | some n => n - least
      | none => text.size + 1
    reached (ends text a) further (taken (ends text a) least ks)
  | kept a, ks => ends text a ks

/-- Whether a text has a stretch that a pattern matches. -/
def occursIn (a : Pattern) (t : Text) : Bool :=
  let text := t.points.toArray
  !(ends text a (List.range (text.size + 1))).isEmpty

end Pattern

end GuardedTools
