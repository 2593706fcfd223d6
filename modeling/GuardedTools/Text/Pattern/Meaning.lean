import GuardedTools.Text.Fold
import GuardedTools.Text.Pattern
import GuardedTools.Text.Pattern.Reader

/-!
# What written patterns mean

The meaning of a written pattern under the settings that hold where it begins, and the settings
that hold behind it (`PatternTerm.meaning`).  Settings made in a group end with it.

Without the setting for Unicode, letters, digits and cases are those of ASCII and characters are
bytes; whatever could match one byte of a longer character is refused, as every set of what is not
in another set is.
-/

namespace GuardedTools

/-- The settings that change what a pattern matches. -/
structure PatternSettings where
  anyCase : Bool := false
  lines : Bool := false
  breaks : Bool := false
  unicode : Bool := true
  returns : Bool := false
deriving DecidableEq, Inhabited, Repr

namespace PatternSettings

/-- With settings made or taken back. -/
def changed (o : PatternSettings) (made : List (Setting × Bool)) : PatternSettings :=
  made.foldl (fun o (setting, isMade) => match setting with
    | .anyCase => { o with anyCase := isMade }
    | .lines => { o with lines := isMade }
    | .breaks => { o with breaks := isMade }
    | .unicode => { o with unicode := isMade }
    | .returns => { o with returns := isMade }
    | .lazy | .spaced => o) o

/-- A set with the other cases of its letters, if these match. -/
def cased (o : PatternSettings) (s : PointSet) : PointSet :=
  if !o.anyCase then s
  else if o.unicode then s.folded
  else s.asciiFolded

/-- A set, or that of the other code points. -/
def others (o : PatternSettings) (s : PointSet) (isOthers : Bool) (place : Extent) :
    Except PatternFault PointSet :=
  if !isOthers then .ok s
  else if o.unicode then .ok s.complement
  else .error { problem := .notOneCharacter, place }

/-- A written character; as a byte it must be one of ASCII. -/
def literal (o : PatternSettings) (p : WrittenPoint) : Except PatternFault CodePoint :=
  if !o.unicode && p.isByte && 128 ≤ p.point.toNat then
    .error { problem := .notOneCharacter, place := p.place }
  else .ok p.point

/-- A written character in a set, where characters that are no bytes cannot be. -/
def member (o : PatternSettings) (p : WrittenPoint) : Except PatternFault Nat := do
  let point ← o.literal p
  if !o.unicode && 128 ≤ point.toNat then
    throw { problem := .notUnicode, place := p.place }
  return point.toNat

end PatternSettings

/-- The set that an escaped letter stands for. -/
def LetterSet.points (unicode : Bool) : LetterSet → PointSet
  | digit => if unicode then Category.digit.set else .range 48 57
  | blank => if unicode then patternBlanks else PointSet.range 9 13 ∪ PointSet.range 32 32
  | word => if unicode then wordSet else asciiWordSet

/-- Two sets joined. -/
def Joint.apply : Joint → PointSet → PointSet → PointSet
  | intersection, s, t => s ∩ t
  | difference, s, t => s \ t
  | symmetric, s, t => s.symmDiff t

/-- The set of a property that was asked for at a place. -/
def PatternSettings.property (o : PatternSettings) (found : Except PropertyFault PointSet)
    (isOthers : Bool) (place : Extent) : Except PatternFault PointSet :=
  if !o.unicode then .error { problem := .notUnicode, place }
  else match found with
    | .ok s => o.others (o.cased s) isOthers place
    | .error .name => .error { problem := .unknownProperty, place }
    | .error .value => .error { problem := .unknownPropertyValue, place }

/-- The code points of a written set. -/
def SetTerm.points (o : PatternSettings) : SetTerm → Except PatternFault PointSet
  | nothing => .ok .nothing
  | literal p => do
    let n ← o.member p
    return .range n n
  | range low high => do return .range (← o.member low) (← o.member high)
  | letter s isOthers place => o.others (s.points o.unicode) isOthers place
  | ascii s isOthers place => o.others (o.cased s) isOthers place
  | property name isOthers place => o.property (PointSet.ofProperty name) isOthers place
  | propertyValue name value isOthers place =>
    o.property (PointSet.ofPropertyValue name value) isOthers place
  | either s t => do return (← points o s) ∪ (← points o t)
  | joined j s t => do return j.apply (o.cased (← points o s)) (o.cased (← points o t))
  | bracketed s isOthers place => do o.others (o.cased (← points o s)) isOthers place
  | level _ s => points o s

/-- The condition that a written one is under settings. -/
def EdgeTerm.boundary (o : PatternSettings) : EdgeTerm → Boundary
  | lineStart => if !o.lines then .textStart else if o.returns then .returnStart else .lineStart
  | lineEnd => if !o.lines then .textEnd else if o.returns then .returnEnd else .lineEnd
  | textStart => .textStart
  | textEnd => .textEnd
  | word e => .word e !o.unicode

namespace PatternSettings

/-- The set of what a point stands for. -/
def any (o : PatternSettings) (place : Extent) : Except PatternFault PointSet :=
  if !o.unicode then .error { problem := .notOneCharacter, place }
  else
    let breaks : PointSet :=
      if o.breaks then .nothing
      else if o.returns then PointSet.range 10 10 ∪ PointSet.range 13 13
      else .range 10 10
    .ok breaks.complement

/-- The set of a written character outside brackets, where one that is no byte has one case only if
characters are bytes. -/
def written (o : PatternSettings) (p : WrittenPoint) : Except PatternFault PointSet := do
  let point ← o.literal p
  return o.cased (.only point)

end PatternSettings

namespace Pattern

/-- Whether a pattern matches nothing but empty stretches. -/
def isEmptyOnly : Pattern → Bool
  | empty => true
  | point _ => false
  | boundary _ => true
  | sequence a b => a.isEmptyOnly && b.isEmptyOnly
  | either a b => a.isEmptyOnly && b.isEmptyOnly
  | repeated _ most a => a.isEmptyOnly || most == some 0
  | kept a => a.isEmptyOnly

/-- A repeated pattern.  Of one that matches nothing but empty stretches one round is enough. -/
def rounds (least : Nat) (most : Option Nat) (a : Pattern) : Pattern :=
  if most == some 0 then empty
  else if a.isEmptyOnly then repeated (min least 1) (some (min (most.getD 1) 1)) a
  else repeated least most a

end Pattern

/-- What a written pattern matches, and the settings behind it. -/
def PatternTerm.meaning (o : PatternSettings) :
    PatternTerm → Except PatternFault (Pattern × PatternSettings)
  | empty => .ok (.empty, o)
  | literal p => do return (.point (← o.written p), o)
  | any place => do return (.point (← o.any place), o)
  | edge e => .ok (.boundary (e.boundary o), o)
  | set s => do return (.point (← s.points o), o)
  | sequence a b => do
    let (a, o) ← meaning o a
    let (b, o) ← meaning o b
    return (.sequence a b, o)
  | either a b => do
    let (a, o) ← meaning o a
    let (b, o) ← meaning o b
    return (.either a b, o)
  | repeated least most a => do
    let (a, o) ← meaning o a
    return (.rounds least most a, o)
  | group isKept made a => do
    let (a, _) ← meaning (o.changed made) a
    return (if isKept then .kept a else a, o)
  | setting made => .ok (.empty, o.changed made)
  | level _ a => meaning o a

end GuardedTools
