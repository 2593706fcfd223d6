import GuardedTools.Text.Pattern.Source
import GuardedTools.Text.Pattern.Term

/-!
# Escape sequences of patterns

A backslash gives the characters behind it another meaning: a character by its number, a set of
characters, a condition on the position, or a mark that stands for itself.  Within a number or a
name, too, blanks mean nothing where they mean nothing elsewhere.
-/

namespace GuardedTools

/-- What an escape sequence stands for. -/
inductive Escape where
  | literal (p : WrittenPoint)
  | set (s : SetTerm)
  | edge (e : EdgeTerm)
deriving Inhabited

namespace Escape

/-- The number of a character, which is no surrogate. -/
def scalar? (n : Nat) : Option CodePoint :=
  if n < 0x110000 && !(0xD800 ≤ n && n < 0xE000) then some (.ofNat n) else none

/-- Reads a number of hexadecimal digits behind those of a number. -/
def hexDigits : Nat → Nat → Source → Except PatternFault (Nat × Source)
  | 0, n, s => .ok (n, s)
  | count + 1, n, s => match s.next? with
    | none => .error (s.faultHere .incompleteEscape)
    | some p => match p.hexValue? with
      | some d => hexDigits count (16 * n + d) s.advance
      | none => .error (s.faultOfNext .invalidHexDigit)

/-- Reads the hexadecimal digits up to a closing brace: how many there are and their number.  The
first argument bounds how many are read. -/
def hexInBraces (brace : Nat) :
    Nat → Nat → Nat → Source → Except PatternFault ((Nat × Nat) × Source)
  | 0, _, _, s => .error (s.fault .incompleteEscape brace)
  | fuel + 1, count, n, s => match s.next? with
    | none => .error (s.fault .incompleteEscape brace)
    | some p =>
      if p.is '\x7d' then .ok ((count, n), s)
      else match p.hexValue? with
        | some d => hexInBraces brace fuel (count + 1) (16 * n + d) s.advance
        | none => .error (s.faultOfNext .invalidHexDigit)

/-- Reads the number of a character: so many digits, or those in braces. -/
def numbered (start count : Nat) (s : Source) : Except PatternFault (Escape × Source) := do
  if s.isEmpty then throw (s.faultHere .incompleteEscape)
  if s.hasNext "\x7b" then
    let brace := s.position
    let ((read, n), s) ← hexInBraces brace (s.rest.length + 1) 0 0 s.advance
    let after := s.advance
    if read = 0 then throw (after.fault .emptyHex brace)
    match scalar? n with
    | some point => return (.literal { point, place := after.placeFrom start }, after)
    | none => throw (s.fault .invalidHex (brace + 1))
  else
    let (n, after) ← hexDigits count 0 s
    match scalar? n with
    | some point =>
      return (.literal { point, place := after.placeFrom start, isByte := count == 2 }, after)
    | none => throw (after.fault .invalidHex s.position)

/-- Reads the name in braces of a property. -/
def propertyName : Nat → Source → Except PatternFault (List CodePoint × Source)
  | 0, s => .error (s.faultHere .incompleteEscape)
  | fuel + 1, s => match s.next? with
    | none => .error (s.faultHere .incompleteEscape)
    | some p =>
      if p.is '\x7d' then .ok ([], s.skip 1)
      else do
        let (name, s) ← propertyName fuel s.advance
        return (p :: name, s)

/-- The set of a property by the text that names it, alone or with a value. -/
def propertyTerm (name : Text) (others : Bool) (place : Extent) : SetTerm :=
  let cut? : Option (Text × Text) :=
    (List.range name.length).findSome? fun i =>
      if (name.drop i).startsWith "!=" then some (name.take i, name.drop (i + 2)) else none
  match cut? <|> name.cutAt ':' <|> name.cutAt '=' with
  | some (name, value) => .propertyValue name value others place
  | none => .property name others place

/-- Reads the name of a property: a single letter, or what stands in braces. -/
def property (start : Nat) (others : Bool) (s : Source) :
    Except PatternFault (Escape × Source) := do
  match s.next? with
  | none => throw (s.faultHere .incompleteEscape)
  | some p =>
    if p.is '\x7b' then
      let (name, after) ← propertyName (s.rest.length + 1) s.advance
      return (.set (propertyTerm ⟨name⟩ others (after.placeFrom start)), after)
    else if p.is '\\' then throw (s.faultOfNext .escapedPropertyName)
    else
      let after := s.advance
      return (.set (.property ⟨[p]⟩ others (after.placeFrom start)), after)

/-- Reads letters and hyphens. -/
def edgeName : Nat → Source → List CodePoint × Source
  | 0, s => ([], s)
  | fuel + 1, s => match s.next? with
    | some p =>
      if p.isLetter || p.is '-' then
        let (name, s) := edgeName fuel s.advance
        (p :: name, s)
      else ([], s)
    | none => ([], s)

/-- Reads which edge of a word is meant, in braces.  Braces that begin otherwise count repetitions
and are left. -/
def edgeInBraces (start : Nat) (s : Source) :
    Except PatternFault (WordEdge × Source) := do
  if !s.hasNext "\x7b" then return (.edge, s)
  let inner := s.advance
  if inner.isEmpty then throw (inner.fault .incompleteEdge start)
  let (name, after) := edgeName inner.rest.length inner
  if name.isEmpty then return (.edge, s)
  if !after.hasNext "\x7d" then throw (after.fault .unclosedEdge s.position)
  let edges : List (Text × WordEdge) := [("start", .start), ("end", .stop),
    ("start-half", .startHalf), ("end-half", .stopHalf)]
  match edges.find? (·.1.points == name) with
  | some (_, e) => return (e, after.skip 1)
  | none => throw (after.fault .unknownEdge inner.position)

/-- Whether a character stands for itself when escaped: one of ASCII that is no letter, no digit and
no angle bracket. -/
def isSelf (p : CodePoint) : Bool :=
  p.toNat < 128 && !p.isLetter && !p.isDigit && !p.is '<' && !p.is '>'

/-- The character that a letter stands for. -/
def controlOf? (p : CodePoint) : Option CodePoint :=
  [('a', 7), ('f', 12), ('t', 9), ('n', 10), ('r', 13), ('v', 11)].findSome? fun (c, n) =>
    if p.is c then some (.ofNat n) else none

/-- The set that a letter stands for, and whether it is that of the other code points. -/
def letterSet? (p : CodePoint) : Option (LetterSet × Bool) :=
  [('d', LetterSet.digit, false), ('s', .blank, false), ('w', .word, false), ('D', .digit, true),
    ('S', .blank, true), ('W', .word, true)].findSome? fun (c, s) => if p.is c then some s else none

/-- The condition that a character stands for. -/
def edgeOf? (p : CodePoint) : Option EdgeTerm :=
  [('A', EdgeTerm.textStart), ('z', .textEnd), ('B', .word .noEdge), ('<', .word .start),
    ('>', .word .stop)].findSome? fun (c, e) => if p.is c then some e else none

/-- Reads an escape sequence, of which the backslash is next. -/
def read (s : Source) : Except PatternFault (Escape × Source) := do
  let start := s.position
  let s := s.skip 1
  match s.next? with
  | none => throw (s.fault .incompleteEscape start)
  | some p =>
    let after := s.skip 1
    let place := after.placeFrom start
    if p.isDigit then throw (after.fault .backReference start)
    else if p.is 'x' then numbered start 2 s.advance
    else if p.is 'u' then numbered start 4 s.advance
    else if p.is 'U' then numbered start 8 s.advance
    else if p.is 'p' || p.is 'P' then property start (p.is 'P') s.advance
    else if p.is 'b' then
      let (e, after) ← edgeInBraces start after
      return (.edge (.word e), after)
    else match letterSet? p, controlOf? p, edgeOf? p with
      | some (letters, others), _, _ => return (.set (.letter letters others place), after)
      | none, some point, _ => return (.literal { point, place }, after)
      | none, none, some e => return (.edge e, after)
      | none, none, none =>
        if isSelf p then return (.literal { point := p, place }, after)
        else throw (after.fault .unknownEscape start)

end Escape

end GuardedTools
