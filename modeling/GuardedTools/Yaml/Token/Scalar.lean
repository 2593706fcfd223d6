import GuardedTools.Yaml.Cursor

/-!
# Scalars of YAML

The three ways to write a scalar: plain, in quotes, and as a block of lines.  Lines are folded: a
single line break becomes a space, of several the first is dropped; a block may keep them.
-/

namespace GuardedTools.Yaml

/-- Code points that have been read, and the place after them. -/
abbrev Taken := List CodePoint × Cursor

/-! ### Scalars in quotes -/

/-- Line breaks with the blanks around them; the number bounds how many. -/
def quotedBreaks : Nat → Cursor → Except Fault Taken
  | 0, _ => .error .malformed
  | n + 1, c =>
    if c.seesDocumentMarker then .error .malformed
    else
      let c := c.skipWhile fun p => p.is ' ' || p.is '\t'
      match c.lineBreak? with
      | none => .ok ([], c)
      | some (b, c) => do
        let (rest, c) ← quotedBreaks n c
        return (b :: rest, c)

/-- A line break with those after it, folded. -/
def folded (first : CodePoint) (others : List CodePoint) : List CodePoint :=
  if !first.is '\n' then first :: others
  else if others.isEmpty then [.scalar ' ']
  else others

/-- Blanks in a quoted scalar: as they are within a line, folded at its end. -/
def quotedBlanks (c : Cursor) : Except Fault Taken :=
  let (blanks, c) := c.takeWhile fun p => p.is ' ' || p.is '\t'
  match c.peek, c.lineBreak? with
  | none, _ => .error .malformed
  | some _, none => .ok (blanks, c)
  | some _, some (b, c) => do
    let (others, c) ← quotedBreaks (c.rest.length + 1) c
    return (folded b others, c)

/-- What a letter stands for after a backslash. -/
def escapeOf? (p : CodePoint) : Option CodePoint :=
  match p with
  | .scalar '0' => some (.ofNat 0)
  | .scalar 'a' => some (.ofNat 7)
  | .scalar 'b' => some (.ofNat 8)
  | .scalar 't' => some (.ofNat 9)
  | .scalar '\t' => some (.ofNat 9)
  | .scalar 'n' => some (.ofNat 10)
  | .scalar 'v' => some (.ofNat 11)
  | .scalar 'f' => some (.ofNat 12)
  | .scalar 'r' => some (.ofNat 13)
  | .scalar 'e' => some (.ofNat 27)
  | .scalar ' ' => some p
  | .scalar '"' => some p
  | .scalar '\\' => some p
  | .scalar '/' => some p
  | .scalar 'N' => some (.ofNat 0x85)
  | .scalar '_' => some (.ofNat 0xA0)
  | .scalar 'L' => some (.ofNat 0x2028)
  | .scalar 'P' => some (.ofNat 0x2029)
  | _ => none

/-- How many hexadecimal digits follow a letter after a backslash. -/
def hexEscape? (p : CodePoint) : Option Nat :=
  if p.is 'x' then some 2 else if p.is 'u' then some 4 else if p.is 'U' then some 8 else none

/-- The number that hexadecimal digits write. -/
def hexNumber? (ps : List CodePoint) : Option Nat :=
  ps.foldlM (fun n p => p.hexValue?.map fun d => 16 * n + d) 0

/-- What an escape after its backslash stands for. -/
def escape (c : Cursor) : Except Fault Taken :=
  match c.peek with
  | none => .error .malformed
  | some p => match escapeOf? p, hexEscape? p with
    | some q, _ => .ok ([q], c.next)
    | none, some count =>
      let c := c.next
      let digits := c.rest.take count
      if digits.length < count then .error .malformed
      else match hexNumber? digits with
        | none => .error .malformed
        | some n =>
          if 0x10FFFF < n then .error (.badCodePoint (0x7FFFFFFF < n))
          else .ok ([.ofNat n], c.skip count)
    | none, none => match c.lineBreak? with
      | none => .error .malformed
      | some (_, c) => quotedBreaks (c.rest.length + 1) c

/-- Whether a code point of a quoted scalar stands for itself wherever it is. -/
def isQuotedPlain (p : CodePoint) : Bool :=
  !(p.is '\'' || p.is '"' || p.is '\\' || p.is ' ' || p.is '\t' || isBreak p)

/-- The rest of a quoted scalar, of which at most a number of pieces are read. -/
def quotedRest (double : Bool) : Nat → Cursor → Except Fault Taken
  | 0, _ => .error .malformed
  | n + 1, c => do
    let (piece, c) := c.takeWhile isQuotedPlain
    match c.peek with
    | none => throw .malformed
    | some p =>
      let (more, c, done) ←
        if !double && p.is '\'' && (c.peekAt 1).any (·.is '\'') then
          pure ([p], c.skip 2, false)
        else if p.is (if double then '"' else '\'') then pure ([], c.next, true)
        else if p.is '\'' || p.is '"' || (!double && p.is '\\') then pure ([p], c.next, false)
        else if p.is '\\' then do
          let (taken, c) ← escape c.next
          pure (taken, c, false)
        else do
          let (taken, c) ← quotedBlanks c
          pure (taken, c, false)
      if done then return (piece ++ more, c)
      let (rest, c) ← quotedRest double n c
      return (piece ++ more ++ rest, c)

/-- A quoted scalar, from its opening quote on. -/
def quotedScalar (double : Bool) (c : Cursor) : Except Fault Taken :=
  quotedRest double (c.rest.length + 1) c.next

/-! ### Plain scalars -/

/-- Whether a plain scalar ends before a code point of which the next one is given. -/
def endsPlain (inFlow : Bool) (p : CodePoint) (following : Option CodePoint) : Bool :=
  isGap (some p)
    || (p.is ':' && (isGap following || (inFlow && isOneOf ",[]{}" following)))
    || (inFlow && isOneOf ",?[]{}" (some p))

/-- The code points of a plain scalar up to the next blank. -/
def plainWord (inFlow : Bool) : List CodePoint → List CodePoint
  | [] => []
  | p :: ps => if endsPlain inFlow p ps.head? then [] else p :: plainWord inFlow ps

/-- The blanks after a word of a plain scalar: what they become, none if the scalar ends with
them, and whether they hold a line break. -/
structure PlainBlanks where
  kept : Option (List CodePoint)
  broken : Bool
  cursor : Cursor

/-- Further line breaks after the first, with the spaces around them; nothing if a document marker
follows one. -/
def plainBreaks : Nat → Cursor → Option (List CodePoint) × Cursor
  | 0, c => (none, c)
  | n + 1, c =>
    let c := c.skipSpaces
    match c.lineBreak? with
    | none => (some [], c)
    | some (b, c) =>
      if c.seesDocumentMarker then (none, c)
      else
        let (rest, c) := plainBreaks n c
        (rest.map (b :: ·), c)

def plainBlanks (c : Cursor) : PlainBlanks :=
  let (spaces, c) := c.takeWhile (·.is ' ')
  match c.lineBreak? with
  | none => { kept := if spaces.isEmpty then none else some spaces, broken := false, cursor := c }
  | some (b, c) =>
    if c.seesDocumentMarker then { kept := none, broken := true, cursor := c }
    else
      let (others, c) := plainBreaks (c.rest.length + 1) c
      { kept := others.map (folded b), broken := true, cursor := c }

/-- What reading a plain scalar comes to: its text, the place after it and after the blanks that
follow it, and whether a line break is among these. -/
structure PlainScalar where
  text : List CodePoint
  cursor : Cursor
  broken : Bool

/-- A plain scalar after the blanks before its next word, in which lines must be indented as given
outside of flow; at most a number of words are read. -/
def plainRest (inFlow : Bool) (indent : Int) (broken : Bool) :
    Nat → List CodePoint → Cursor → PlainScalar
  | 0, _, c => { text := [], cursor := c, broken }
  | n + 1, blanks, c =>
    let word := if c.sees '#' then [] else plainWord inFlow c.rest
    if word.isEmpty then { text := [], cursor := c, broken }
    else
      let after := plainBlanks (c.skip word.length)
      let c := after.cursor
      match after.kept with
      | none => { text := blanks ++ word, cursor := c, broken := after.broken }
      | some kept =>
        if c.sees '#' || (!inFlow && (c.column : Int) < indent) then
          { text := blanks ++ word, cursor := c, broken := after.broken }
        else
          let rest := plainRest inFlow indent after.broken n kept c
          { rest with text := blanks ++ word ++ rest.text }

def plainScalar (inFlow : Bool) (indent : Int) (c : Cursor) : PlainScalar :=
  plainRest inFlow indent false (c.rest.length + 1) [] c

/-! ### Blocks of lines -/

/-- What becomes of the line breaks at the end of a block. -/
inductive Chomping where
  | strip
  | clip
  | keep
deriving DecidableEq, Inhabited, Repr

/-- The chomping that a sign asks for. -/
def chompingOf? : Option CodePoint → Option Chomping
  | some (.scalar '+') => some .keep
  | some (.scalar '-') => some .strip
  | _ => none

/-- The indentation that a digit asks for. -/
def indentationOf? : Option CodePoint → Option Nat
  | some p => if p.isDigit then some p.digitValue else none
  | none => none

/-- The sign and the digit in the head of a block, in either order. -/
def blockHead (c : Cursor) : Except Fault (Chomping × Option Nat × Cursor) := do
  let (chomping, indentation, c) := match chompingOf? c.peek, indentationOf? c.peek with
    | some chomping, _ => match indentationOf? c.next.peek with
      | some d => (chomping, some d, c.skip 2)
      | none => (chomping, none, c.next)
    | none, some d => match chompingOf? c.next.peek with
      | some chomping => (chomping, some d, c.skip 2)
      | none => (.clip, some d, c.next)
    | none, none => (.clip, none, c)
  if indentation = some 0 || !endsWord c.peek then throw .malformed
  let c := c.skipSpaces.skipComment
  if !endsLine c.peek then throw .malformed
  return (chomping, indentation, c.skipBreak)

/-- Spaces up to a column. -/
def skipIndent (indent : Nat) : Nat → Cursor → Cursor
  | 0, c => c
  | n + 1, c => if c.column < indent && c.sees ' ' then skipIndent indent n c.next else c

/-- The line breaks of empty lines, with the spaces up to a column before each. -/
def blockBreaks (indent : Nat) : Nat → Cursor → Taken
  | 0, c => ([], c)
  | n + 1, c =>
    let c := skipIndent indent c.rest.length c
    match c.lineBreak? with
    | none => ([], c)
    | some (b, c) =>
      let (rest, c) := blockBreaks indent n c
      (b :: rest, c)

/-- The line breaks before the first line that is not empty, and the furthest column of the
spaces on the way to it. -/
def leadingBreaks : Nat → Nat → Cursor → List CodePoint × Nat × Cursor
  | 0, furthest, c => ([], furthest, c)
  | n + 1, furthest, c =>
    if c.sees ' ' then leadingBreaks n (max furthest c.next.column) c.next
    else match c.lineBreak? with
      | none => ([], furthest, c)
      | some (b, c) =>
        let (rest, furthest, c) := leadingBreaks n furthest c
        (b :: rest, furthest, c)

/-- Whether a line begins with a blank. -/
def startsBlank (c : Cursor) : Bool := c.sees ' ' || c.sees '\t'

/-- The lines of a block at an indentation after some line breaks: their text, the break after the
last one, and the breaks of the empty lines after it. -/
def blockLines (isFolded : Bool) (indent : Nat) :
    Nat → List CodePoint → Cursor → List CodePoint × List CodePoint × List CodePoint × Cursor
  | 0, breaks, c => ([], [], breaks, c)
  | n + 1, breaks, c =>
    if c.column ≠ indent || c.peek.isNone then ([], [], breaks, c)
    else
      let (line, after) := c.takeWhile (!isBreak ·)
      let (lineBreak, next) := match after.lineBreak? with
        | some (b, next) => ([b], next)
        | none => ([], after)
      let (following, next) := blockBreaks indent (next.rest.length + 1) next
      if next.column ≠ indent || next.peek.isNone then
        (breaks ++ line, lineBreak, following, next)
      else
        let joined :=
          if isFolded && lineBreak.all (·.is '\n') && !startsBlank c && !startsBlank next then
            (if following.isEmpty then [.scalar ' '] else [])
          else lineBreak
        let (rest, last, trailing, c) := blockLines isFolded indent n following next
        (breaks ++ line ++ joined ++ rest, last, trailing, c)

/-- A block of lines, from its mark on, inside an indentation. -/
def blockScalar (isFolded : Bool) (outer : Int) (c : Cursor) : Except Fault Taken := do
  let (chomping, indentation, c) ← blockHead c.next
  let least := (max 1 (outer + 1)).toNat
  let (breaks, indent, c) := match indentation with
    | some d =>
      let indent := least + d - 1
      let (breaks, c) := blockBreaks indent (c.rest.length + 1) c
      (breaks, indent, c)
    | none =>
      let (breaks, furthest, c) := leadingBreaks (c.rest.length + 1) 0 c
      (breaks, max least furthest, c)
  let (text, last, trailing, c) := blockLines isFolded indent (c.rest.length + 1) breaks c
  return match chomping with
    | .strip => (text, c)
    | .clip => (text ++ last, c)
    | .keep => (text ++ last ++ trailing, c)

end GuardedTools.Yaml
