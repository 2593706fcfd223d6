import GuardedTools.Yaml.Token.Mark
import GuardedTools.Yaml.Token.Scalar

/-!
# Reading the tokens of YAML

Tokens are read one after the other with the layout they are in: how deep brackets are nested, the
columns of the blocks that are open, and where a key without a question mark may begin.  Whether a
scalar is such a key shows only at the colon after it, so what may be a key is remembered
(`Candidate`) and its token is put before it when the colon comes.
-/

namespace GuardedTools.Yaml

/-- What may turn out to be a key. -/
structure KeyCandidate where
  /-- The number of tokens before it. -/
  tokenIndex : Nat
  /-- Whether it must be a key, because it begins a line of a block of entries. -/
  isRequired : Bool
  index : Nat
  line : Nat
  column : Nat
deriving Inhabited, Repr

/-- The most code points that a key without a question mark may take. -/
def keyLimit : Nat := 1024

/-- What has been read, and the layout at the place that has been reached. -/
structure Layout where
  cursor : Cursor
  tokens : Array Token := #[]
  /-- How many brackets are open. -/
  depth : Nat := 0
  /-- The column of the innermost open block. -/
  indent : Int := -1
  /-- The columns of the blocks around it. -/
  outer : List Int := []
  /-- Whether a key without a question mark may begin here. -/
  allowsKey : Bool := true
  /-- What may turn out to be a key, by the number of brackets around it. -/
  candidates : List (Nat × KeyCandidate) := []
deriving Inhabited

namespace Layout

/-- A step of reading. -/
abbrev Step := Except Fault Layout

def inFlow (l : Layout) : Bool := l.depth != 0

def push (l : Layout) (t : Token) : Layout := { l with tokens := l.tokens.push t }

/-- Adds a token that takes a number of code points. -/
def take (l : Layout) (t : Token) (width : Nat) : Layout :=
  { l with tokens := l.tokens.push t, cursor := l.cursor.skip width }

/-- The candidate at the present depth. -/
def candidate? (l : Layout) : Option KeyCandidate :=
  (l.candidates.find? (·.1 == l.depth)).map (·.2)

def withoutCandidate (l : Layout) : Layout :=
  { l with candidates := l.candidates.filter (·.1 != l.depth) }

/-- Gives up the candidate at the present depth, which must not be required. -/
def dropCandidate (l : Layout) : Step :=
  if l.candidate?.any (·.isRequired) then .error .malformed else .ok l.withoutCandidate

/-- Remembers that a key may begin here. -/
def saveCandidate (l : Layout) : Step := do
  if !l.allowsKey then return l
  let l ← l.dropCandidate
  let c := l.cursor
  let found : KeyCandidate := {
    tokenIndex := l.tokens.size
    isRequired := !l.inFlow && l.indent == (c.column : Int)
    index := c.index, line := c.line, column := c.column }
  return { l with candidates := (l.depth, found) :: l.candidates }

/-- Whether a candidate is too far back to be a key. -/
def isStale (l : Layout) (k : KeyCandidate) : Bool :=
  k.line != l.cursor.line || keyLimit < l.cursor.index - k.index

/-- Gives up the candidates that are too far back, which must not be required. -/
def dropStale (l : Layout) : Step :=
  if l.candidates.any fun k => l.isStale k.2 && k.2.isRequired then .error .malformed
  else .ok { l with candidates := l.candidates.filter fun k => !l.isStale k.2 }

/-- Closes the blocks that are further right than a column. -/
def unwindFrom (column : Int) : List Int → Layout → Layout
  | [], l => l
  | o :: outer, l =>
    if column < l.indent then
      unwindFrom column outer
        { l with tokens := l.tokens.push .blockEnd, indent := o, outer := outer }
    else l

/-- Closes the blocks that are further right than a column; between brackets there are none. -/
def unwind (l : Layout) (column : Int) : Layout :=
  if l.inFlow then l else unwindFrom column l.outer l

/-- Opens a block at a column if it is further right than the present one, with its token at a
place among the tokens. -/
def openBlock (l : Layout) (column : Nat) (start : Token) (place : Nat) : Layout :=
  if l.indent < (column : Int) then
    { l with
      tokens := l.tokens.insertIdxIfInBounds place start
      indent := column
      outer := l.indent :: l.outer }
  else l

/-- Skips blanks, comments and line breaks; at most a number of lines. -/
def skipBlanks : Nat → Layout → Layout
  | 0, l => l
  | n + 1, l =>
    let c := l.cursor.skipSpaces.skipComment
    match c.lineBreak? with
    | none => { l with cursor := c }
    | some (_, c) => skipBlanks n { l with cursor := c, allowsKey := l.allowsKey || !l.inFlow }

/-! ### Tokens -/

/-- A directive or a mark between documents, before which all blocks end. -/
def outermost (l : Layout) : Step := do
  let l ← (l.unwind (-1)).dropCandidate
  return { l with allowsKey := false }

def directive (l : Layout) : Step := do
  let l ← l.outermost
  let (t, c) ← directiveToken l.cursor
  return { l.push t with cursor := c }

def documentMark (l : Layout) (t : Token) : Step := do
  let l ← l.outermost
  return l.take t 3

def openBracket (l : Layout) (t : Token) : Step := do
  let l ← l.saveCandidate
  return { l.take t 1 with depth := l.depth + 1, allowsKey := true }

def closeBracket (l : Layout) (t : Token) : Step := do
  if !l.inFlow then throw .malformed
  let l ← l.dropCandidate
  return { l.take t 1 with depth := l.depth - 1, allowsKey := false }

def flowEntry (l : Layout) : Step := do
  let l ← l.dropCandidate
  return { l.take .flowEntry 1 with allowsKey := true }

/-- Opens a block where an entry is marked; outside of brackets the mark must be where a key may
begin. -/
def markedBlock (l : Layout) (start : Token) : Step :=
  if l.inFlow then .ok l
  else if !l.allowsKey then .error .malformed
  else .ok (l.openBlock l.cursor.column start l.tokens.size)

def blockEntry (l : Layout) : Step := do
  let l ← l.markedBlock .blockSequenceStart
  let l ← { l with allowsKey := true }.dropCandidate
  return l.take .blockEntry 1

def keyMark (l : Layout) : Step := do
  let l ← l.markedBlock .blockMappingStart
  let l ← { l with allowsKey := !l.inFlow }.dropCandidate
  return l.take .key 1

/-- A colon: what may be a key before it is one, or else it follows a marked key or none. -/
def valueMark (l : Layout) : Step := do
  match l.candidate? with
  | some k =>
    let l := l.withoutCandidate
    let l := { l with tokens := l.tokens.insertIdxIfInBounds k.tokenIndex .key, allowsKey := false }
    let l := if l.inFlow then l else l.openBlock k.column .blockMappingStart k.tokenIndex
    return l.take .value 1
  | none =>
    let l ← l.markedBlock .blockMappingStart
    let l ← { l with allowsKey := !l.inFlow }.dropCandidate
    return l.take .value 1

/-- Something that may begin a key, read from here. -/
def content (l : Layout) (read : Cursor → Except Fault (Token × Cursor)) : Step := do
  let l ← l.saveCandidate
  let (t, c) ← read l.cursor
  return { l.push t with cursor := c, allowsKey := false }

def block (l : Layout) (isFolded : Bool) : Step := do
  let l ← { l with allowsKey := true }.dropCandidate
  let (ps, c) ← blockScalar isFolded l.indent l.cursor
  return { l.push (.scalar ⟨ps⟩ false) with cursor := c }

def quoted (l : Layout) (double : Bool) : Step :=
  l.content fun c => do
    let (ps, c) ← quotedScalar double c
    return (.scalar ⟨ps⟩ false, c)

def plain (l : Layout) : Step := do
  let l ← l.saveCandidate
  let s := plainScalar l.inFlow (l.indent + 1) l.cursor
  return { l.push (.scalar ⟨s.text⟩ true) with cursor := s.cursor, allowsKey := s.broken }

/-- Whether a plain scalar may begin with the next code point. -/
def startsPlain (l : Layout) : Bool :=
  let p := l.cursor.peek
  if isGap p then false
  else if isOneOf "-?:,[]\x7b\x7d#&*!|>'\"%@\x60" p then
    !isGap (l.cursor.peekAt 1)
      && (isOneOf "-" p || (!l.inFlow && isOneOf "?:" p))
  else true

/-- Reads the next token, or the one that is refused if there is none. -/
def token (l : Layout) (p : CodePoint) : Step :=
  let c := l.cursor
  let marks := l.inFlow || isGap (c.peekAt 1)
  if p.is '%' && c.column = 0 then l.directive
  else if c.column = 0 && c.seesMarker "---" then l.documentMark .documentStart
  else if c.column = 0 && c.seesMarker "..." then l.documentMark .documentEnd
  else if p.is '[' then l.openBracket .flowSequenceStart
  else if p.is '\x7b' then l.openBracket .flowMappingStart
  else if p.is ']' then l.closeBracket .flowSequenceEnd
  else if p.is '\x7d' then l.closeBracket .flowMappingEnd
  else if p.is ',' then l.flowEntry
  else if p.is '-' && isGap (c.peekAt 1) then l.blockEntry
  else if p.is '?' && marks then l.keyMark
  else if p.is ':' && marks then l.valueMark
  else if p.is '*' then l.content fun c => do
    let (n, c) ← nameOf c
    return (.alias n, c)
  else if p.is '&' then l.content fun c => do
    let (n, c) ← nameOf c
    return (.anchor n, c)
  else if p.is '!' then l.content tagToken
  else if p.is '|' && !l.inFlow then l.block false
  else if p.is '>' && !l.inFlow then l.block true
  else if p.is '\'' then l.quoted false
  else if p.is '"' then l.quoted true
  else if l.startsPlain then l.plain
  else .error .malformed

/-- Ends the text. -/
def finish (l : Layout) : Step := (l.unwind (-1)).dropCandidate

/-- Reads at most a number of tokens: those before the end or the first fault. -/
def read : Nat → Layout → Array Token × Option Fault
  | 0, l => (l.tokens, some .malformed)
  | n + 1, l =>
    match (skipBlanks (l.cursor.rest.length + 1) l).dropStale with
    | .error f => (l.tokens, some f)
    | .ok l =>
      let l := l.unwind l.cursor.column
      match l.cursor.peek with
      | none => match l.finish with
        | .error f => (l.tokens, some f)
        | .ok l => (l.tokens, none)
      | some p => match l.token p with
        | .error f => (l.tokens, some f)
        | .ok l => read n l

end Layout

/-- The tokens of a text, and the fault that ends them, if one does. -/
def tokens (t : Text) : List Token × Option Fault :=
  if !t.points.all isPrintable then ([], some .malformed)
  else
    let start := match t.points with
      | p :: rest => if p.is '\uFEFF' then { rest, index := 1 : Cursor } else { rest := t.points }
      | [] => { rest := [] }
    let (ts, fault) := Layout.read (t.length + 1) { cursor := start }
    (ts.toList, fault)

end GuardedTools.Yaml
