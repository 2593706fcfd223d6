import GuardedTools.Text.Utf8
import GuardedTools.Yaml.Cursor

/-!
# Tokens and marks of YAML

What a YAML text is made of.  The blocks that indentation forms have tokens for their beginning and
end, and every key has a token before it, whether or not a question mark is written.

Marks are the tokens that are no scalars and hold text: directives, anchors, aliases and tags.
-/

namespace GuardedTools.Yaml

/-- A tag as it is written: the handle, if there is one, and what follows it. -/
structure WrittenTag where
  handle : Option Text
  suffix : Text
deriving DecidableEq, Inhabited, Repr

/-- A token. -/
inductive Token where
  | versionDirective (major : Nat)
  | tagDirective (handle start : Text)
  | otherDirective
  | documentStart
  | documentEnd
  | blockSequenceStart
  | blockMappingStart
  | blockEnd
  | flowSequenceStart
  | flowSequenceEnd
  | flowMappingStart
  | flowMappingEnd
  | blockEntry
  | flowEntry
  | key
  | value
  | alias (name : Text)
  | anchor (name : Text)
  | tag (written : WrittenTag)
  /-- A scalar, and whether it stands without quotes or other marks. -/
  | scalar (text : Text) (plain : Bool)
deriving DecidableEq, Inhabited, Repr

/-! ### Tags -/

/-- The code points of a tag, apart from escapes. -/
def isTagPoint (p : CodePoint) : Bool :=
  p.isLetter || p.isDigit || isOneOf "-;/?:@&=+$,_.!~*'()[]" (some p)

/-- The bytes that escapes with percent signs stand for, and the place after them. -/
def escapedBytes : Nat → Cursor → Except Fault (List UInt8 × Cursor)
  | 0, c => .ok ([], c)
  | n + 1, c =>
    if !c.sees '%' then .ok ([], c)
    else match (c.peekAt 1).bind (·.hexValue?), (c.peekAt 2).bind (·.hexValue?) with
      | some a, some b => do
        let (rest, c) ← escapedBytes n (c.skip 3)
        return ((16 * a + b).toUInt8 :: rest, c)
      | _, _ => .error .malformed

/-- The text of a tag, which is not empty; at most a number of pieces are read. -/
def tagTextUpTo : Nat → Cursor → Except Fault (List CodePoint × Cursor)
  | 0, c => .ok ([], c)
  | n + 1, c => do
    let (piece, c) := c.takeWhile isTagPoint
    if c.sees '%' then
      let (bytes, c) ← escapedBytes (c.rest.length + 1) c
      match Utf8.decode bytes with
      | .error _ => throw .malformed
      | .ok t =>
        let (rest, c) ← tagTextUpTo n c
        return (piece ++ t.points ++ rest, c)
    else return (piece, c)

/-- The text of a tag. -/
def tagText (c : Cursor) : Except Fault (Text × Cursor) := do
  let (ps, after) ← tagTextUpTo (c.rest.length + 1) c
  if after.index = c.index then throw .malformed
  return (⟨ps⟩, after)

/-- The handle of a tag: a name between exclamation marks, or one such mark before a space. -/
def tagHandle (c : Cursor) : Except Fault (Text × Cursor) :=
  if !c.sees '!' then .error .malformed
  else if (c.peekAt 1).any (·.is ' ') then .ok ("!", c.next)
  else
    let (name, after) := c.next.takeWhile isNamePoint
    if after.sees '!' then .ok (⟨.scalar '!' :: name ++ [.scalar '!']⟩, after.next)
    else .error .malformed

/-- Whether a second exclamation mark stands in a tag. -/
def hasHandle (c : Cursor) : Bool :=
  (c.next.rest.takeWhile fun p => !endsWord (some p)).any (·.is '!')

/-- A tag, from its mark on. -/
def tagToken (c : Cursor) : Except Fault (Token × Cursor) := do
  let (written, c) ←
    if (c.peekAt 1).any (·.is '<') then do
      let (suffix, c) ← tagText (c.skip 2)
      if !c.sees '>' then throw .malformed
      pure ({ handle := none, suffix : WrittenTag }, c.next)
    else if isGap (c.peekAt 1) then pure ({ handle := none, suffix := "!" : WrittenTag }, c.next)
    else if hasHandle c then do
      let (handle, c) ← tagHandle c
      let (suffix, c) ← tagText c
      pure ({ handle := some handle, suffix : WrittenTag }, c)
    else do
      let (suffix, c) ← tagText c.next
      pure ({ handle := some "!", suffix : WrittenTag }, c)
  if !endsWord c.peek then throw .malformed
  return (.tag written, c)

/-! ### Anchors and aliases -/

/-- The name of an anchor or an alias, from its mark on. -/
def nameOf (c : Cursor) : Except Fault (Text × Cursor) := do
  let (name, c) := c.next.takeWhile isNamePoint
  if name.isEmpty || !(isGap c.peek || isOneOf "?:,]\x7d%@\x60" c.peek) then throw .malformed
  return (⟨name⟩, c)

/-! ### Directives -/

/-- The digits of a version. -/
def versionNumber (c : Cursor) : Except Fault (Nat × Cursor) := do
  let (digits, c) := c.takeWhile CodePoint.isDigit
  if digits.isEmpty then throw .malformed
  if 4300 < digits.length then throw (.tooManyDigits digits.length)
  return (Text.digitsToNat digits, c)

/-- What a directive says, from after its name on. -/
def directiveOf (name : Text) (c : Cursor) : Except Fault (Token × Cursor) := do
  if name = "YAML" then
    let (major, c) ← versionNumber c.skipSpaces
    if !c.sees '.' then throw .malformed
    let (_, c) ← versionNumber c.next
    if !endsWord c.peek then throw .malformed
    return (.versionDirective major, c)
  else if name = "TAG" then
    let (handle, c) ← tagHandle c.skipSpaces
    if !c.sees ' ' then throw .malformed
    let (start, c) ← tagText c.skipSpaces
    if !endsWord c.peek then throw .malformed
    return (.tagDirective handle start, c)
  else return (.otherDirective, c.skipLine)

/-- A directive, from its mark on, with the rest of its line. -/
def directiveToken (c : Cursor) : Except Fault (Token × Cursor) := do
  let (name, c) := c.next.takeWhile isNamePoint
  if name.isEmpty || !endsWord c.peek then throw .malformed
  let (token, c) ← directiveOf ⟨name⟩ c
  let c := c.skipSpaces.skipComment
  if !endsLine c.peek then throw .malformed
  return (token, c.skipBreak)

end GuardedTools.Yaml
