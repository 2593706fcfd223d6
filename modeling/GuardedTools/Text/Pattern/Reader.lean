import GuardedTools.Text.Pattern.Brackets

/-!
# Reading patterns

The notation of regular expressions: characters, sets in brackets, groups, alternatives,
repetitions, conditions on positions, and settings that hold from where they are made to the end of
the group.  References to what a group matched and conditions on what stands ahead or behind are
not part of it.

`PatternTerm.read` refuses a text at the first place that does not fit.  The readers of groups and
sets are bounded by an explicit number of steps, of which the length of the text is enough.
-/

namespace GuardedTools

namespace PatternTerm

/-- What has been read of a group. -/
structure Reading where
  /-- Where the first alternative begins. -/
  begun : Nat
  /-- The alternatives that are complete, the last one first. -/
  alternatives : List PatternTerm := []
  /-- Where the present alternative begins. -/
  start : Nat
  /-- The parts of the present alternative with their beginnings, the last one first. -/
  parts : List (PatternTerm × Nat) := []

namespace Reading

def beginning (position : Nat) : Reading := { begun := position, start := position }

/-- The present alternative as a whole, if it stops here. -/
def alternative (r : Reading) (stop : Nat) : PatternTerm :=
  match r.parts with
  | [] => .empty
  | [(a, _)] => a
  | (last, _) :: before =>
    .level { start := r.start, stop } (before.foldl (fun b p => .sequence p.1 b) last)

/-- All alternatives, if the group stops here. -/
def whole (r : Reading) (stop : Nat) : PatternTerm :=
  let last := r.alternative stop
  match r.alternatives with
  | [] => last
  | before => .level { start := r.begun, stop } (before.foldl (fun b a => .either a b) last)

/-- With one more part. -/
def adding (r : Reading) (a : PatternTerm) (start : Nat) : Reading :=
  { r with parts := (a, start) :: r.parts }

/-- With the last part repeated, up to a position. -/
def repeating (r : Reading) (least : Nat) (most : Option Nat) (stop : Nat) : Reading :=
  match r.parts with
  | (a, start) :: before =>
    { r with parts := (.level { start, stop } (.repeated least most a), start) :: before }
  | [] => r

/-- Whether there is a part that can be repeated. -/
def hasOperand (r : Reading) : Bool :=
  match r.parts with
  | (.setting _, _) :: _ => false
  | _ :: _ => true
  | [] => false

end Reading

/-- The largest number that a count may be. -/
def countBound : Nat := 4294967295

/-- Reads a number of repetitions.  What is left is known even if there is no such number. -/
def count (s : Source) : Except PatternFault Nat × Source :=
  let s := s.skipAll isPatternBlank
  let (digits, after) := digitsOf s.rest.length s
  let left := after.skipAll isPatternBlank
  let n := Text.digitsToNat digits
  if digits.isEmpty then (.error (after.fault .emptyCount s.position), left)
  else if countBound < n then (.error (after.fault .largeCount s.position), left)
  else (.ok n, left)
where
  /-- Reads digits. -/
  digitsOf : Nat → Source → List CodePoint × Source
    | 0, s => ([], s)
    | fuel + 1, s => match s.next? with
      | some p =>
        if p.isDigit then
          let (ps, s) := digitsOf fuel s.advance
          (p :: ps, s)
        else ([], s)
      | none => ([], s)

/-- What is left after a mark that says which of several matches is meant. -/
def skipChoice (s : Source) : Source := if s.hasNext "?" then s.skip 1 else s

/-- Reads the least and the most number of repetitions in braces, of which the opening one is
next. -/
def counts (s : Source) : Except PatternFault ((Nat × Option Nat) × Source) := do
  let start := s.position
  let s := s.advance
  if s.isEmpty then throw (s.fault .unclosedCount start)
  let (least?, s) := count s
  if s.isEmpty then throw (s.fault .unclosedCount start)
  let (least, most, s) ←
    if s.hasNext "," then do
      let s := s.advance
      if s.isEmpty then throw (s.fault .unclosedCount start)
      let least ← least?
      if s.hasNext "\x7d" then pure (least, none, s)
      else do
        let (most?, s) := count s
        pure (least, some (← most?), s)
    else do
      let least ← least?
      pure (least, some least, s)
  if !s.hasNext "\x7d" then throw (s.fault .unclosedCount start)
  let s := skipChoice s.advance
  if most.any (· < least) then throw (s.fault .invalidCount start)
  return ((least, most), s)

/-- The setting that a letter stands for. -/
def settingOf? (p : CodePoint) : Option Setting :=
  [('i', Setting.anyCase), ('m', .lines), ('s', .breaks), ('U', .lazy), ('u', .unicode),
    ('R', .returns), ('x', .spaced)].findSome? fun (c, o) => if p.is c then some o else none

/-- What was read of settings: each with its place and whether it is made or taken back, the place
of the hyphen before those that are taken back, and whether nothing follows it yet. -/
structure SettingsRead where
  settings : List (Setting × Bool × Extent) := []
  hyphen : Option Extent := none
  isDangling : Bool := false

/-- Reads settings up to the character that ends them. -/
def settings (r : SettingsRead) : Nat → Source → Except PatternFault (SettingsRead × Source)
  | 0, s => .error (s.faultHere .missingSetting)
  | fuel + 1, s => match s.next? with
    | none => .error (s.faultHere .missingSetting)
    | some p =>
      let after := s.skip 1
      let place := after.placeFrom s.position
      if p.is ':' || p.is ')' then
        match r.hyphen with
        | some place =>
          if r.isDangling then .error { problem := .danglingNegation, place } else .ok (r, s)
        | none => .ok (r, s)
      else if p.is '-' then
        match r.hyphen with
        | some before => .error { problem := .repeatedNegation, place, repeats := some before }
        | none => settings { r with hyphen := some place, isDangling := true } fuel after
      else match settingOf? p with
        | none => .error { problem := .unknownSetting, place }
        | some o => match r.settings.find? (·.1 == o) with
          | some (_, _, before) =>
            .error { problem := .repeatedSetting, place, repeats := some before }
          | none =>
            settings { r with
              settings := r.settings ++ [(o, r.hyphen.isNone, place)], isDangling := false }
              fuel after

/-- Whether a character may be in the name of a group; some may not begin it. -/
def isGroupName (isFirst : Bool) (p : CodePoint) : Bool :=
  p.is '_' || BinaryProperty.alphabeticSet.holds p
    || (!isFirst && (p.is '.' || p.is '[' || p.is ']' || groupNumbers.holds p))
where
  groupNumbers : PointSet := Category.setOfAll Category.numbers

/-- Reads the name of a group and the bracket that closes it. -/
def groupName (s : Source) : Except PatternFault Source :=
  let name := s.rest.takeWhile (!·.is '>')
  let after := s.skip name.length
  match name.zipIdx.find? fun (p, i) => !isGroupName (i == 0) p with
  | some (_, i) => .error ((s.skip i).faultOfNext .invalidGroupName)
  | none =>
    if after.isEmpty then .error (after.faultHere .unclosedGroupName)
    else if name.isEmpty then .error (s.faultHere .emptyGroupName)
    else
      let place := after.placeFrom s.position
      match s.names.find? (·.1 == Text.mk name) with
      | some (_, before) =>
        .error { problem := .repeatedGroupName, place, repeats := some before }
      | none => .ok { after.skip 1 with names := (⟨name⟩, place) :: s.names }

/-- What begins with an opening parenthesis. -/
inductive Opening where
  | group (isKept : Bool) (settings : List (Setting × Bool))
  | setting (settings : List (Setting × Bool))

/-- Reads what stands between an opening parenthesis and the content of the group. -/
def opening (s : Source) : Except PatternFault (Opening × Source) := do
  let start := s.position
  let s := s.advance
  let around : List Text := ["?=", "?!", "?<=", "?<!"]
  match around.find? fun t => s.hasNext t with
  | some t => throw ((s.skip t.length).fault .lookAround start)
  | none =>
    if s.hasNext "?P<" then return (.group true [], ← groupName (s.skip 3))
    else if s.hasNext "?<" then return (.group true [], ← groupName (s.skip 2))
    else if s.hasNext "?" then
      let operator := s
      let s := s.skip 1
      if s.isEmpty then throw { problem := .unclosedGroup, place := { start, stop := start + 1 } }
      let (r, s) ← settings {} (s.rest.length + 1) s
      let made := r.settings.map fun (o, isMade, _) => (o, isMade)
      if s.hasNext ")" then
        if made.isEmpty then throw (operator.faultHere .noOperand)
        return (.setting made, s.skip 1)
      return (.group false made, s.skip 1)
    else return (.group true [], s)

/-- What is left with blanks and comments as settings have them. -/
def spacedBy (settings : List (Setting × Bool)) (s : Source) : Source :=
  match settings.find? (·.1 == .spaced) with
  | some (_, isMade) => { s with spaced := isMade }
  | none => s

/-- Reads a part that is no group and no repetition. -/
def part (p : CodePoint) (s : Source) : Except PatternFault (PatternTerm × Source) := do
  let after := s.skip 1
  let place := after.placeFrom s.position
  if p.is '[' then
    let (t, s) ← SetTerm.read s
    return (.set t, s)
  else if p.is '\\' then
    match ← Escape.read s with
    | (.literal p, s) => return (.literal p, s)
    | (.set t, s) => return (.set t, s)
    | (.edge e, s) => return (.edge e, s)
  else if p.is '.' then return (.any place, after)
  else if p.is '^' then return (.edge .lineStart, after)
  else if p.is '$' then return (.edge .lineEnd, after)
  else return (.literal { point := p, place }, after)

/-- Reads the content of a group up to a closing parenthesis or the end of the text. -/
def content : Nat → Reading → Source → Except PatternFault (PatternTerm × Source)
  | 0, _, s => .error (s.faultOfNext .unclosedGroup)
  | fuel + 1, r, s => do
    let s := s.unspaced
    let start := s.position
    match s.next? with
    | none => return (r.whole start, s)
    | some p =>
      if p.is ')' then return (r.whole start, s)
      else if p.is '|' then
        let after := s.skip 1
        content fuel { r with
          alternatives := r.alternative start :: r.alternatives
          start := after.position
          parts := [] } after
      else if p.is '(' then
        match ← opening s with
        | (.setting made, s) => content fuel (r.adding (.setting made) start) (spacedBy made s)
        | (.group isKept made, after) =>
          let inner := spacedBy made after
          let (a, inner) ← content fuel (.beginning inner.position) inner
          if inner.isEmpty then
            throw { problem := .unclosedGroup, place := { start, stop := start + 1 } }
          let after := { inner.skip 1 with spaced := s.spaced }
          let level := PatternTerm.level (after.placeFrom start) (.group isKept made a)
          content fuel (r.adding level start) after
      else if p.is '*' || p.is '+' || p.is '?' then
        if !r.hasOperand then throw (s.faultHere .noOperand)
        let after := skipChoice (s.skip 1)
        let least := if p.is '+' then 1 else 0
        let most := if p.is '?' then some 1 else none
        content fuel (r.repeating least most after.position) after
      else if p.is '{' then
        if !r.hasOperand then throw (s.faultHere .noOperand)
        let ((least, most), after) ← counts s
        content fuel (r.repeating least most after.position) after
      else
        let (a, after) ← part p s
        content fuel (r.adding a start) after

/-- Reads a text as a pattern. -/
def read (t : Text) : Except PatternFault PatternTerm := do
  let (a, s) ← content (t.length + 1) (.beginning 0) { rest := t.points }
  if !s.isEmpty then throw (s.faultOfNext .unopenedGroup)
  match a.tooDeep? 0 with
  | some place => throw { problem := .tooDeep, place }
  | none => return a

end PatternTerm

end GuardedTools
