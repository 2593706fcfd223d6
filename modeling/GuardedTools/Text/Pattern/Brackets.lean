import GuardedTools.Text.Pattern.Escape

/-!
# Sets in brackets

A set in brackets lists characters, ranges, escaped and named sets, and further sets in brackets;
two lists may be joined by what is in both, in one alone, or in exactly one.  A set that is not
closed is blamed at the brackets that open the innermost one.
-/

namespace GuardedTools

/-- A part of a set, and its place. -/
structure SetPart where
  term : SetTerm
  place : Extent

/-- What was read at the beginning of a set in brackets. -/
structure SetOpening where
  start : Nat
  others : Bool
  /-- The fault of the set if nothing closes it. -/
  unclosed : PatternFault

namespace SetOpening

/-- Reads hyphens, which stand for themselves at the beginning of a set. -/
def hyphens (start : Nat) : Nat → List SetPart → Source →
    Except PatternFault (List SetPart × Source)
  | 0, parts, s => .ok (parts, s)
  | fuel + 1, parts, s =>
    if s.hasNext "-" then do
      let place := (s.skip 1).placeFrom s.position
      let after := s.advance
      if after.isEmpty then
        throw { problem := .unclosedSet, place := { start, stop := start } }
      hyphens start fuel (⟨.literal { point := '-', place }, place⟩ :: parts) after
    else .ok (parts, s)

/-- Reads the beginning of a set, of which the bracket is next, and the characters that stand for
themselves there. -/
def read (s : Source) : Except PatternFault ((SetOpening × List SetPart) × Source) := do
  let start := s.position
  let goOn (s : Source) : Except PatternFault Source :=
    let after := s.advance
    if after.isEmpty then .error (after.fault .unclosedSet start) else .ok after
  let s ← goOn s
  let others := s.hasNext "^"
  let s ← if others then goOn s else pure s
  let (parts, s) ← hyphens start s.rest.length [] s
  let (parts, s) ←
    if parts.isEmpty && s.hasNext "]" then do
      let place := (s.skip 1).placeFrom s.position
      pure ([SetPart.mk (.literal { point := ']', place }) place], ← goOn s)
    else pure (parts, s)
  return (({ start, others, unclosed := s.fault .unclosedSet start }, parts), s)

end SetOpening

namespace SetTerm

/-- The named sets that may stand within brackets. -/
def namedSets : List (Text × PointSet) :=
  let letters : PointSet := PointSet.range 65 90 ∪ PointSet.range 97 122
  let alnum : PointSet := letters ∪ PointSet.range 48 57
  [("alnum", alnum), ("alpha", letters), ("ascii", .range 0 127),
    ("blank", PointSet.range 9 9 ∪ PointSet.range 32 32),
    ("cntrl", PointSet.range 0 31 ∪ PointSet.range 127 127), ("digit", .range 48 57),
    ("graph", .range 33 126), ("lower", .range 97 122), ("print", .range 32 126),
    ("punct", PointSet.range 33 126 \ alnum),
    ("space", PointSet.range 9 13 ∪ PointSet.range 32 32), ("upper", .range 65 90),
    ("word", alnum ∪ PointSet.range 95 95),
    ("xdigit", PointSet.range 48 57 ∪ PointSet.range 65 70 ∪ PointSet.range 97 102)]

/-- A named set that is next, such as `[:alpha:]` or, without its members, `[:^alpha:]`. -/
def named? (s : Source) : Option (SetPart × Source) :=
  if !s.hasNext "[:" then none
  else
    let start := s.position
    let s := s.skip 2
    let others := s.hasNext "^"
    let s := if others then s.skip 1 else s
    let name := s.rest.takeWhile (!·.is ':')
    let after := s.skip name.length
    if !after.hasNext ":]" then none
    else (namedSets.find? fun n => n.1.points == name).map fun n =>
      let after := after.skip 2
      let place := after.placeFrom start
      (⟨.ascii n.2 others place, place⟩, after)

/-- The parts of a list as one part; the position is where the list began. -/
def listed (parts : List SetPart) (position : Nat) : SetPart :=
  match parts with
  | [] => ⟨.nothing, { start := position, stop := position }⟩
  | [p] => p
  | last :: before =>
    let first := (before.getLast?.getD last).place.start
    let place : Extent := { start := first, stop := last.place.stop }
    ⟨.level place (before.foldl (fun t p => .either p.term t) last.term), place⟩

/-- The parts on the left of a joint, joined with those on the right of it. -/
def joinedTo (left : Option (Joint × SetPart)) (right : SetPart) : SetPart :=
  match left with
  | none => right
  | some (j, p) =>
    let place : Extent := { start := p.place.start, stop := right.place.stop }
    ⟨.level place (.joined j p.term right.term), place⟩

/-- The joint that is next. -/
def joint? (s : Source) : Option Joint :=
  if s.hasNext "&&" then some .intersection
  else if s.hasNext "--" then some .difference
  else if s.hasNext "~~" then some .symmetric
  else none

/-- Reads a character or an escape sequence, with its place. -/
def item (s : Source) : Except PatternFault ((Escape × Extent) × Source) := do
  let start := s.position
  match s.next? with
  | none => throw (s.faultHere .unclosedSet)
  | some p =>
    if p.is '\\' then
      let (e, s) ← Escape.read s
      return ((e, s.placeFrom start), s)
    else
      let after := s.skip 1
      let place := after.placeFrom start
      return ((.literal { point := p, place }, place), after)

/-- The character that bounds a range. -/
def boundOf (e : Escape) (place : Extent) : Except PatternFault WrittenPoint :=
  match e with
  | .literal p => .ok p
  | _ => .error { problem := .rangeOfSets, place }

/-- Reads a character, an escape sequence or a range. -/
def part (unclosed : PatternFault) (s : Source) : Except PatternFault (SetPart × Source) := do
  let ((first, place), s) ← item s
  let s := s.unspaced
  if s.isEmpty then throw unclosed
  let isAlone := !s.hasNext "-" || s.second?.any fun p => p.is ']' || p.is '-'
  if isAlone then
    match first with
    | .literal p => return (⟨.literal p, place⟩, s)
    | .set t => return (⟨t, place⟩, s)
    | .edge _ => throw { problem := .setEscape, place }
  else
    let s := s.advance
    if s.isEmpty then throw unclosed
    let ((last, lastPlace), s) ← item s
    let low ← boundOf first place
    let high ← boundOf last lastPlace
    let whole : Extent := { start := place.start, stop := lastPlace.stop }
    if high.point.toNat < low.point.toNat then throw { problem := .invalidRange, place := whole }
    return (⟨.range low high, whole⟩, s)

/-- Reads what is left of a set in brackets.  The arguments are a bound of the steps, what was read
before the last joint, the position where the list behind it began, and the parts of that list. -/
def rest (o : SetOpening) : Nat → Option (Joint × SetPart) → Nat → List SetPart → Source →
    Except PatternFault (SetPart × Source)
  | 0, _, _, _, _ => .error o.unclosed
  | fuel + 1, left, position, parts, s => do
    let s := s.unspaced
    if s.isEmpty then throw o.unclosed
    if s.hasNext "]" then
      let whole := joinedTo left (listed parts position)
      let after := s.skip 1
      let place := after.placeFrom o.start
      return (⟨.level place (.bracketed whole.term o.others place), place⟩, after)
    else if s.hasNext "[" then
      match named? s with
      | some (p, s) => rest o fuel left position (p :: parts) s
      | none =>
        let ((inner, first), s) ← SetOpening.read s
        let (p, s) ← rest inner fuel none s.position first s
        rest o fuel left position (p :: parts) s
    else match joint? s with
      | some j =>
        let after := s.skip 2
        rest o fuel (some (j, joinedTo left (listed parts position))) after.position [] after
      | none =>
        let (p, s) ← part o.unclosed s
        rest o fuel left position (p :: parts) s

/-- Reads a set in brackets, of which the opening one is next. -/
def read (s : Source) : Except PatternFault (SetTerm × Source) := do
  let ((o, parts), s) ← SetOpening.read s
  let (p, s) ← rest o (s.rest.length + 1) none s.position parts s
  return (p.term, s)

end SetTerm

end GuardedTools
