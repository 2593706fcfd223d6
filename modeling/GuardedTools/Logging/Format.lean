import GuardedTools.Text.Word

/-!
# Formats of log lines

How the line of a log event is written: a text with fields in one of three styles.  A format is
valid if its fields are well formed and there is at least one (`FormatStyle.accepts`).
-/

namespace GuardedTools

/-- How fields are marked in a format. -/
inductive FormatStyle where
  /-- A percent sign, the name in parentheses and a conversion. -/
  | percent
  /-- The name in braces. -/
  | brace
  /-- A dollar sign before the name. -/
  | dollar
deriving DecidableEq, Inhabited, Repr

namespace FormatStyle

/-- The style of a mark. -/
def ofMark? (t : Text) : Option FormatStyle :=
  if t = "%" then some percent
  else if t = "\x7b" then some brace
  else if t = "$" then some dollar
  else none

/-- A code point that is one of some characters. -/
def isOneOf (cs : String) (p : CodePoint) : Bool := cs.toList.any p.is

/-- What is left after one code point of a class, if there is one. -/
def skipOne (test : CodePoint → Bool) : List CodePoint → List CodePoint
  | [] => []
  | p :: ps => if test p then ps else p :: ps

/-- Code points that may stand in names. -/
def isWordPoint (p : CodePoint) : Bool := p.isWord

/-! ### Percent signs -/

/-- What is left after a number or an asterisk. -/
def skipWidth (ps : List CodePoint) : List CodePoint :=
  match ps with
  | p :: rest => if p.is '*' then rest else ps.dropWhile CodePoint.isDigit
  | [] => []

/-- What is left after a point and a width. -/
def skipPrecision (ps : List CodePoint) : List CodePoint :=
  match ps with
  | p :: q :: rest =>
    if p.is '.' && (q.is '*' || q.isDigit) then skipWidth (q :: rest) else ps
  | _ => ps

/-- Whether a field stands at the head, behind its percent sign. -/
def percentField (ps : List CodePoint) : Bool :=
  match ps with
  | p :: rest =>
    let name := rest.takeWhile isWordPoint
    match rest.dropWhile isWordPoint with
    | q :: rest =>
      let spec := skipPrecision (skipWidth (rest.dropWhile (isOneOf "#0+ -")))
      p.is '(' && !name.isEmpty && q.is ')'
        && spec.head?.any (isOneOf "diouxefgcrsaDIOUXEFGCRSA%")
    | [] => false
  | [] => false

/-- Whether a field stands anywhere. -/
def hasPercentField : List CodePoint → Bool
  | [] => false
  | p :: ps => (p.is '%' && percentField ps) || hasPercentField ps

/-! ### Dollar signs -/

/-- Letters that a name may begin with, or all that it may hold. -/
def isNameStart (p : CodePoint) : Bool := p.isLetter || p.is '_'

def isNamePoint (p : CodePoint) : Bool := isNameStart p || p.isDigit

/-- What is left after a name at the head. -/
def afterName? (ps : List CodePoint) : Option (List CodePoint) :=
  if ps.head?.any isNameStart then some (ps.dropWhile isNamePoint) else none

/-- What is left after a field behind its dollar sign, with or without braces. -/
def afterDollarField? (ps : List CodePoint) : Option (List CodePoint) :=
  match afterName? ps with
  | some rest => some rest
  | none => match ps with
    | p :: rest =>
      if p.is '\x7b' then
        match afterName? rest with
        | some (q :: rest) => if q.is '\x7d' then some rest else none
        | _ => none
      else none
    | [] => none

/-- The number of fields, unless a dollar sign stands alone; the first argument bounds how many
code points are looked at. -/
def dollarFields? : Nat → List CodePoint → Option Nat
  | 0, _ => some 0
  | _, [] => some 0
  | n + 1, p :: ps =>
    if !p.is '$' then dollarFields? n ps
    else match ps with
      | q :: rest =>
        if q.is '$' then dollarFields? n rest
        else (afterDollarField? ps).bind fun rest => (dollarFields? n rest).map (· + 1)
      | [] => none

/-! ### Braces -/

/-- What is left after a part of a name of a field: an attribute or an index. -/
def afterPart? (ps : List CodePoint) : Option (List CodePoint) :=
  match ps with
  | p :: rest =>
    if p.is '.' then
      if rest.head?.any isWordPoint then some (rest.dropWhile isWordPoint) else none
    else if p.is '[' then
      match rest.dropWhile (!·.is ']') with
      | _ :: left => if rest.head?.any (!·.is ']') then some left else none
      | [] => none
    else none
  | [] => none

/-- Whether parts follow one another to the end; the first argument bounds how many. -/
def areParts : Nat → List CodePoint → Bool
  | _, [] => true
  | 0, _ => false
  | n + 1, ps => match afterPart? ps with
    | some rest => areParts n rest
    | none => false

/-- Whether a name of a field is one: a word with parts after it. -/
def isFieldName (ps : List CodePoint) : Bool :=
  ps.head?.any isWordPoint && areParts ps.length (ps.dropWhile isWordPoint)

/-- What is left after a number, or a field in braces that stands for one. -/
def skipNumber (ps : List CodePoint) : List CodePoint :=
  match ps with
  | p :: rest =>
    if p.is '\x7b' then
      match rest.dropWhile isWordPoint with
      | q :: left => if q.is '\x7d' && rest.head?.any isWordPoint then left else ps
      | [] => ps
    else ps.dropWhile CodePoint.isDigit
  | [] => []

/-- What is left after an alignment and the code point that fills. -/
def skipAlignment (ps : List CodePoint) : List CodePoint :=
  match ps with
  | _ :: q :: rest => if isOneOf "<=>^" q then rest else skipOne (isOneOf "<=>^") ps
  | ps => skipOne (isOneOf "<=>^") ps

/-- Whether a specification of a field is one. -/
def isSpec (ps : List CodePoint) : Bool :=
  let ps := skipOne (·.is '0') (skipOne (·.is '#') (skipOne (isOneOf "+ -") (skipAlignment ps)))
  let ps := skipOne (isOneOf ",_") (skipNumber ps)
  let ps := match ps with
    | p :: rest =>
      if p.is '.' && (skipNumber rest).length < rest.length then skipNumber rest else ps
    | [] => []
  (skipOne (isOneOf "bcdefgnosx%") ps).isEmpty

/-- What stands up to the brace that closes a field, and what is left after it; `depth` is the
number of braces that are open inside. -/
def splitField? (depth : Nat) : List CodePoint → Option (List CodePoint × List CodePoint)
  | [] => none
  | p :: ps =>
    if p.is '\x7d' then
      match depth with
      | 0 => some ([], ps)
      | depth + 1 => (splitField? depth ps).map fun (inside, rest) => (p :: inside, rest)
    else (splitField? (if p.is '\x7b' then depth + 1 else depth) ps).map
      fun (inside, rest) => (p :: inside, rest)

/-- Whether a conversion, and a specification behind it, are well formed. -/
def isTail (ps : List CodePoint) : Bool :=
  match ps with
  | [] => true
  | p :: rest =>
    if p.is ':' then isSpec rest
    else match rest with
      | [q] => p.is '!' && isOneOf "rsa" q
      | q :: r :: spec => p.is '!' && isOneOf "rsa" q && r.is ':' && isSpec spec
      | [] => false

/-- Whether the inside of a pair of braces is well formed, and whether it names a field. -/
def braceField? (ps : List CodePoint) : Option Bool :=
  let isMark (p : CodePoint) : Bool := p.is '!' || p.is ':'
  let name := ps.takeWhile (!isMark ·)
  if (name.isEmpty || isFieldName name) && isTail (ps.dropWhile (!isMark ·)) then
    some (!name.isEmpty)
  else none

/-- The number of fields that are named, unless something is malformed; the first argument bounds
how many code points are looked at. -/
def braceFields? : Nat → List CodePoint → Option Nat
  | 0, _ => some 0
  | _, [] => some 0
  | n + 1, p :: ps =>
    if p.is '\x7b' then
      if ps.head?.any (·.is '\x7b') then braceFields? n (ps.drop 1)
      else do
        let (inside, rest) ← splitField? 0 ps
        let isNamed ← braceField? inside
        let count ← braceFields? n rest
        return if isNamed then count + 1 else count
    else if p.is '\x7d' then
      if ps.head?.any (·.is '\x7d') then braceFields? n (ps.drop 1) else none
    else braceFields? n ps

/-- Whether a text is a format of a style. -/
def accepts (s : FormatStyle) (format : Text) : Bool :=
  match s with
  | percent => hasPercentField format.points
  | brace => (braceFields? format.length format.points).any (0 < ·)
  | dollar => (dollarFields? format.length format.points).any (0 < ·)

end FormatStyle

end GuardedTools
