import GuardedTools.Text.Normal
import GuardedTools.Text.Property
import GuardedTools.TypeExpr.Fault

/-!
# Terms

A type may be written as a text.  Such a text is an expression: names, texts and numbers, arguments
in brackets after a term, bars between terms, and parentheses.  `Term.read?` reads one.  It begins
in the first column; blanks, comments and, within brackets, line breaks mean nothing elsewhere.
-/

namespace GuardedTools

/-- An expression. -/
inductive Term where
  | name (n : Text)
  | text (t : Text)
  | number (n : Nat)
  | ellipsis
  | tuple (items : List Term)
  | list (items : List Term)
  | applied (head argument : Term)
  | either (a b : Term)
deriving Inhabited, Repr

namespace Term

/-- The words and signs of a term. -/
inductive Lexeme where
  | name (n : Text)
  | text (t : Text)
  | number (n : Nat)
  | ellipsis
  | sign (c : CodePoint)
  | lineEnd
deriving DecidableEq, Repr

/-- The code points beyond ASCII that a name may begin with, and those that it may have. -/
def nameStarts : PointSet := BinaryProperty.xidStart.set

def nameParts : PointSet := BinaryProperty.xidContinue.set

def isNameStart (p : CodePoint) : Bool :=
  p.isLetter || p.is '_' || (128 ≤ p.toNat && nameStarts.holds p)

def isNamePart (p : CodePoint) : Bool :=
  p.isLetter || p.isDigit || p.is '_' || (128 ≤ p.toNat && nameParts.holds p)

/-- Blanks within a line. -/
def isGap (p : CodePoint) : Bool := p.is ' ' || p.is '\t' || p.toNat = 12

def isBreak (p : CodePoint) : Bool := p.is '\n' || p.is '\r'

/-- The change of the depth of brackets that a character makes. -/
def opens (p : CodePoint) : Bool := p.is '(' || p.is '[' || p.is '\x7b'

def closes (p : CodePoint) : Bool := p.is ')' || p.is ']' || p.is '\x7d'

/-- Reads a number without a fraction: digits with single underscores between them, and no zero
before others. -/
def number? (ps : List CodePoint) : Option (Nat × List CodePoint) :=
  let digits := ps.takeWhile fun p => isNamePart p || p.is '.'
  let plain := digits.filter (!·.is '_')
  match Text.decimalDigits? digits 0 false with
  | some n =>
    if digits.all (fun p => p.isDigit || p.is '_') && (n = 0 || !(plain.head?.any (·.is '0'))) then
      some (n, ps.drop digits.length)
    else none
  | none => none

/-- The character that a letter stands for after a backslash. -/
def escaped? (p : CodePoint) : Option CodePoint :=
  [('\\', '\\'), ('\'', '\''), ('"', '"'), ('n', '\n'), ('t', '\t'), ('r', '\r')].findSome?
    fun (c, d) => if p.is c then some (.scalar d) else none

/-- The value of hexadecimal digits, if there are so many. -/
def hexDigits? (count : Nat) (ps : List CodePoint) : Option Nat :=
  (ps.take count).foldl (fun n p => do return 16 * (← n) + (← p.hexValue?))
    (if ps.length < count then none else some 0)

/-- Reads the characters of a text up to its closing quotes. -/
def quoted? (raw : Bool) (quote : List CodePoint) :
    Nat → List CodePoint → Option (List CodePoint × List CodePoint)
  | 0, _ => none
  | _, [] => none
  | fuel + 1, p :: ps =>
    if quote.isPrefixOf (p :: ps) then some ([], (p :: ps).drop quote.length)
    else if quote.length = 1 && isBreak p then none
    else if p.is '\\' then match ps with
      | [] => none
      | q :: rest =>
        if raw then (quoted? raw quote fuel rest).map fun (cs, rest) => (p :: q :: cs, rest)
        else if q.is '\n' then quoted? raw quote fuel rest
        else match escaped? q with
          | some c => (quoted? raw quote fuel rest).map fun (cs, rest) => (c :: cs, rest)
          | none =>
            let count := if q.is 'x' then 2 else if q.is 'u' then 4 else if q.is 'U' then 8 else 0
            if count = 0 then
              (quoted? raw quote fuel rest).map fun (cs, rest) => (p :: q :: cs, rest)
            else match hexDigits? count rest with
              | some n => (quoted? raw quote fuel (rest.drop count)).map fun (cs, rest) =>
                (.ofNat n :: cs, rest)
              | none => none
    else (quoted? raw quote fuel ps).map fun (cs, rest) => (p :: cs, rest)

/-- Reads a text in quotes: one or three of a kind, perhaps after a letter. -/
def text? (ps : List CodePoint) : Option (Text × List CodePoint) :=
  let (raw, body) := match ps with
    | p :: q :: rest =>
      if (p.is 'r' || p.is 'R') && (q.is '\'' || q.is '"') then (true, q :: rest)
      else if (p.is 'u' || p.is 'U') && (q.is '\'' || q.is '"') then (false, q :: rest)
      else (false, ps)
    | _ => (false, ps)
  match body with
  | q :: rest =>
    if !(q.is '\'' || q.is '"') then none
    else
      let quote := if [q, q].isPrefixOf rest then [q, q, q] else [q]
      if quote.length = 3 || !([q].isPrefixOf rest) then
        (quoted? raw quote (body.length + 1) (body.drop quote.length)).map fun (cs, rest) =>
          (⟨cs⟩, rest)
      else some (Text.empty, rest.drop 1)
  | [] => none

/-- Whether nothing is left but blank lines and comments; the last line may not be blanks alone. -/
def isFinished (ps : List CodePoint) : Bool :=
  let lines := Text.splitPointsBy isBreak ps
  let isComment (l : List CodePoint) : Bool := (l.dropWhile isGap).head?.any (·.is '#')
  lines.all (fun l => l.all isGap || isComment l)
    && (lines.getLast?.all fun l => l.isEmpty || isComment l)

/-- The lexemes of a text at a depth of brackets, none if it has characters that begin none. -/
def lexemes? (depth : Nat) : Nat → List CodePoint → Option (List Lexeme)
  | 0, _ => none
  | _, [] => some []
  | fuel + 1, p :: ps =>
    if isGap p then lexemes? depth fuel ps
    else if p.is '#' then lexemes? depth fuel (ps.dropWhile (!isBreak ·))
    else if isBreak p then
      if depth = 0 then (if isFinished ps then some [] else none) else lexemes? depth fuel ps
    else if p.is '\\' then match ps with
      | q :: r :: rest => if isBreak q then lexemes? depth fuel (r :: rest) else none
      | _ => none
    else match text? (p :: ps) with
      | some (t, rest) => (lexemes? depth fuel rest).map (.text t :: ·)
      | none =>
        if isNameStart p then
          (lexemes? depth fuel (ps.dropWhile isNamePart)).map
            (.name (Text.mk (p :: ps.takeWhile isNamePart)).normalized :: ·)
        else if p.isDigit then match number? (p :: ps) with
          | some (n, rest) => (lexemes? depth fuel rest).map (.number n :: ·)
          | none => none
        else if (Text.ofString "...").points.isPrefixOf (p :: ps) then
          (lexemes? depth fuel (ps.drop 2)).map (.ellipsis :: ·)
        else if opens p then (lexemes? (depth + 1) fuel ps).map (.sign p :: ·)
        else if closes p then
          if depth = 0 then none else (lexemes? (depth - 1) fuel ps).map (.sign p :: ·)
        else if p.is '|' || p.is ',' then (lexemes? depth fuel ps).map (.sign p :: ·)
        else none

/-- What is left at the first line that is not blank or a comment. -/
def firstLine : Nat → List CodePoint → List CodePoint
  | 0, ps => ps
  | fuel + 1, ps =>
    let line := ps.takeWhile (!isBreak ·)
    let rest := ps.dropWhile (!isBreak ·)
    let shown := line.dropWhile isGap
    if (shown.isEmpty || shown.head?.any (·.is '#')) && !rest.isEmpty then
      firstLine fuel (rest.drop 1)
    else ps

/-- The words that are names of values. -/
def valueWords : List Text := ["None", "True", "False"]

mutual

/-- Terms with bars between them. -/
def readUnion : Nat → List Lexeme → Option (Term × List Lexeme)
  | 0, _ => none
  | fuel + 1, ls => do
    let (t, rest) ← readOperand fuel ls
    readMore fuel t rest

/-- What follows the terms read so far. -/
def readMore : Nat → Term → List Lexeme → Option (Term × List Lexeme)
  | 0, _, _ => none
  | fuel + 1, t, ls => match ls with
    | .sign p :: rest =>
      if p.is '|' then do
        let (u, rest) ← readOperand fuel rest
        readMore fuel (.either t u) rest
      else some (t, ls)
    | _ => some (t, ls)

/-- A single term, with arguments in brackets if they follow. -/
def readOperand : Nat → List Lexeme → Option (Term × List Lexeme)
  | 0, _ => none
  | fuel + 1, ls => do
    let (head, rest) ← readAtom fuel ls
    readArguments fuel head rest

/-- The arguments after a term. -/
def readArguments : Nat → Term → List Lexeme → Option (Term × List Lexeme)
  | 0, _, _ => none
  | fuel + 1, head, ls => match ls with
    | .sign p :: rest =>
      if p.is '[' then do
        let (argument, rest) ← readItems fuel rest
        match rest with
        | .sign q :: rest =>
          if q.is ']' then readArguments fuel (.applied head argument) rest else none
        | _ => none
      else some (head, ls)
    | _ => some (head, ls)

/-- A name, a text, a number, or a term in brackets. -/
def readAtom : Nat → List Lexeme → Option (Term × List Lexeme)
  | 0, _ => none
  | fuel + 1, ls => match ls with
    | .name n :: rest =>
      if reservedWords.contains n && !valueWords.contains n then none else some (.name n, rest)
    | .text t :: .text u :: rest => readAtom fuel (.text (t ++ u) :: rest)
    | .text t :: rest => some (.text t, rest)
    | .number n :: rest => some (.number n, rest)
    | .ellipsis :: rest => some (.ellipsis, rest)
    | .sign p :: .sign q :: rest =>
      if p.is '(' && q.is ')' then some (.tuple [], rest)
      else if p.is '[' && q.is ']' then some (.list [], rest)
      else readBracketed fuel p (.sign q :: rest)
    | .sign p :: rest => readBracketed fuel p rest
    | _ => none

/-- A term in brackets, of which the opening one was read. -/
def readBracketed : Nat → CodePoint → List Lexeme → Option (Term × List Lexeme)
  | 0, _, _ => none
  | fuel + 1, opening, ls =>
    if opening.is '(' then do
      let (t, rest) ← readItems fuel ls
      match rest with
      | .sign q :: rest => if q.is ')' then some (t, rest) else none
      | _ => none
    else if opening.is '[' then do
      let (ts, rest) ← readNext fuel ls
      match rest with
      | .sign q :: rest => if q.is ']' then some (.list ts, rest) else none
      | _ => none
    else none

/-- A term, or several with commas between them, of which the last one may be followed by one. -/
def readItems : Nat → List Lexeme → Option (Term × List Lexeme)
  | 0, _ => none
  | fuel + 1, ls => do
    let (t, rest) ← readUnion fuel ls
    match rest with
    | .sign p :: rest' =>
      if p.is ',' then do
        let (ts, rest) ← readFurther fuel rest'
        return (.tuple (t :: ts), rest)
      else return (t, rest)
    | _ => return (t, rest)

/-- The terms after a comma. -/
def readFurther : Nat → List Lexeme → Option (List Term × List Lexeme)
  | 0, _ => none
  | fuel + 1, ls => match ls with
    | [] => some ([], [])
    | .sign p :: rest =>
      if closes p then some ([], ls) else readNext fuel (.sign p :: rest)
    | ls => readNext fuel ls

/-- A term after a comma, and those after it. -/
def readNext : Nat → List Lexeme → Option (List Term × List Lexeme)
  | 0, _ => none
  | fuel + 1, ls => do
    let (t, rest) ← readUnion fuel ls
    match rest with
    | .sign p :: rest' =>
      if p.is ',' then do
        let (ts, rest) ← readFurther fuel rest'
        return (t :: ts, rest)
      else return ([t], rest)
    | _ => return ([t], rest)

end

/-- The term that a text writes, if it writes one. -/
def read? (t : Text) : Option Term :=
  let ps := firstLine (t.length + 1) t.points
  if ps.head?.any isGap then none
  else match lexemes? 0 (ps.length + 1) ps with
    | none => none
    | some ls => match readItems (8 * ls.length + 8) ls with
      | some (t, []) => some t
      | _ => none

end Term

end GuardedTools
