import GuardedTools.Text.Blank

/-!
# Environment files

Lines of the form `NAME=value`, with `export` before them if one likes.  A value may stand in
single or double quotes, which may span lines; a comment begins with a number sign.  A line that
is not of the form is left out.  A name without a value is kept without one.

Values may refer to variables: `${NAME}` stands for the value of a variable, and
`${NAME:-text}` for `text` if there is no such variable.
-/

namespace GuardedTools

/-- Variables with their values. -/
abbrev Variables := List (Text × Text)

/-- The value of a variable; of several with one name the last counts. -/
def Variables.find? (vs : Variables) (name : Text) : Option Text :=
  (vs.reverse.find? (·.1 == name)).map (·.2)

namespace EnvFile

/-- A line of a file: a name, with a value if it has one. -/
abbrev Binding := Text × Option Text

/-- The ends of lines. -/
def isLineEnd (p : CodePoint) : Bool := p.is '\n' || p.is '\r'

/-- Blanks within a line. -/
def isInlineBlank (p : CodePoint) : Bool := p.isBlank && !isLineEnd p

/-- The code points of a name without quotes. -/
def isNamePoint (p : CodePoint) : Bool := !(p.isBlank || p.is '=' || p.is '#')

def skipInline (ps : List CodePoint) : List CodePoint := ps.dropWhile isInlineBlank

/-- The text up to the quote that closes it, and what follows the quote.  A quote after a backslash
closes the text only if no other does. -/
def untilQuote (quote : Char) : List CodePoint → Option (List CodePoint × List CodePoint)
  | [] => none
  | [p] => if p.is quote then some ([], []) else none
  | p :: q :: rest =>
    if p.is quote then some ([], q :: rest)
    else if p.is '\\' && q.is quote then
      match untilQuote quote rest with
      | some (inside, after) => some (p :: q :: inside, after)
      | none => some ([p], rest)
    else (untilQuote quote (q :: rest)).map fun (inside, after) => (p :: inside, after)

/-- The character that a letter stands for after a backslash in double quotes. -/
def doubleEscape? (p : CodePoint) : Option CodePoint :=
  match p with
  | .scalar 'a' => some (.ofNat 7)
  | .scalar 'b' => some (.ofNat 8)
  | .scalar 'f' => some (.ofNat 12)
  | .scalar 'n' => some (.ofNat 10)
  | .scalar 'r' => some (.ofNat 13)
  | .scalar 't' => some (.ofNat 9)
  | .scalar 'v' => some (.ofNat 11)
  | .scalar '\\' => some p
  | .scalar '\'' => some p
  | .scalar '"' => some p
  | _ => none

/-- The character that one stands for after a backslash in single quotes. -/
def singleEscape? (p : CodePoint) : Option CodePoint :=
  if p.is '\\' || p.is '\'' then some p else none

/-- A text in which escapes stand for what they mean. -/
def unescape (escape? : CodePoint → Option CodePoint) : List CodePoint → List CodePoint
  | [] => []
  | [p] => [p]
  | p :: q :: rest =>
    match p.is '\\', escape? q with
    | true, some c => c :: unescape escape? rest
    | _, _ => p :: unescape escape? (q :: rest)

/-- Whether a comment begins here: blanks, then a number sign. -/
def startsComment (ps : List CodePoint) : Bool :=
  match ps with
  | p :: _ => p.isBlank && ((ps.dropWhile CodePoint.isBlank).head?.any (·.is '#'))
  | [] => false

/-- A line without the comment in it. -/
def withoutComment : List CodePoint → List CodePoint
  | [] => []
  | p :: ps => if startsComment (p :: ps) then [] else p :: withoutComment ps

/-- A value without quotes: up to a comment, without the blanks at its end. -/
def plainValue (line : List CodePoint) : Text :=
  (⟨withoutComment line⟩ : Text).trimEndBy CodePoint.isBlank

/-- The value at the start of some code points, and what follows it. -/
def value? (ps : List CodePoint) : Option (Text × List CodePoint) :=
  match ps with
  | [] => some ("", [])
  | p :: rest =>
    if p.is '\'' then
      (untilQuote '\'' rest).map fun (inside, after) => (⟨unescape singleEscape? inside⟩, after)
    else if p.is '"' then
      (untilQuote '"' rest).map fun (inside, after) => (⟨unescape doubleEscape? inside⟩, after)
    else if isLineEnd p then some ("", ps)
    else
      let line := ps.takeWhile (!isLineEnd ·)
      some (plainValue line, ps.drop line.length)

/-- What follows the word `export` and the blanks after it, if they are there. -/
def skipExport (ps : List CodePoint) : List CodePoint :=
  let word := (Text.ofString "export").points
  if word.isPrefixOf ps then
    let after := ps.drop word.length
    if after.head?.any isInlineBlank then skipInline after else ps
  else ps

/-- The name at the start of some code points; a comment has none. -/
def name? (ps : List CodePoint) : Option (Option Text × List CodePoint) :=
  match ps with
  | [] => none
  | p :: rest =>
    if p.is '#' then some (none, ps)
    else if p.is '\'' then
      let inside := rest.takeWhile (!·.is '\'')
      match inside, rest.drop inside.length with
      | _ :: _, _ :: after => some (some ⟨inside⟩, after)
      | _, _ => none
    else
      let name := ps.takeWhile isNamePoint
      if name.isEmpty then none else some (some ⟨name⟩, ps.drop name.length)

/-- What follows a comment, if there is one. -/
def skipComment (ps : List CodePoint) : List CodePoint :=
  match skipInline ps with
  | p :: rest => if p.is '#' then rest.dropWhile (!isLineEnd ·) else ps
  | [] => ps

/-- What follows the end of a line, if nothing but blanks comes before it. -/
def lineEnd? (ps : List CodePoint) : Option (List CodePoint) :=
  match skipInline ps with
  | [] => some []
  | p :: rest => if isLineEnd p then some rest else none

/-- What follows the line. -/
def skipLine (ps : List CodePoint) : List CodePoint := (ps.dropWhile (!isLineEnd ·)).drop 1

/-- The name and value at the start of a line; the rest is what follows them, or what could not be
read. -/
def pair (ps : List CodePoint) : Except (List CodePoint) (Option Binding × List CodePoint) :=
  let ps := skipExport ps
  match name? ps with
  | none => .error ps
  | some (name, rest) =>
    let rest := skipInline rest
    match rest with
    | p :: after =>
      if p.is '=' then
        let after := skipInline after
        match value? after with
        | none => .error after
        | some (v, left) => .ok (name.map fun n => (n, some v), left)
      else .ok (name.map fun n => (n, none), rest)
    | [] => .ok (name.map fun n => (n, none), [])

/-- The binding of a line, if it is of the form, and what follows the line. -/
def line (ps : List CodePoint) : Option Binding × List CodePoint :=
  match pair ps with
  | .error left => (none, skipLine left)
  | .ok (binding, left) =>
    let left := skipComment left
    match lineEnd? left with
    | some rest => (binding, rest)
    | none => (none, skipLine left)

/-- The bindings of at most a number of lines. -/
def bindingsUpTo : Nat → List CodePoint → List Binding
  | 0, _ => []
  | n + 1, ps => match ps.dropWhile CodePoint.isBlank with
    | [] => []
    | p :: rest =>
      let (binding, left) := line (p :: rest)
      binding.toList ++ bindingsUpTo n left

/-- The bindings of a file, in order.  There are no more of them than code points. -/
def bindings (t : Text) : List Binding := bindingsUpTo (t.length + 1) t.points

/-- A reference to a variable after its opening brace: the name, the text that is used without such
a variable, and what follows the closing brace. -/
def reference? (ps : List CodePoint) : Option (Text × Text × List CodePoint) :=
  let name := ps.takeWhile fun p => !(p.is '\x7d' || p.is ':')
  match ps.drop name.length with
  | p :: rest =>
    if p.is '\x7d' then some (⟨name⟩, "", rest)
    else match rest with
      | q :: rest =>
        let other := rest.takeWhile (!·.is '\x7d')
        match q.is '-', rest.drop other.length with
        | true, _ :: after => some (⟨name⟩, ⟨other⟩, after)
        | _, _ => none
      | [] => none
  | [] => none

/-- A value in which at most a number of code points are looked at for references. -/
def resolveUpTo (known : Variables) : Nat → List CodePoint → List CodePoint
  | 0, ps => ps
  | n + 1, ps => match ps with
    | [] => []
    | [p] => [p]
    | p :: q :: rest =>
      match p.is '$' && q.is '\x7b', reference? rest with
      | true, some (name, other, after) =>
        ((known.find? name).getD other).points ++ resolveUpTo known n after
      | _, _ => p :: resolveUpTo known n (q :: rest)

/-- A value with its references replaced. -/
def resolve (known : Variables) (t : Text) : Text :=
  ⟨resolveUpTo known t.length t.points⟩

/-- The bindings with the references in their values replaced, first by the values before them and
then by other variables. -/
def resolveAll (known : Variables) : List Binding → List Binding
  | [] => []
  | (name, none) :: rest =>
    (name, none) :: resolveAll (known ++ [(name, Text.empty)]) rest
  | (name, some v) :: rest =>
    let v := resolve known v
    (name, some v) :: resolveAll (known ++ [(name, v)]) rest

/-- The variables of a file among others. -/
def read (known : Variables) (t : Text) : List Binding :=
  resolveAll known (bindings t)

end EnvFile

end GuardedTools
