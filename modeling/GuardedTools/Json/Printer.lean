import GuardedTools.Binary64.Shortest
import GuardedTools.Json
import GuardedTools.Text.Digit

/-!
# JSON text

Three layouts of a JSON value: `Json.compact` without blanks and in ASCII, `Json.canonical` the same
with sorted keys, and `Json.indented` on several lines.  A lone surrogate is written as its
escape in ASCII and stands as it is otherwise.

Integers of too many digits and values nested too deeply are not written; `Json.canonicalText` is
the canonical layout of a value that is.
-/

namespace GuardedTools.Json

/-- A number below 65536 as an escape of four digits. -/
def unicodeEscape (n : Nat) : List CodePoint :=
  [.scalar '\\', .scalar 'u', .ofHexValue (n / 4096 % 16), .ofHexValue (n / 256 % 16),
    .ofHexValue (n / 16 % 16), .ofHexValue (n % 16)]

/-- The escapes of the quote, the backslash and the control characters. -/
def shortEscape? (p : CodePoint) : Option (List CodePoint) :=
  if p.is '"' then some [.scalar '\\', .scalar '"']
  else if p.is '\\' then some [.scalar '\\', .scalar '\\']
  else if p.is '\n' then some [.scalar '\\', .scalar 'n']
  else if p.is '\r' then some [.scalar '\\', .scalar 'r']
  else if p.is '\t' then some [.scalar '\\', .scalar 't']
  else if p.toNat = 8 then some [.scalar '\\', .scalar 'b']
  else if p.toNat = 12 then some [.scalar '\\', .scalar 'f']
  else if p.toNat < 32 then some (unicodeEscape p.toNat)
  else none

/-- A code point inside quotes, in ASCII: above the basic plane as two escapes. -/
def escapeAscii (p : CodePoint) : List CodePoint :=
  match shortEscape? p with
  | some escape => escape
  | none =>
    let n := p.toNat
    if n < 127 then [p]
    else if n < 0x10000 then unicodeEscape n
    else
      unicodeEscape (0xD800 + (n - 0x10000) / 1024)
        ++ unicodeEscape (0xDC00 + (n - 0x10000) % 1024)

/-- A code point inside quotes; only what must be escaped is. -/
def escapePlain (p : CodePoint) : List CodePoint := (shortEscape? p).getD [p]

/-- A text in double quotes, in ASCII. -/
def quote (t : Text) : Text :=
  ⟨.scalar '"' :: (t.points.flatMap escapeAscii ++ [.scalar '"'])⟩

/-- A text in double quotes. -/
def quotePlain (t : Text) : Text :=
  ⟨.scalar '"' :: (t.points.flatMap escapePlain ++ [.scalar '"'])⟩

/-- A floating-point number, with words for those that JSON has no number for. -/
def floatText (x : Binary64) : Text :=
  match x.view with
  | .nan => "NaN"
  | .infinite negative => if negative then "-Infinity" else "Infinity"
  | _ => x.toText

mutual

/-- The value without blanks, in ASCII. -/
def compact : Json → Text
  | null => "null"
  | bool b => if b then "true" else "false"
  | int n => Text.ofInt n
  | float x => floatText x
  | text t => quote t
  | array items => "[" ++ compactItems items ++ "]"
  | object members => "\x7b" ++ compactMembers members ++ "\x7d"

def compactItems : List Json → Text
  | [] => ""
  | [x] => compact x
  | x :: xs => compact x ++ "," ++ compactItems xs

def compactMembers : List (Text × Json) → Text
  | [] => ""
  | [(k, x)] => quote k ++ ":" ++ compact x
  | (k, x) :: ms => quote k ++ ":" ++ compact x ++ "," ++ compactMembers ms

end

/-- The value without blanks, in ASCII, with sorted keys. -/
def canonical (j : Json) : Text := j.sortKeys.compact

/-- Why a value is not written. -/
inductive WriteFault where
  /-- An integer has more digits than are written. -/
  | tooManyDigits
  /-- Arrays and objects are nested more deeply than is written. -/
  | tooDeep
deriving DecidableEq, Repr

/-- The word that names a kind of fault. -/
def WriteFault.kind : WriteFault → Text
  | tooManyDigits => "ValueError"
  | tooDeep => "RecursionError"

def WriteFault.message : WriteFault → Text
  | tooManyDigits =>
    "Exceeds the limit (4300 digits) for integer string conversion; "
      ++ "use sys.set_int_max_str_digits() to increase the limit"
  | tooDeep => Text.empty

/-- How deeply arrays and objects are nested that are written. -/
def writeDepth : Nat := 990

/-- Whether an integer has no more digits than are written. -/
def isWritten (n : Int) : Bool := (Nat.toDigits 10 n.natAbs).length ≤ Text.digitLimit

mutual

/-- The first thing in a value that keeps it from being written, where arrays and objects may be
nested as deeply as said. -/
def writeFault? : Nat → Json → Option WriteFault
  | _, int n => if isWritten n then none else some .tooManyDigits
  | 0, array _ => some .tooDeep
  | depth + 1, array items => writeFaultItems? depth items
  | 0, object _ => some .tooDeep
  | depth + 1, object members => writeFaultMembers? depth members
  | _, _ => none

def writeFaultItems? (depth : Nat) : List Json → Option WriteFault
  | [] => none
  | x :: xs => writeFault? depth x <|> writeFaultItems? depth xs

def writeFaultMembers? (depth : Nat) : List (Text × Json) → Option WriteFault
  | [] => none
  | (_, x) :: ms => writeFault? depth x <|> writeFaultMembers? depth ms

end

/-- The canonical text of a value, if it is written; of several faults, the first one in the order
of the keys is told. -/
def canonicalText (j : Json) : Except WriteFault Text :=
  match j.writeFault? writeDepth with
  | some fault => .error ((j.sortKeys.writeFault? writeDepth).getD fault)
  | none => .ok j.canonical

/-- A line break and the indentation of a depth. -/
def newline (depth : Nat) : Text := ⟨.scalar '\n' :: List.replicate (2 * depth) (.scalar ' ')⟩

mutual

/-- The value on several lines, two blanks deeper with each level. -/
def indentedAt (depth : Nat) : Json → Text
  | null => "null"
  | bool b => if b then "true" else "false"
  | int n => Text.ofInt n
  | float x => floatText x
  | text t => quotePlain t
  | array [] => "[]"
  | array (x :: xs) =>
    "[" ++ newline (depth + 1) ++ indentedAt (depth + 1) x ++ indentedItems (depth + 1) xs
      ++ newline depth ++ "]"
  | object [] => "\x7b\x7d"
  | object ((k, x) :: ms) =>
    "\x7b" ++ newline (depth + 1) ++ quotePlain k ++ ": " ++ indentedAt (depth + 1) x
      ++ indentedMembers (depth + 1) ms ++ newline depth ++ "\x7d"

def indentedItems (depth : Nat) : List Json → Text
  | [] => ""
  | x :: xs => "," ++ newline depth ++ indentedAt depth x ++ indentedItems depth xs

def indentedMembers (depth : Nat) : List (Text × Json) → Text
  | [] => ""
  | (k, x) :: ms =>
    "," ++ newline depth ++ quotePlain k ++ ": " ++ indentedAt depth x ++ indentedMembers depth ms

end

/-- The value on several lines. -/
def indented (j : Json) : Text := indentedAt 0 j

end GuardedTools.Json
