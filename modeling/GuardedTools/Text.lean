/-!
# Texts

A text is a sequence of code points.  Texts read from escape sequences can hold half of a
surrogate pair without the other half, which no Unicode scalar value stands for, so a code point
is either a scalar value or such a lone surrogate.  Everything the program says or receives is a
`Text`; only the outer layer turns one into bytes.

Texts are ordered by the numbers of their code points (`Text.lt`), and a written string is a text
through a coercion.
-/

namespace GuardedTools

/-- A code point of a text: a Unicode scalar value, or a surrogate (numbered from the first one)
that stands without its partner. -/
inductive CodePoint where
  | scalar (c : Char)
  | surrogate (offset : Fin 2048)
deriving DecidableEq, Inhabited, Repr

namespace CodePoint

/-- The number of a code point. -/
def toNat : CodePoint → Nat
  | scalar c => c.toNat
  | surrogate offset => 0xD800 + offset.val

/-- The code point of a number; a number above the last code point gives the replacement
character. -/
def ofNat (n : Nat) : CodePoint :=
  if h : 0xD800 ≤ n ∧ n < 0xE000 then surrogate ⟨n - 0xD800, by omega⟩
  else if n < 0x110000 then scalar (Char.ofNat n)
  else scalar (Char.ofNat 0xFFFD)

instance : Coe Char CodePoint := ⟨scalar⟩

/-- A code point in a range of numbers, ends included. -/
def between (p : CodePoint) (low high : Nat) : Bool :=
  low ≤ p.toNat && p.toNat ≤ high

/-- The ASCII digits `0` to `9`. -/
def isDigit (p : CodePoint) : Bool := p.between 48 57

/-- The value of an ASCII digit. -/
def digitValue (p : CodePoint) : Nat := p.toNat - 48

/-- The ASCII letters. -/
def isLetter (p : CodePoint) : Bool := p.between 65 90 || p.between 97 122

/-- The value of a hexadecimal digit of either case. -/
def hexValue? (p : CodePoint) : Option Nat :=
  let n := p.toNat
  if 48 ≤ n && n ≤ 57 then some (n - 48)
  else if 97 ≤ n && n ≤ 102 then some (n - 87)
  else if 65 ≤ n && n ≤ 70 then some (n - 55)
  else none

/-- The hexadecimal digit of a value below sixteen, in small letters. -/
def ofHexValue (n : Nat) : CodePoint :=
  if n < 10 then ofNat (48 + n) else ofNat (87 + n)

/-- The small letter of an ASCII capital; every other code point stays. -/
def asciiLower (p : CodePoint) : CodePoint :=
  if p.between 65 90 then ofNat (p.toNat + 32) else p

/-- The capital of an ASCII small letter; every other code point stays. -/
def asciiUpper (p : CodePoint) : CodePoint :=
  if p.between 97 122 then ofNat (p.toNat - 32) else p

/-- Whether a line ends at a code point. -/
def endsLine (p : CodePoint) : Bool :=
  p.between 10 13 || p.between 28 30 || p.toNat == 0x85 || p.between 0x2028 0x2029

/-- Whether a code point is a given character. -/
def is (p : CodePoint) (c : Char) : Bool := p == scalar c

end CodePoint

/-- A sequence of code points. -/
structure Text where
  points : List CodePoint
deriving DecidableEq, Inhabited, Repr

namespace Text

/-- The text of a string. -/
def ofString (s : String) : Text := ⟨s.toList.map .scalar⟩

instance : Coe String Text := ⟨ofString⟩

/-- The text of a list of characters. -/
def ofChars (cs : List Char) : Text := ⟨cs.map .scalar⟩

/-- The scalar values of a text, if it holds nothing else. -/
def scalars? (t : Text) : Option (List Char) :=
  t.points.mapM fun
    | .scalar c => some c
    | .surrogate _ => none

/-- The string of a text that holds no lone surrogate. -/
def toString? (t : Text) : Option String := t.scalars?.map String.ofList

/-- The string of a text in which every lone surrogate has become the replacement character. -/
def toStringLossy (t : Text) : String :=
  String.ofList (t.points.map fun
    | .scalar c => c
    | .surrogate _ => Char.ofNat 0xFFFD)

/-- Whether a text holds Unicode scalar values only. -/
def isScalar (t : Text) : Bool :=
  t.points.all fun
    | .scalar _ => true
    | .surrogate _ => false

def empty : Text := ⟨[]⟩

instance : EmptyCollection Text := ⟨empty⟩

def isEmpty (t : Text) : Bool := t.points.isEmpty

/-- The number of code points. -/
def length (t : Text) : Nat := t.points.length

def append (s t : Text) : Text := ⟨s.points ++ t.points⟩

instance : Append Text := ⟨append⟩

/-- All texts of a list, one after the other. -/
def concat (ts : List Text) : Text := ⟨ts.flatMap (·.points)⟩

/-- All texts of a list with a separator between neighbours. -/
def intercalate (separator : Text) : List Text → Text
  | [] => empty
  | [t] => t
  | t :: ts => t ++ separator ++ intercalate separator ts

/-- Whether the first list of code points comes before the second in the order of numbers. -/
def pointsLt : List CodePoint → List CodePoint → Bool
  | _, [] => false
  | [], _ :: _ => true
  | a :: as, b :: bs =>
    if a.toNat < b.toNat then true
    else if b.toNat < a.toNat then false
    else pointsLt as bs

/-- The order of texts: by the number of the first code point that differs, the shorter text
first if none does. -/
def lt (s t : Text) : Bool := pointsLt s.points t.points

/-- The order of texts with equality allowed. -/
def le (s t : Text) : Bool := !(lt t s)

/-- A list of texts in ascending order. -/
def sort (ts : List Text) : List Text := ts.mergeSort le

/-- Drops the code points of a class from both ends. -/
def trimBy (drop : CodePoint → Bool) (t : Text) : Text :=
  ⟨((t.points.dropWhile drop).reverse.dropWhile drop).reverse⟩

/-- Drops the code points of a class from the end. -/
def trimEndBy (drop : CodePoint → Bool) (t : Text) : Text :=
  ⟨(t.points.reverse.dropWhile drop).reverse⟩

/-- The pieces of a list of code points between the code points of a class. -/
def splitPointsBy (separates : CodePoint → Bool) : List CodePoint → List (List CodePoint)
  | [] => [[]]
  | p :: ps =>
    if separates p then [] :: splitPointsBy separates ps
    else match splitPointsBy separates ps with
      | [] => [[p]]
      | piece :: pieces => (p :: piece) :: pieces

/-- The pieces of a text between the code points of a class; there is always at least one. -/
def splitBy (separates : CodePoint → Bool) (t : Text) : List Text :=
  (splitPointsBy separates t.points).map (⟨·⟩)

/-- The pieces of a text between the occurrences of a character. -/
def splitOn (c : Char) (t : Text) : List Text := t.splitBy (·.is c)

/-- The pieces of a text between runs of code points of a class, without empty pieces. -/
def wordsBy (separates : CodePoint → Bool) (t : Text) : List Text :=
  (t.splitBy separates).filter (!·.isEmpty)

def startsWith (t start : Text) : Bool := start.points.isPrefixOf t.points

def endsWith (t ending : Text) : Bool := ending.points.isSuffixOf t.points

/-- Whether a character occurs in a text. -/
def containsChar (t : Text) (c : Char) : Bool := t.points.any (·.is c)

/-- Whether the second list of code points occurs in the first. -/
def pointsContain (part : List CodePoint) : List CodePoint → Bool
  | [] => part.isEmpty
  | p :: ps => part.isPrefixOf (p :: ps) || pointsContain part ps

/-- Whether a text occurs in another. -/
def contains (t part : Text) : Bool := pointsContain part.points t.points

def take (n : Nat) (t : Text) : Text := ⟨t.points.take n⟩

def drop (n : Nat) (t : Text) : Text := ⟨t.points.drop n⟩

def map (f : CodePoint → CodePoint) (t : Text) : Text := ⟨t.points.map f⟩

/-- The text before the first occurrence of a character and the text after it, if it occurs. -/
def cutAt (c : Char) (t : Text) : Option (Text × Text) :=
  match t.points.dropWhile (fun p => !p.is c) with
  | [] => none
  | _ :: after => some (⟨t.points.takeWhile fun p => !p.is c⟩, ⟨after⟩)

/-- The text before the last occurrence of a character and the text after it, if it occurs. -/
def cutAtLast (c : Char) (t : Text) : Option (Text × Text) :=
  match (⟨t.points.reverse⟩ : Text).cutAt c with
  | none => none
  | some (after, before) => some (⟨before.points.reverse⟩, ⟨after.points.reverse⟩)

/-- The text after the last occurrence of a character, the whole text if it does not occur. -/
def afterLast (c : Char) (t : Text) : Text :=
  match t.cutAtLast c with
  | none => t
  | some (_, after) => after

/-- The first line of a text. -/
def firstLine (t : Text) : Text := ⟨t.points.takeWhile fun p => !p.endsLine⟩

/-- Replaces every occurrence of a character. -/
def replaceChar (t : Text) (c : Char) (replacement : Text) : Text :=
  ⟨t.points.flatMap fun p => if p.is c then replacement.points else [p]⟩

/-- Code points in which every occurrence of a sequence is replaced; the number bounds how many
code points are looked at. -/
def replacePoints (old new : List CodePoint) : Nat → List CodePoint → List CodePoint
  | 0, ps => ps
  | _, [] => []
  | n + 1, p :: ps =>
    if old.isPrefixOf (p :: ps) then new ++ replacePoints old new n ((p :: ps).drop old.length)
    else p :: replacePoints old new n ps

/-- Replaces every occurrence of a text that is not empty. -/
def replace (t old new : Text) : Text :=
  if old.isEmpty then t else ⟨replacePoints old.points new.points t.length t.points⟩

/-- The decimal digits of a natural number. -/
def ofNat (n : Nat) : Text := ⟨(Nat.toDigits 10 n).map .scalar⟩

/-- The decimal digits of an integer, with a minus sign before those of a negative one. -/
def ofInt : Int → Text
  | .ofNat n => ofNat n
  | .negSucc n => ⟨CodePoint.scalar '-' :: (ofNat (n + 1)).points⟩

/-- The number that a list of decimal digits writes. -/
def digitsToNat (ds : List CodePoint) : Nat :=
  ds.foldl (fun n d => 10 * n + d.digitValue) 0

/-- The text with its ASCII letters small. -/
def asciiLower (t : Text) : Text := t.map CodePoint.asciiLower

/-! ### Tables of ranges

The properties of code points that the program asks for are sets with few gaps, so each is a table of ranges
in ascending order. -/

/-- Whether a number lies in one of the ranges of a table, ends included. -/
def inRanges (ranges : Array (Nat × Nat)) (n : Nat) : Bool :=
  ranges.any fun range => range.1 ≤ n && n ≤ range.2

/-- A table of ranges finds exactly the numbers between the two ends of one of its entries. -/
theorem inRanges_iff (ranges : Array (Nat × Nat)) (n : Nat) :
    inRanges ranges n = true ↔ ∃ range ∈ ranges, range.1 ≤ n ∧ n ≤ range.2 := by
  simp only [inRanges, Array.any_eq_true', Bool.and_eq_true, decide_eq_true_eq]

end Text

end GuardedTools
