import GuardedTools.Text.Utf8
import GuardedTools.Text.Pattern.Meaning

/-!
# How large patterns are

A pattern is matched by an automaton that reads the bytes of a text, and a pattern whose automaton
takes too much room is refused.  `Pattern.size` adds up the bytes of the states of that automaton.
Each repetition counts as often as it must be written out, so a short pattern can be too large; the
size is found without writing anything out.

A set is read byte by byte from the end of a character on, in as many sequences of ranges of bytes
as `PointSet.byteSequences` lists; sequences that begin alike share the states of what they share.
-/

namespace GuardedTools

namespace PointSet

/-- The bytes of the character with a number. -/
def bytesOf (n : Nat) : List Nat := (Utf8.encodeChar (Char.ofNat n)).map (·.toNat)

/-- The first number after which a stretch has to be cut, so that its characters have equally many
bytes and each byte takes all values of a range. -/
def cutOf? (low high : Nat) : Option Nat :=
  let lengths := [0x7F, 0x7FF, 0xFFFF].find? fun n => low ≤ n && n < high
  let blocks := [64, 4096, 262144].findSome? fun block =>
    if low / block = high / block then none
    else if low % block ≠ 0 then some (low / block * block + block - 1)
    else if high % block ≠ block - 1 then some (high / block * block - 1)
    else none
  lengths <|> (if high ≤ 0x7F then none else blocks)

/-- The sequences of ranges of bytes that the characters of a stretch consist of.  The first
argument bounds how often the stretch is cut. -/
def byteSequences : Nat → Nat → Nat → List (List (Nat × Nat))
  | 0, _, _ => []
  | fuel + 1, low, high => match cutOf? low high with
    | some n => byteSequences fuel low n ++ byteSequences fuel (n + 1) high
    | none => [(bytesOf low).zip (bytesOf high)]

/-- How many members at the beginning two lists share. -/
def sharedLength : List (Nat × Nat) → List (Nat × Nat) → Nat
  | a :: as, b :: bs => if a == b then sharedLength as bs + 1 else 0
  | _, _ => 0

/-- How many ranges of bytes are read, where each sequence shares the beginning of the one before
it. -/
def rangesRead (before : List (Nat × Nat)) : List (List (Nat × Nat)) → Nat
  | [] => 0
  | s :: rest => s.length - sharedLength before s + rangesRead s rest

/-- The bytes of a state of the automaton. -/
def stateSize : Nat := 32

/-- The size of what reads a code point of a set. -/
def size (s : PointSet) : Nat :=
  let stretches := (s \ range 0xD800 0xDFFF).stretches
  match stretches with
  | [] => stateSize
  | [(low, high)] =>
    if low = high then (bytesOf low).length * stateSize
    else if high < 128 then 2 * stateSize
    else ofStretches stretches
  | _ => if stretches.all (·.2 < 128) then 2 * stateSize + 8 * stretches.length
    else ofStretches stretches
where
  /-- The size for characters of several bytes. -/
  ofStretches (stretches : List (Nat × Nat)) : Nat :=
    let sequences := stretches.flatMap fun (low, high) => byteSequences 16 low high
    2 * stateSize + 4 * sequences.length + stateSize * rangesRead [] sequences

end PointSet

namespace Pattern

open PointSet (stateSize)

/-- The size of a state from which several others can follow. -/
def choiceSize (count : Nat) : Nat := stateSize + 4 * count

/-- Whether a pattern matches the empty stretch, wherever its conditions hold. -/
def matchesEmpty : Pattern → Bool
  | empty => true
  | point _ => false
  | boundary _ => true
  | sequence a b => a.matchesEmpty && b.matchesEmpty
  | either a b => a.matchesEmpty || b.matchesEmpty
  | repeated least _ a => least == 0 || a.matchesEmpty
  | kept a => a.matchesEmpty

/-- The size of what is repeated from the size of one round. -/
def repeatedSize (least : Nat) (most : Option Nat) (round : Nat) (isEmpty : Bool) : Nat :=
  match most with
  | none =>
    if least = 0 then round + choiceSize 2 + if isEmpty then choiceSize 2 + stateSize else 0
    else least * round + choiceSize 2
  | some most =>
    (if least = 0 then stateSize else least * round)
      + (if most ≤ least then 0 else (most - least) * (round + choiceSize 2) + stateSize)

/-- The size of what matches a pattern. -/
def size : Pattern → Nat
  | empty => stateSize
  | point s => s.size
  | boundary _ => stateSize
  | sequence a b => a.size + b.size
  | either a b => a.size + b.size + choiceSize 2 + stateSize
  | repeated least most a => repeatedSize least most a.size a.matchesEmpty
  | kept a => a.size + 2 * stateSize

/-- How large what matches a pattern may be. -/
def sizeBound : Nat := 10485760

/-- The size of a pattern that is looked for anywhere in a text, whose match is kept. -/
def wholeSize (a : Pattern) : Nat := a.size + 2 * stateSize + (choiceSize 2 + stateSize) + stateSize

end Pattern

/-- Why a text cannot be used as a pattern. -/
inductive PatternRefusal where
  | fault (f : PatternFault)
  | tooLarge
deriving DecidableEq, Inhabited, Repr

/-- What is said of a text that cannot be used as a pattern. -/
def PatternRefusal.message (source : Text) : PatternRefusal → Text
  | fault f => f.message source
  | tooLarge => "Compiled regex exceeds size limit of " ++ Text.ofNat Pattern.sizeBound ++ " bytes."

namespace Pattern

/-- Reads a text as a pattern. -/
def read (t : Text) : Except PatternRefusal Pattern := do
  let term ← (PatternTerm.read t).mapError .fault
  let (a, _) ← (term.meaning {}).mapError .fault
  if sizeBound < a.wholeSize then throw .tooLarge
  return a

/-- Whether a text is a pattern that another text has a stretch of. -/
def isMet (source t : Text) : Bool :=
  match read source with
  | .ok a => a.occursIn t
  | .error _ => false

end Pattern

end GuardedTools
