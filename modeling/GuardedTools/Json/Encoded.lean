import GuardedTools.Json.Reader
import GuardedTools.Text.Utf8

/-!
# JSON text in bytes

JSON text comes in UTF-8, UTF-16 or UTF-32.  A byte order mark says which, or else the zeros among
the first bytes do, since a JSON text begins with an ASCII character (`Encoding.detect`).  Halves
of surrogate pairs are read as they stand.
-/

namespace GuardedTools.Json

/-- How a text is written as bytes; of two orders, the big-endian one or the other. -/
inductive Encoding where
  | utf8
  | utf16 (big : Bool)
  | utf32 (big : Bool)
deriving DecidableEq, Repr

namespace Encoding

/-- The encoding that a byte order mark announces, with the length of the mark. -/
def marked? (bytes : List UInt8) : Option (Encoding × Nat) :=
  if [0x00, 0x00, 0xFE, 0xFF].isPrefixOf bytes then some (utf32 true, 4)
  else if [0xFF, 0xFE, 0x00, 0x00].isPrefixOf bytes then some (utf32 false, 4)
  else if [0xFE, 0xFF].isPrefixOf bytes then some (utf16 true, 2)
  else if [0xFF, 0xFE].isPrefixOf bytes then some (utf16 false, 2)
  else if [0xEF, 0xBB, 0xBF].isPrefixOf bytes then some (utf8, 3)
  else none

/-- The encoding that the zeros among the first bytes tell. -/
def ofZeros (bytes : List UInt8) : Encoding :=
  match bytes with
  | a :: b :: c :: d :: _ =>
    if a = 0 then (if b = 0 then utf32 true else utf16 true)
    else if b = 0 then (if c = 0 ∧ d = 0 then utf32 false else utf16 false)
    else utf8
  | [a, b] => if a = 0 then utf16 true else if b = 0 then utf16 false else utf8
  | _ => utf8

/-- The encoding of a text and its bytes without the mark. -/
def detect (bytes : List UInt8) : Encoding × List UInt8 :=
  match marked? bytes with
  | some (e, n) => (e, bytes.drop n)
  | none => (ofZeros bytes, bytes)

/-- Decodes UTF-8 in which halves of surrogate pairs may stand; the number bounds the length. -/
def points8 : Nat → List UInt8 → Option (List CodePoint)
  | _, [] => some []
  | 0, _ :: _ => none
  | fuel + 1, b :: bs =>
    match Utf8.lead b with
    | none => none
    | some (length, low, high) =>
      let high := if b = 0xED then 0xBF else high
      let got := if length = 1 then 0 else Utf8.continued length low high bs
      if got + 1 = length then
        (points8 fuel (bs.drop got)).map
          (CodePoint.ofNat (Utf8.assemble length b (bs.take got)) :: ·)
      else none

/-- Units of two bytes. -/
def units16? (big : Bool) : List UInt8 → Option (List Nat)
  | [] => some []
  | [_] => none
  | a :: b :: rest =>
    let n := if big then 256 * a.toNat + b.toNat else 256 * b.toNat + a.toNat
    (units16? big rest).map (n :: ·)

/-- Units of UTF-16 with the halves of surrogate pairs joined. -/
def joinUnits : List Nat → List CodePoint
  | m :: n :: rest =>
    match joinPair? m n with
    | some p => p :: joinUnits rest
    | none => .ofNat m :: joinUnits (n :: rest)
  | [n] => [.ofNat n]
  | [] => []

/-- Units of four bytes that are numbers of code points. -/
def points32? (big : Bool) : List UInt8 → Option (List CodePoint)
  | [] => some []
  | a :: b :: c :: d :: rest =>
    let bytes := if big then [a, b, c, d] else [d, c, b, a]
    let n := bytes.foldl (fun n x => 256 * n + x.toNat) 0
    if n < 0x110000 then (points32? big rest).map (.ofNat n :: ·) else none
  | _ => none

/-- The text that bytes encode. -/
def decode? (e : Encoding) (bytes : List UInt8) : Option Text :=
  let points := match e with
    | utf8 => points8 bytes.length bytes
    | utf16 big => (units16? big bytes).map joinUnits
    | utf32 big => points32? big bytes
  points.map (⟨·⟩)

end Encoding

/-- The text that bytes hold, in whichever encoding it is. -/
def textOfBytes? (bytes : List UInt8) : Option Text :=
  let (e, rest) := Encoding.detect bytes
  e.decode? rest

end GuardedTools.Json
