import GuardedTools.Text

/-!
# UTF-8

Bytes of a text and the text of bytes.  `Utf8.decode` refuses at the first byte that no text
begins or continues with, and says what is wrong there; `Utf8.encode` refuses a text with a lone
surrogate.  `Utf8.decodeLossy` drops what it cannot read, and
`Utf8.decodeReplacing` puts a mark in its place.
-/

namespace GuardedTools.Utf8

/-- What is wrong with a sequence of bytes, and where. -/
inductive Fault where
  /-- The byte at a position starts no sequence. -/
  | badStart (byte : UInt8) (position : Nat)
  /-- The bytes from a position on, `count` of them, are not continued as they announce. -/
  | badContinuation (byte : UInt8) (position count : Nat)
  /-- The bytes end inside the sequence that starts at a position. -/
  | cutShort (byte : UInt8) (position count : Nat)
deriving DecidableEq, Repr

/-- Length of the sequence that a byte starts, with the range of its second byte. -/
def lead (b : UInt8) : Option (Nat × UInt8 × UInt8) :=
  if b < 0x80 then some (1, 0, 0)
  else if b < 0xC2 then none
  else if b < 0xE0 then some (2, 0x80, 0xBF)
  else if b == 0xE0 then some (3, 0xA0, 0xBF)
  else if b == 0xED then some (3, 0x80, 0x9F)
  else if b < 0xF0 then some (3, 0x80, 0xBF)
  else if b == 0xF0 then some (4, 0x90, 0xBF)
  else if b < 0xF4 then some (4, 0x80, 0xBF)
  else if b == 0xF4 then some (4, 0x80, 0x8F)
  else none

/-- Whether a byte may stand after the second place of a sequence. -/
def isTail (b : UInt8) : Bool := 0x80 ≤ b && b ≤ 0xBF

/-- The number of bytes after the first that continue the sequence it starts. -/
def continued (length : Nat) (low high : UInt8) : List UInt8 → Nat
  | [] => 0
  | b :: bs =>
    if low ≤ b && b ≤ high then 1 + ((bs.take (length - 2)).takeWhile isTail).length else 0

/-- The number that a first byte and its continuation stand for. -/
def assemble (length : Nat) (b : UInt8) (tail : List UInt8) : Nat :=
  let head := match length with
    | 1 => b.toNat
    | 2 => b.toNat % 0x20
    | 3 => b.toNat % 0x10
    | _ => b.toNat % 0x08
  tail.foldl (fun n t => n * 64 + t.toNat % 64) head

/-- Decodes from a position on. -/
def decodeFrom : Nat → Nat → List UInt8 → Except Fault (List Char)
  | _, _, [] => .ok []
  | 0, _, _ :: _ => .ok []
  | fuel + 1, position, b :: bs =>
    match lead b with
    | none => .error (.badStart b position)
    | some (length, low, high) =>
      if length = 1 then do
        let rest ← decodeFrom fuel (position + 1) bs
        return Char.ofNat b.toNat :: rest
      else
        let got := continued length low high bs
        if got + 1 = length then do
          let rest ← decodeFrom fuel (position + length) (bs.drop got)
          return Char.ofNat (assemble length b (bs.take got)) :: rest
        else if got = bs.length then .error (.cutShort b position (got + 1))
        else .error (.badContinuation b position (got + 1))

/-- The text that bytes encode. -/
def decode (bytes : List UInt8) : Except Fault Text :=
  (decodeFrom bytes.length 0 bytes).map Text.ofChars

/-- Decodes what can be decoded, with `mark` for every sequence of bytes that cannot. -/
def decodeMarkedFrom (mark : List Char) : Nat → List UInt8 → List Char
  | _, [] => []
  | 0, _ :: _ => []
  | fuel + 1, b :: bs =>
    match lead b with
    | none => mark ++ decodeMarkedFrom mark fuel bs
    | some (length, low, high) =>
      if length = 1 then Char.ofNat b.toNat :: decodeMarkedFrom mark fuel bs
      else
        let got := continued length low high bs
        let rest := decodeMarkedFrom mark fuel (bs.drop got)
        if got + 1 = length then Char.ofNat (assemble length b (bs.take got)) :: rest
        else mark ++ rest

/-- The text of the bytes that can be read; the others are dropped. -/
def decodeLossy (bytes : List UInt8) : Text :=
  Text.ofChars (decodeMarkedFrom [] bytes.length bytes)

/-- The text of bytes, in which the replacement character stands for what cannot be read. -/
def decodeReplacing (bytes : List UInt8) : Text :=
  Text.ofChars (decodeMarkedFrom [Char.ofNat 0xFFFD] bytes.length bytes)

/-- The bytes of a character. -/
def encodeChar (c : Char) : List UInt8 :=
  let n := c.toNat
  if n < 0x80 then [n.toUInt8]
  else if n < 0x800 then [(0xC0 + n / 64).toUInt8, (0x80 + n % 64).toUInt8]
  else if n < 0x10000 then
    [(0xE0 + n / 4096).toUInt8, (0x80 + n / 64 % 64).toUInt8, (0x80 + n % 64).toUInt8]
  else
    [(0xF0 + n / 262144).toUInt8, (0x80 + n / 4096 % 64).toUInt8, (0x80 + n / 64 % 64).toUInt8,
      (0x80 + n % 64).toUInt8]

/-- The bytes of a text, unless it holds a lone surrogate. -/
def encode (t : Text) : Option (List UInt8) :=
  t.scalars?.map fun cs => cs.flatMap encodeChar

/-- The lone surrogates that stand first in a text: where they start, the first of them, and how
many follow one another. -/
structure Unencodable where
  position : Nat
  first : CodePoint
  count : Nat
deriving DecidableEq, Repr

/-- Whether a code point is half of a surrogate pair. -/
def isSurrogate : CodePoint → Bool
  | .scalar _ => false
  | .surrogate _ => true

/-- What cannot be encoded of a text, if anything. -/
def unencodable? (t : Text) : Option Unencodable :=
  match t.points.dropWhile (!isSurrogate ·) with
  | [] => none
  | p :: ps => some {
      position := (t.points.takeWhile (!isSurrogate ·)).length, first := p,
      count := 1 + (ps.takeWhile isSurrogate).length }

/-- Whether a code point is a lone surrogate that stands for a byte which no text has. -/
def isEscapedByte (p : CodePoint) : Bool := isSurrogate p && p.between 0xDC80 0xDCFF

/-- What cannot be encoded of a text in which lone surrogates may stand for bytes, if anything. -/
def unescapable? (t : Text) : Option Unencodable :=
  let isEncoded (p : CodePoint) : Bool := !isSurrogate p || isEscapedByte p
  match t.points.dropWhile isEncoded with
  | [] => none
  | p :: ps => some {
      position := (t.points.takeWhile isEncoded).length, first := p,
      count := 1 + (ps.takeWhile isSurrogate).length }

def Unencodable.message (u : Unencodable) : Text :=
  if u.count = 1 then
    "'utf-8' codec can't encode character '\\u"
      ++ Text.ofChars (Nat.toDigits 16 u.first.toNat) ++ "' in position " ++ Text.ofNat u.position
      ++ ": surrogates not allowed"
  else
    "'utf-8' codec can't encode characters in position " ++ Text.ofNat u.position ++ "-"
      ++ Text.ofNat (u.position + u.count - 1) ++ ": surrogates not allowed"

/-- The fault in words, as it is reported for a named encoding. -/
def Fault.message : Fault → Text
  | .badStart b p =>
    "'utf-8' codec can't decode byte 0x" ++ Text.ofString (hexByte b) ++ " in position "
      ++ Text.ofNat p ++ ": invalid start byte"
  | .badContinuation b p 1 =>
    "'utf-8' codec can't decode byte 0x" ++ Text.ofString (hexByte b) ++ " in position "
      ++ Text.ofNat p ++ ": invalid continuation byte"
  | .badContinuation _ p n =>
    "'utf-8' codec can't decode bytes in position " ++ Text.ofNat p ++ "-"
      ++ Text.ofNat (p + n - 1) ++ ": invalid continuation byte"
  | .cutShort b p 1 =>
    "'utf-8' codec can't decode byte 0x" ++ Text.ofString (hexByte b) ++ " in position "
      ++ Text.ofNat p ++ ": unexpected end of data"
  | .cutShort _ p n =>
    "'utf-8' codec can't decode bytes in position " ++ Text.ofNat p ++ "-"
      ++ Text.ofNat (p + n - 1) ++ ": unexpected end of data"
where
  /-- A byte as two hexadecimal digits. -/
  hexByte (b : UInt8) : String :=
    String.ofList ((Nat.toDigits 16 (b.toNat / 16)) ++ (Nat.toDigits 16 (b.toNat % 16)))

end GuardedTools.Utf8
