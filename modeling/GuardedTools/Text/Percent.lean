import GuardedTools.Text.Utf8
import GuardedTools.Text.Quoted

/-!
# Percent signs for bytes

In an address a percent sign and two hexadecimal digits stand for a byte (`Text.percentDecoded`,
`Text.percentEncoded`).  In a query a plus sign stands for a blank besides (`Text.formDecoded`,
`Text.formEncoded`); it is read before the percent signs, so that an escaped plus sign stays one.
-/

namespace GuardedTools.Text

/-- The bytes that ASCII characters stand for. -/
def percentBytes : List CodePoint → List UInt8
  | [] => []
  | p :: a :: b :: rest =>
    match (if p.is '%' then (do return 16 * (← a.hexValue?) + (← b.hexValue?)) else none) with
    | some n => n.toUInt8 :: percentBytes rest
    | none => p.toNat.toUInt8 :: percentBytes (a :: b :: rest)
  | p :: rest => p.toNat.toUInt8 :: percentBytes rest

/-- Whether a code point is one of ASCII. -/
def isAscii (p : CodePoint) : Bool := p.toNat < 128

/-- A text without percent signs for bytes; what these write in vain is replaced. -/
def percentDecoded (t : Text) : Text :=
  if t.containsChar '%' then
    concat ((t.points.splitBy fun p q => isAscii p == isAscii q).map fun ps =>
      if ps.all isAscii then Utf8.decodeReplacing (percentBytes ps) else ⟨ps⟩)
  else t

/-- Whether a code point may stand for itself anywhere in an address. -/
def isPlainInAddress (p : CodePoint) : Bool :=
  p.isLetter || p.isDigit || p.is '_' || p.is '.' || p.is '-' || p.is '~'

/-- The hexadecimal digits of a byte, in capitals. -/
def escapedByte (b : UInt8) : List CodePoint :=
  .scalar '%' :: ((hex 2 b.toNat).map CodePoint.asciiUpper).points

/-- A text with percent signs for the bytes of what may not stand for itself. -/
def percentEncoded (isSafe : CodePoint → Bool) (t : Text) : Text :=
  ⟨t.points.flatMap fun p =>
    if isPlainInAddress p || isSafe p then [p]
    else ((Utf8.encode ⟨[p]⟩).getD []).flatMap escapedByte⟩

/-- A part of a query, decoded. -/
def formDecoded (t : Text) : Text := (t.replaceChar '+' " ").percentDecoded

/-- A text as a part of a query. -/
def formEncoded (t : Text) : Text := (t.percentEncoded (·.is ' ')).replaceChar ' ' "+"

end GuardedTools.Text
