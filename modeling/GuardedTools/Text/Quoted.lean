import GuardedTools.Text.Printable

/-!
# Quoted texts

A text inside a message stands between quotes: single ones, or double ones if it holds single
quotes and no double ones.  The quote, the backslash and everything that is not printable are
escaped; everything else stands as it is.
-/

namespace GuardedTools

namespace Text

/-- A number in hexadecimal with at least the given number of digits. -/
def hex (width n : Nat) : Text :=
  let digits := (Nat.toDigits 16 n).map CodePoint.scalar
  ⟨List.replicate (width - digits.length) (.scalar '0') ++ digits⟩

/-- A code point inside single or double quotes. -/
def quotePoint (quote : Char) (p : CodePoint) : List CodePoint :=
  if p.is quote || p.is '\\' then [.scalar '\\', p]
  else if p.is '\n' then [.scalar '\\', .scalar 'n']
  else if p.is '\r' then [.scalar '\\', .scalar 'r']
  else if p.is '\t' then [.scalar '\\', .scalar 't']
  else if p.isPrintable then [p]
  else if p.toNat < 0x100 then .scalar '\\' :: .scalar 'x' :: (hex 2 p.toNat).points
  else if p.toNat < 0x10000 then .scalar '\\' :: .scalar 'u' :: (hex 4 p.toNat).points
  else .scalar '\\' :: .scalar 'U' :: (hex 8 p.toNat).points

/-- The quote that a text is put in. -/
def quoteOf (t : Text) : Char :=
  if t.containsChar '\'' && !t.containsChar '"' then '"' else '\''

/-- The text in quotes. -/
def quoted (t : Text) : Text :=
  let q := t.quoteOf
  ⟨.scalar q :: (t.points.flatMap (quotePoint q) ++ [.scalar q])⟩

/-- Texts in quotes as one list. -/
def quotedList : List Text → Text
  | [] => empty
  | [a] => a.quoted
  | [a, b] => a.quoted ++ " and " ++ b.quoted
  | ts =>
    intercalate ", " (ts.dropLast.map quoted) ++ ", and " ++ (ts.getLast?.getD empty).quoted

end Text

end GuardedTools
