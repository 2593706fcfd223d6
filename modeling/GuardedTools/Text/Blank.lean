import GuardedTools.Text

/-!
# Blank code points

The code points that count as white space in Unicode 14, the four ASCII information separators
among them.  Trimming a text (`Text.trim`) and asking whether it says anything (`Text.isBlank`)
go by this set; the byte order mark and the zero-width space are not in it.
-/

namespace GuardedTools

/-- The ranges of blank code points. -/
def Text.blankRanges : Array (Nat × Nat) := #[
  (9, 13), (28, 32), (133, 133), (160, 160), (5760, 5760), (8192, 8202), (8232, 8233), (8239,
  8239), (8287, 8287), (12288, 12288)]

/-- The blank code points. -/
def CodePoint.isBlank (p : CodePoint) : Bool := Text.inRanges Text.blankRanges p.toNat

namespace Text

/-- The text without the blanks at its ends. -/
def trim (t : Text) : Text := t.trimBy CodePoint.isBlank

/-- Whether a text has no code point that is not blank. -/
def isBlank (t : Text) : Bool := t.points.all CodePoint.isBlank

/-- The words of a text between runs of blanks. -/
def words (t : Text) : List Text := t.wordsBy CodePoint.isBlank

end Text

end GuardedTools
