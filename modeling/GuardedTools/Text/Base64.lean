import GuardedTools.Text

/-!
# Base 64

Bytes written with sixty-four signs, six bits each.  `Base64.decode?` reads both spellings of the
last two signs (`+` and `/`, or `-` and `_`), passes over every other character, and ends at the
first full padding.  `Base64.decodeUnpadded?` supplies the padding that the length asks for.
-/

namespace GuardedTools.Base64

/-- The padding sign. -/
def padding : UInt8 := 61

/-- The value of a sign. -/
def value? (b : UInt8) : Option Nat :=
  let n := b.toNat
  if 65 ≤ n ∧ n ≤ 90 then some (n - 65)
  else if 97 ≤ n ∧ n ≤ 122 then some (n - 71)
  else if 48 ≤ n ∧ n ≤ 57 then some (n + 4)
  else if n = 43 ∨ n = 45 then some 62
  else if n = 47 ∨ n = 95 then some 63
  else none

/-- The byte that a sign completes, after `place` signs of its group of four, of which the last
had the value `before`. -/
def byteAt (place before value : Nat) : Option UInt8 :=
  match place with
  | 0 => none
  | 1 => some (before * 4 + value / 16).toUInt8
  | 2 => some (before * 16 + value / 4).toUInt8
  | _ => some (before * 64 + value).toUInt8

/-- Decodes after `place` signs of a group of four, of which the last had the value `before` and
`pads` padding signs followed. -/
def decodeFrom (place before pads : Nat) : List UInt8 → Option (List UInt8)
  | [] => if place = 0 then some [] else none
  | b :: bs =>
    if b = padding then
      if 2 ≤ place ∧ 4 ≤ place + pads + 1 then some []
      else decodeFrom place before (if 2 ≤ place then pads + 1 else pads) bs
    else match value? b with
      | none => decodeFrom place before pads bs
      | some v =>
        let rest := decodeFrom ((place + 1) % 4) v 0 bs
        match byteAt place before v with
        | none => rest
        | some byte => rest.map (byte :: ·)

/-- The bytes that signs write, if they fill groups of four or are padded to do so. -/
def decode? (signs : List UInt8) : Option (List UInt8) := decodeFrom 0 0 0 signs

/-- The bytes that signs write without their padding. -/
def decodeUnpadded? (signs : List UInt8) : Option (List UInt8) :=
  decode? (signs ++ List.replicate ((4 - signs.length % 4) % 4) padding)

end GuardedTools.Base64
