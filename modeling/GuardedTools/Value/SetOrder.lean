import GuardedTools.Value

/-!
# The order of sets

The items of a set are gone through in the order of the places that they have in a table.  A number
is put at the place that its residue modulo a Mersenne prime says, or after it where places are
taken, and the table is made larger before it is three fifths full.  `Value.inSetOrder` brings
items into that order if all of them are numbers; others stay in the order in which they came.
-/

namespace GuardedTools

namespace Value

/-! ### Residues -/

/-- How many bits the modulus of residues has. -/
def residueBits : Nat := 61

def residueModulus : Nat := Nat.pow 2 residueBits - 1

/-- A residue with a sign; one number is left out, and its neighbour stands for it. -/
def signedResidue (negative : Bool) (n : Nat) : Int :=
  let size : Int := (n % residueModulus : Nat)
  let r := if negative then -size else size
  if r = -1 then -2 else r

/-- The residue of a power of two in the denominator. -/
def inverseOfPower (den : Nat) : Nat :=
  Nat.pow 2 ((residueBits - den.log2 % residueBits) % residueBits)

/-- The residue of infinity. -/
def infiniteResidue : Nat := 314159

/-- The residue of a number; equal numbers have the same one. -/
def residue? : Value → Option Int
  | bool b => some (if b then 1 else 0)
  | int n => some (signedResidue (n < 0) n.natAbs)
  | float x => match x.ratio? with
    | some (negative, n, d) => some (signedResidue negative (n * inverseOfPower d))
    | none => if x.isNaN then none else some (signedResidue x.isNegative infiniteResidue)
  | _ => none

/-- A residue as a word without a sign. -/
def residueWord (r : Int) : Nat := (r % (Nat.pow 2 64 : Nat)).toNat

/-! ### Tables -/

/-- A table with as many places as `size`, a power of two; an entry has a place, its word and what
stands there. -/
structure PlaceTable (α : Type) where
  size : Nat := 8
  entries : List (Nat × Nat × α) := []

namespace PlaceTable

variable {α : Type}

/-- How many places after one are tried before another is looked for. -/
def neighbours : Nat := 9

def isTaken (t : PlaceTable α) (place : Nat) : Bool := t.entries.any (·.1 == place)

/-- The first free place from one on; what is left of the word says where to look next. -/
def freePlace (t : PlaceTable α) : Nat → Nat → Nat → Nat
  | 0, place, _ => place
  | fuel + 1, place, left =>
    let tried := if place + neighbours < t.size then neighbours + 1 else 1
    match (List.range tried).find? fun k => !t.isTaken (place + k) with
    | some k => place + k
    | none =>
      let left := left / 32
      freePlace t fuel ((place * 5 + 1 + left) % t.size) left

/-- A table with one more item, whatever its size. -/
def put (t : PlaceTable α) (word : Nat) (a : α) : PlaceTable α :=
  let place := t.freePlace (t.size + 64) (word % t.size) word
  { t with entries := t.entries ++ [(place, word, a)] }

/-- The entries in the order of their places. -/
def inOrder (t : PlaceTable α) : List (Nat × Nat × α) :=
  t.entries.mergeSort fun a b => a.1 ≤ b.1

/-- The least power of two above a number, from one on. -/
def sizeAbove (n : Nat) : Nat → Nat → Nat
  | 0, size => size
  | fuel + 1, size => if n < size then size else sizeAbove n fuel (2 * size)

/-- How many items a table has from which on it grows by less. -/
def manyItems : Nat := 50000

/-- A table that is larger if this one is too full. -/
def grown (t : PlaceTable α) : PlaceTable α :=
  let n := t.entries.length
  if n * 5 < (t.size - 1) * 3 then t
  else
    let size := sizeAbove (if manyItems < n then n * 2 else n * 4) 64 8
    t.inOrder.foldl (fun larger e => larger.put e.2.1 e.2.2) { size }

/-- A table with one more item. -/
def insert (t : PlaceTable α) (word : Nat) (a : α) : PlaceTable α := (t.put word a).grown

end PlaceTable

/-- Different items in the order in which a set of them is gone through. -/
def inSetOrder (xs : List Value) : List Value :=
  match xs.mapM residue? with
  | some rs =>
    let table : PlaceTable Value := (rs.zip xs).foldl (fun t e => t.insert (residueWord e.1) e.2) {}
    table.inOrder.map (·.2.2)
  | none => xs

end Value

end GuardedTools
