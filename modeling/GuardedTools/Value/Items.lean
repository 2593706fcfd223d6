import GuardedTools.Text.Quoted
import GuardedTools.Value

/-!
# Items of values

What is gone through where a collection is asked for: the items of a list, the keys of a map, the
characters of a text and the bytes of bytes.  Where items are to be found again they must be
hashable, and where a map is asked for they must be pairs (`Value.entries`).
-/

namespace GuardedTools

/-- Why the items of a value do not make what is asked for. -/
inductive ItemsFault where
  /-- There are no items to go through. -/
  | notIterable (className : Text)
  /-- A value can be no item of a set and no key of a map. -/
  | unhashable (className : Text)
  /-- An item has no items itself. -/
  | notAPair (index : Nat)
  /-- An item has not two items. -/
  | pairLength (index length : Nat)
deriving DecidableEq, Inhabited, Repr

namespace ItemsFault

/-- The word that names a kind of fault. -/
def kind : ItemsFault → Text
  | pairLength _ _ => "ValueError"
  | _ => "TypeError"

def message : ItemsFault → Text
  | notIterable c => c.quoted ++ " object is not iterable"
  | unhashable c => "unhashable type: " ++ c.quoted
  | notAPair i =>
    "cannot convert dictionary update sequence element #" ++ Text.ofNat i ++ " to a sequence"
  | pairLength i n =>
    "dictionary update sequence element #" ++ Text.ofNat i ++ " has length " ++ Text.ofNat n
      ++ "; 2 is required"

end ItemsFault

namespace Value

/-- The items of a value, if it has any to go through. -/
def items? : Value → Option (List Value)
  | list xs => some xs
  | tuple xs => some xs
  | set _ xs => some xs
  | dict es => some (es.map (·.1))
  | text t => some (t.points.map fun p => .text ⟨[p]⟩)
  | bytes bs => some (bs.map fun b => .int b.toNat)
  | _ => none

/-- The texts among some values. -/
def texts (vs : List Value) : List Text :=
  vs.filterMap fun
    | text t => some t
    | member _ _ (text t) .text => some t
    | _ => none

/-- The items of a value. -/
def items (v : Value) : Except ItemsFault (List Value) :=
  match v.items? with
  | some xs => .ok xs
  | none => .error (.notIterable v.className)

/-- A value that can be found again. -/
def hashable (v : Value) : Except ItemsFault Value :=
  match v.unhashable? with
  | some c => .error (.unhashable c)
  | none => .ok v

/-- The items of a value, each of them once. -/
def setItems (v : Value) : Except ItemsFault (List Value) := do
  let xs ← (← v.items).mapM hashable
  return match setOf xs with
    | set _ ys => ys
    | _ => xs

/-- The entries that pairs make, the first of which has an index. -/
def pairEntries (index : Nat) : List Value → Except ItemsFault (List (Value × Value))
  | [] => .ok []
  | x :: xs => match x.items? with
    | none => .error (.notAPair index)
    | some [k, y] => do
      let k ← k.hashable
      return (k, y) :: (← pairEntries (index + 1) xs)
    | some ys => .error (.pairLength index ys.length)

/-- The entries of a map, or of pairs; of several with one key the last one counts. -/
def entries (v : Value) : Except ItemsFault (List (Value × Value)) :=
  match v with
  | dict es => .ok es
  | v => do
    let pairs ← pairEntries 0 (← v.items)
    return match dictOf pairs with
      | dict es => es
      | _ => pairs

end Value

end GuardedTools
