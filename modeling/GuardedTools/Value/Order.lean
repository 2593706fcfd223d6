import GuardedTools.Value

/-!
# The order of values

`Value.lt` orders values of one kind: numbers by size, texts by code points, bytes and sequences
item by item, sets by inclusion.  Values of other kinds have no order, and `Value.sorted` of a list
that holds some is refused, with the two classes that were compared first.
-/

namespace GuardedTools

/-- Two values of classes without a common order. -/
structure OrderFault where
  left : Text
  right : Text
deriving DecidableEq, Repr

def OrderFault.message (f : OrderFault) : Text :=
  "'<' not supported between instances of '" ++ f.left ++ "' and '" ++ f.right ++ "'"

namespace Value

/-- Whether a list of bytes comes before another. -/
def bytesLt : List UInt8 → List UInt8 → Bool
  | _, [] => false
  | [], _ :: _ => true
  | a :: as, b :: bs => if a < b then true else if b < a then false else bytesLt as bs

mutual

/-- Whether a value comes before another; refused if they have no order. -/
def lt : Value → Value → Except OrderFault Bool
  | list xs, list ys => ltItems xs ys
  | tuple xs, tuple ys => ltItems xs ys
  | set _ xs, set _ ys => .ok (xs.length < ys.length && sameWithin xs ys)
  | bytes a, bytes b => .ok (bytesLt a b)
  | complex a b, y => .error { left := (complex a b).className, right := y.className }
  | x, y => match x.toExact?, y.toExact? with
    | some a, some b => .ok (a.compare? b == some .lt)
    | _, _ => match x.wording?, y.wording? with
      | some s, some t => .ok (s.lt t)
      | _, _ => .error { left := x.className, right := y.className }

/-- Whether a sequence comes before another: the first items that differ decide, or the length. -/
def ltItems : List Value → List Value → Except OrderFault Bool
  | _, [] => .ok false
  | [], _ :: _ => .ok true
  | x :: xs, y :: ys => if same x y then ltItems xs ys else lt x y

end

/-- The entries after `last` that go on in its direction, and those left after them. -/
def runAfter {α : Type} (falls : Bool) (last : Value × α) : List (Value × α) →
    Except OrderFault (List (Value × α) × List (Value × α))
  | [] => .ok ([], [])
  | e :: es => do
    if (← lt e.1 last.1) = falls then
      let (run, rest) ← runAfter falls e es
      return (e :: run, rest)
    else return ([], e :: es)

/-- The entries at the beginning that are in order already, or in the opposite order, and those
left after them. -/
def firstRun {α : Type} : List (Value × α) →
    Except OrderFault (List (Value × α) × List (Value × α))
  | e :: f :: es => do
    let falls ← lt f.1 e.1
    let (run, rest) ← runAfter falls f es
    return (if falls then (e :: f :: run).reverse else e :: f :: run, rest)
  | es => .ok (es, [])

/-- The position between `low` and `high` where a key belongs, found by halving. -/
def placeOf {α : Type} (key : Value) (sorted : List (Value × α)) :
    Nat → Nat → Nat → Except OrderFault Nat
  | 0, low, _ => .ok low
  | fuel + 1, low, high => do
    let middle := low + (high - low) / 2
    match sorted[middle]? with
    | none => return low
    | some (k, _) =>
      if high ≤ low then return low
      else if ← lt key k then placeOf key sorted fuel low middle
      else placeOf key sorted fuel (middle + 1) high

/-- Sorted entries with one more. -/
def insertEntry {α : Type} (sorted : List (Value × α)) (e : Value × α) :
    Except OrderFault (List (Value × α)) := do
  let place ← placeOf e.1 sorted (sorted.length + 1) 0 sorted.length
  return sorted.take place ++ e :: sorted.drop place

/-- Entries in the order of their keys.  Which keys are compared, and so which of them are told to
have no order, follows from how the entries are sorted: the run at the beginning is kept, and the
others are put into it one by one. -/
def sortEntries {α : Type} (entries : List (Value × α)) :
    Except OrderFault (List (Value × α)) := do
  let (run, rest) ← firstRun entries
  rest.foldlM insertEntry run

/-- Values in their order. -/
def sorted (vs : List Value) : Except OrderFault (List Value) :=
  (sortEntries (vs.map fun v => (v, ()))).map fun es => es.map (·.1)

end Value

end GuardedTools
