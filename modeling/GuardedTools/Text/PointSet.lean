import GuardedTools.Text

/-!
# Sets of code points

A set of numbers that consists of few stretches is kept as the ascending list of the numbers where
membership changes.  So a set and its complement have nearly the same list, and union, intersection
and difference are one sweep over two lists (`PointSet.swept`), which asks at each change what
membership is to be.

Large sets are written as text: the distances from each change to the next, in decimal digits with
blanks between them (`PointSet.ofDistances`).
-/

namespace GuardedTools

/-- A set of numbers of code points: the ascending numbers where membership changes. -/
structure PointSet where
  changes : List Nat
deriving DecidableEq, Inhabited, Repr

namespace PointSet

/-- Whether a number is in the set of a list of changes. -/
def member : List Nat → Nat → Bool
  | [], _ => false
  | c :: cs, n => if n < c then false else !member cs n

/-- Whether a code point is in a set. -/
def holds (s : PointSet) (p : CodePoint) : Bool := member s.changes p.toNat

def nothing : PointSet := ⟨[]⟩

/-- The numbers between two, ends included. -/
def range (low high : Nat) : PointSet := ⟨[low, high + 1]⟩

/-- The set of one code point. -/
def only (p : CodePoint) : PointSet := range p.toNat p.toNat

/-- The numbers that are not in a set. -/
def complement (s : PointSet) : PointSet :=
  match s.changes with
  | 0 :: cs => ⟨cs⟩
  | cs => ⟨0 :: cs⟩

/-- The changes of what is in two sets as a condition has it.  The flags say whether the numbers
before the next changes are in the two sets. -/
def swept (f : Bool → Bool → Bool) (a b : Bool) : List Nat → List Nat → List Nat
  | [], [] => []
  | c :: cs, [] =>
    let more := swept f (!a) b cs []
    if f a b == f (!a) b then more else c :: more
  | [], d :: ds =>
    let more := swept f a (!b) [] ds
    if f a b == f a (!b) then more else d :: more
  | c :: cs, d :: ds =>
    if c < d then
      let more := swept f (!a) b cs (d :: ds)
      if f a b == f (!a) b then more else c :: more
    else if d < c then
      let more := swept f a (!b) (c :: cs) ds
      if f a b == f a (!b) then more else d :: more
    else
      let more := swept f (!a) (!b) cs ds
      if f a b == f (!a) (!b) then more else c :: more
termination_by cs ds => cs.length + ds.length

instance : Union PointSet := ⟨fun s t => ⟨swept or false false s.changes t.changes⟩⟩

instance : Inter PointSet := ⟨fun s t => ⟨swept and false false s.changes t.changes⟩⟩

instance : SDiff PointSet :=
  ⟨fun s t => ⟨swept (fun a b => a && !b) false false s.changes t.changes⟩⟩

/-- What is in one of two sets and not in both. -/
def symmDiff (s t : PointSet) : PointSet := (s \ t) ∪ (t \ s)

/-- The changes of a set of numbers in ascending order. -/
def changesAt : List Nat → List Nat
  | [] => []
  | n :: ns => match changesAt ns with
    | c :: cs => if c == n + 1 then n :: cs else n :: (n + 1) :: c :: cs
    | [] => [n, n + 1]

/-- The set of some numbers. -/
def ofList (ns : List Nat) : PointSet :=
  ⟨changesAt (ns.mergeSort).eraseReps⟩

/-- The stretches of a set up to the last code point, ends included. -/
def stretches (s : PointSet) : List (Nat × Nat) :=
  pairs (s ∩ range 0 0x10FFFF).changes
where
  /-- Two changes after each other as the ends of a stretch. -/
  pairs : List Nat → List (Nat × Nat)
    | low :: next :: cs => (low, next - 1) :: pairs cs
    | _ => []

/-- The numbers in a text of digits and blanks; the first argument is the number being read. -/
def numbers : Option Nat → List Char → List Nat
  | n, [] => n.toList
  | n, c :: cs =>
    if c.isDigit then numbers (some (10 * n.getD 0 + (c.toNat - 48))) cs
    else n.toList ++ numbers none cs

/-- The sums of a list up to each of its numbers. -/
def sums (before : Nat) : List Nat → List Nat
  | [] => []
  | n :: ns => (before + n) :: sums (before + n) ns

/-- The set whose changes have the distances that a text lists. -/
def ofDistances (s : String) : PointSet := ⟨sums 0 (numbers none s.toList)⟩

end PointSet

end GuardedTools
