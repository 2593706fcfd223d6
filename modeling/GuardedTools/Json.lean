import GuardedTools.Binary64
import GuardedTools.Text

/-!
# JSON values

The values of JSON with integers of any size apart from floating-point numbers, and objects as
lists of members in order.  `Json.sortKeys` orders the members of every object by key, which makes
two values that differ only in that order equal.
-/

namespace GuardedTools

/-- A JSON value.  The members of an object keep their order. -/
inductive Json where
  | null
  | bool (b : Bool)
  | int (n : Int)
  | float (x : Binary64)
  | text (t : Text)
  | array (items : List Json)
  | object (members : List (Text × Json))
deriving Inhabited, Repr

namespace Json

instance : Coe Text Json := ⟨text⟩

/-- The text value of a written string. -/
def str (s : String) : Json := text s

mutual

/-- Equality of JSON values, in which kind of number and order of members count. -/
def same : Json → Json → Bool
  | null, null => true
  | bool a, bool b => a == b
  | int a, int b => a == b
  | float a, float b => a == b
  | text a, text b => a == b
  | array xs, array ys => sameItems xs ys
  | object ms, object ns => sameMembers ms ns
  | _, _ => false

def sameItems : List Json → List Json → Bool
  | [], [] => true
  | x :: xs, y :: ys => same x y && sameItems xs ys
  | _, _ => false

def sameMembers : List (Text × Json) → List (Text × Json) → Bool
  | [], [] => true
  | (k, x) :: ms, (l, y) :: ns => k == l && same x y && sameMembers ms ns
  | _, _ => false

end

instance : BEq Json := ⟨same⟩

/-- Members whose keys are written out. -/
def members (ms : List (String × Json)) : List (Text × Json) :=
  ms.map fun m => (Text.ofString m.1, m.2)

/-- The object of members whose keys are written out. -/
def record (ms : List (String × Json)) : Json := object (members ms)

/-- The member of a list with a key. -/
def lookup (key : Text) : List (Text × Json) → Option Json
  | [] => none
  | (k, x) :: ms => if k = key then some x else lookup key ms

/-- The member of an object with a key. -/
def get? (j : Json) (key : Text) : Option Json :=
  match j with
  | object members => lookup key members
  | _ => none

/-- Puts a member into a list: in the place of the one with its key, or at the end. -/
def put (key : Text) (value : Json) : List (Text × Json) → List (Text × Json)
  | [] => [(key, value)]
  | (k, x) :: ms => if k = key then (k, value) :: ms else (k, x) :: put key value ms

/-- The object of a list of members, in which later ones with a key of an earlier one replace it. -/
def ofMembers (ms : List (Text × Json)) : Json :=
  object (ms.foldl (fun kept m => put m.1 m.2 kept) [])

/-- The members of a list without the one with a key. -/
def remove (key : Text) (members : List (Text × Json)) : List (Text × Json) :=
  members.filter fun m => m.1 != key

/-- The text that a value is. -/
def text? : Json → Option Text
  | text t => some t
  | _ => none

/-- The items that a value is. -/
def array? : Json → Option (List Json)
  | array items => some items
  | _ => none

/-- The members that a value is. -/
def object? : Json → Option (List (Text × Json))
  | object members => some members
  | _ => none

mutual

/-- Whether all texts in a value hold Unicode scalar values only. -/
def isScalar : Json → Bool
  | text t => t.isScalar
  | array items => areScalar items
  | object members => areScalarMembers members
  | _ => true

def areScalar : List Json → Bool
  | [] => true
  | x :: xs => isScalar x && areScalar xs

def areScalarMembers : List (Text × Json) → Bool
  | [] => true
  | (k, x) :: ms => k.isScalar && isScalar x && areScalarMembers ms

end

mutual

/-- The value with the members of every object in the order of their keys. -/
def sortKeys : Json → Json
  | array items => array (sortKeysItems items)
  | object members => object ((sortKeysMembers members).mergeSort fun a b => Text.le a.1 b.1)
  | j => j

def sortKeysItems : List Json → List Json
  | [] => []
  | x :: xs => sortKeys x :: sortKeysItems xs

def sortKeysMembers : List (Text × Json) → List (Text × Json)
  | [] => []
  | (k, x) :: ms => (k, sortKeys x) :: sortKeysMembers ms

end

end Json

end GuardedTools
