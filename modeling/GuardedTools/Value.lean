import GuardedTools.Binary64.Shortest
import GuardedTools.Calendar
import GuardedTools.Decimal
import GuardedTools.Json

/-!
# Values

What callers pass to tools and tools return: the values of JSON, and beside them bytes, tuples,
sets, maps with keys of any kind, members of enumerations, records of declared classes, calendar
values and objects of which only the class is known.

`Value.same` is the equality under which keys of maps and members of sets coincide: numbers are
compared by value whatever their kind, a truth value counts as zero or one, and moments with known
offsets are equal if they are one moment.
-/

namespace GuardedTools

/-- The two kinds of records that a class declares. -/
inductive RecordKind where
  | model
  | dataclass
deriving DecidableEq, Inhabited, Repr

/-- What members of an enumeration are beside being members. -/
inductive EnumBase where
  | plain
  | text
  | integer
deriving DecidableEq, Inhabited, Repr

/-- A value. -/
inductive Value where
  | null
  | bool (b : Bool)
  | int (n : Int)
  | float (x : Binary64)
  | text (t : Text)
  | bytes (bs : List UInt8)
  | list (items : List Value)
  | tuple (items : List Value)
  /-- A set, which can be a key or an item of a set itself if it is frozen. -/
  | set (frozen : Bool) (items : List Value)
  | dict (entries : List (Value × Value))
  /-- The value that stands for "no default". -/
  | ellipsis
  /-- An object of which only the name of the class is known. -/
  | object (className : Text)
  /-- A member of an enumeration. -/
  | member (className name : Text) (value : Value) (base : EnumBase)
  /-- A record of a declared class: its declared fields, and the further ones it was given. -/
  | record (kind : RecordKind) (className : Text) (fields extras : List (Text × Value))
  | date (d : Date)
  | time (t : TimeOfDay)
  | dateTime (d : Date) (t : TimeOfDay)
  | duration (d : Duration)
  | decimal (d : Decimal)
  | uuid (t : Text)
  | complex (re im : Binary64)
deriving Inhabited, Repr

namespace Value

/-- A value, or the text or integer that a member of an enumeration is. -/
def bare : Value → Value
  | member _ _ v .text => v
  | member _ _ v .integer => v
  | v => v

/-- The exact number that a value counts as in comparisons. -/
def toExact? (v : Value) : Option Decimal :=
  match v.bare with
  | bool b => some (.ofInt (if b then 1 else 0))
  | int n => some (.ofInt n)
  | float x => some (.ofBinary64 x)
  | decimal d => some d
  | complex re im => if im.equals .zero then some (.ofBinary64 re) else none
  | _ => none

/-- The text that a value is. -/
def wording? (v : Value) : Option Text :=
  match v.bare with
  | text t => some t
  | _ => none

mutual

/-- Whether two values are equal. -/
def same : Value → Value → Bool
  | null, null => true
  | ellipsis, ellipsis => true
  | bool a, bool b => a == b
  | int a, int b => a == b
  | text a, text b => a == b
  | bytes a, bytes b => a == b
  | list xs, list ys => sameItems xs ys
  | tuple xs, tuple ys => sameItems xs ys
  | set _ xs, set _ ys => xs.length == ys.length && sameWithin xs ys
  | dict xs, dict ys => xs.length == ys.length && sameEntries xs ys
  | member c m _ .plain, member c' m' _ .plain => c == c' && m == m'
  | object _, object _ => false
  | record k c fs _, record k' c' fs' _ => k == k' && c == c' && sameFields fs fs'
  | date a, date b => a == b
  | time a, time b => a.same b
  | dateTime a s, dateTime b t => Calendar.sameMoment a s b t
  | duration a, duration b => a == b
  | uuid a, uuid b => a == b
  | complex a b, complex c d => a.equals c && b.equals d
  | x, y => match x.toExact?, y.toExact? with
    | some a, some b => a.equals b
    | _, _ => match x.wording?, y.wording? with
      | some s, some t => s == t
      | _, _ => false

def sameItems : List Value → List Value → Bool
  | [], [] => true
  | x :: xs, y :: ys => same x y && sameItems xs ys
  | _, _ => false

/-- Whether every item of the first list is equal to one of the second. -/
def sameWithin : List Value → List Value → Bool
  | [], _ => true
  | x :: xs, ys => ys.any (same x) && sameWithin xs ys

/-- Whether every entry of the first list has an equal one in the second. -/
def sameEntries : List (Value × Value) → List (Value × Value) → Bool
  | [], _ => true
  | (k, x) :: es, fs => fs.any (fun f => same k f.1 && same x f.2) && sameEntries es fs

def sameFields : List (Text × Value) → List (Text × Value) → Bool
  | [], [] => true
  | (k, x) :: fs, (l, y) :: gs => k == l && same x y && sameFields fs gs
  | _, _ => false

end

/-- The entry of a map with a key. -/
def find? (key : Value) : List (Value × Value) → Option Value
  | [] => none
  | (k, x) :: es => if same k key then some x else find? key es

/-- Puts an entry into a map: in the place of the one with an equal key, whose key stays, or at the
end. -/
def put (key value : Value) : List (Value × Value) → List (Value × Value)
  | [] => [(key, value)]
  | (k, x) :: es => if same k key then (k, value) :: es else (k, x) :: put key value es

/-- The map of a list of entries, in which later ones with an equal key replace earlier ones. -/
def dictOf (entries : List (Value × Value)) : Value :=
  .dict (entries.foldl (fun es e => put e.1 e.2 es) [])

/-- The set of a list of items. -/
def setOf (items : List Value) : Value :=
  .set false (items.foldl (fun xs x => if xs.any (same x) then xs else xs ++ [x]) [])

/-- The entry of a map under a text. -/
def get? (v : Value) (key : Text) : Option Value :=
  match v with
  | dict entries => find? (.text key) entries
  | _ => none

/-- The map with texts as keys. -/
def ofMembers (members : List (Text × Value)) : Value :=
  .dict (members.map fun m => (.text m.1, m.2))

mutual

/-- The value of a JSON value. -/
def ofJson : Json → Value
  | .null => null
  | .bool b => bool b
  | .int n => int n
  | .float x => float x
  | .text t => text t
  | .array items => list (ofJsonItems items)
  | .object members => dict (ofJsonMembers members)

def ofJsonItems : List Json → List Value
  | [] => []
  | x :: xs => ofJson x :: ofJsonItems xs

def ofJsonMembers : List (Text × Json) → List (Value × Value)
  | [] => []
  | (k, x) :: ms => (text k, ofJson x) :: ofJsonMembers ms

end

/-- The name of the class of a value, as messages show it. -/
def className : Value → Text
  | null => "NoneType"
  | bool _ => "bool"
  | int _ => "int"
  | float _ => "float"
  | text _ => "str"
  | bytes _ => "bytes"
  | list _ => "list"
  | tuple _ => "tuple"
  | set frozen _ => if frozen then "frozenset" else "set"
  | dict _ => "dict"
  | ellipsis => "ellipsis"
  | object c => c
  | member c _ _ _ => c
  | record _ c _ _ => c
  | date _ => "date"
  | time _ => "time"
  | dateTime _ _ => "datetime"
  | duration _ => "timedelta"
  | decimal _ => "Decimal"
  | uuid _ => "UUID"
  | complex _ _ => "complex"

def isNull : Value → Bool
  | null => true
  | _ => false

/-- Whether a value counts as true: zeros, the absent value and empty texts and collections do
not. -/
def isTruthy : Value → Bool
  | null => false
  | bool b => b
  | int n => n != 0
  | float x => !x.equals .zero
  | text t => !t.isEmpty
  | bytes bs => !bs.isEmpty
  | list xs => !xs.isEmpty
  | tuple xs => !xs.isEmpty
  | set _ xs => !xs.isEmpty
  | dict es => !es.isEmpty
  | _ => true

mutual

/-- The class of the first value within a value, or of itself, for which it can be no key of a map
and no item of a set. -/
def unhashable? : Value → Option Text
  | list _ => some "list"
  | set false _ => some "set"
  | dict _ => some "dict"
  | record _ c _ _ => some c
  | tuple items => unhashableAmong? items
  | _ => none

def unhashableAmong? : List Value → Option Text
  | [] => none
  | x :: xs => unhashable? x <|> unhashableAmong? xs

end

/-- Whether a value can be a key of a map or an item of a set. -/
def isHashable (v : Value) : Bool := v.unhashable?.isNone

end Value

end GuardedTools
