import GuardedTools.Check.Numeral
import GuardedTools.Json.Printer
import GuardedTools.Json.Reader
import GuardedTools.Value.Display
import GuardedTools.Value.SetOrder

/-!
# Written values

A notation for values in JSON.  What JSON has a form for stands for itself, and an object with one
marked key stands for something else: `Value.ofNotation` reads the notation of values that are
given, and `Value.toNotation` writes that of values that come back, which tells more of them apart.
-/

namespace GuardedTools

/-- The bytes that pairs of hexadecimal digits write. -/
def hexBytes : List CodePoint → List UInt8
  | a :: b :: rest =>
    ((a.hexValue?.getD 0) * 16 + b.hexValue?.getD 0).toUInt8 :: hexBytes rest
  | _ => []

/-- Bytes in hexadecimal. -/
def hexText (bs : List UInt8) : Text := Text.concat (bs.map fun b => Text.hex 2 b.toNat)

namespace Value

/-- The number that a text writes. -/
def floatOf (t : Text) : Binary64 :=
  (Numeral.scriptReal? t).getD .zero

/-- A list repeated. -/
def times {α : Type} (xs : List α) (n : Nat) : List α := (List.replicate n xs).flatten

/-- A value repeated. -/
def repeated (v : Value) (n : Int) : Value :=
  match v with
  | .text t => .text ⟨times t.points n.toNat⟩
  | .list xs => .list (times xs n.toNat)
  | .tuple xs => .tuple (times xs n.toNat)
  | .bytes bs => .bytes (times bs n.toNat)
  | .int m => .int (m * n)
  | v => v

/-- The key and value of an entry that is written as a list of two. -/
def entryOf : Value → Value × Value
  | .list [a, b] => (a, b)
  | _ => (.null, .null)

/-- What an object with one member stands for. -/
def marked (key : Text) (v : Value) : Value :=
  match key.toStringLossy, v with
  | "$bytes", .text t => .bytes (hexBytes t.points)
  | "$float", .text t => .float (floatOf t)
  | "$tuple", .list xs => .tuple xs
  | "$set", .list xs => match setOf xs with
    | .set frozen ys => .set frozen (inSetOrder ys)
    | v => v
  | "$dict", .list es => dictOf (es.map entryOf)
  | "$ellipsis", _ => .ellipsis
  | "$object", .text t => .object t
  | "$repeat", .list [v, .int n] => repeated v n
  | _, v => .dict [(.text key, v)]

mutual

/-- The value that a notation stands for. -/
def ofNotation : Json → Value
  | .null => .null
  | .bool b => .bool b
  | .int n => .int n
  | .float x => .float x
  | .text t => .text t
  | .array xs => .list (ofNotations xs)
  | .object ms => match ofMembersNotation ms with
    | [(k, v)] => marked k v
    | vs => .dict (vs.map fun e => (.text e.1, e.2))

def ofNotations : List Json → List Value
  | [] => []
  | x :: xs => ofNotation x :: ofNotations xs

def ofMembersNotation : List (Text × Json) → List (Text × Value)
  | [] => []
  | (k, x) :: ms => (k, ofNotation x) :: ofMembersNotation ms

end

/-- The entries that a notation gives, none if it is not that of a map. -/
def entriesOfNotation (j : Json) : List (Value × Value) :=
  match ofNotation j with
  | .dict es => es
  | _ => []

/-- The notation of a number. -/
def floatNotation (x : Binary64) : Json :=
  Json.record [("f64", .text (if x.isNaN then "nan" else Text.hex 16 x.bits.toNat))]

/-- The keys of a map, if all of them are texts. -/
def textKeys? (es : List (Value × Value)) : Option (List Text) :=
  es.mapM fun e => match e.1 with
    | .text t => some t
    | _ => Option.none

/-- Notations in the order of their text. -/
def sortNotations (js : List Json) : List Json :=
  ((js.map fun j => (j.canonical, j)).mergeSort fun a b => Text.le a.1 b.1).map (·.2)

mutual

/-- The notation of a value. -/
def toNotation : Value → Json
  | .null => .null
  | .bool b => .bool b
  | .int n => .int n
  | .float x => floatNotation x
  | .text t => .text t
  | .bytes bs => Json.record [("bytes", .text (hexText bs))]
  | .list xs => .array (toNotations xs)
  | .tuple xs => Json.record [("tuple", .array (toNotations xs))]
  | .set _ xs => Json.record [("set", .array (sortNotations (toNotations xs)))]
  | .dict es => match textKeys? es with
    | some keys => .object (keys.zip (entryNotations es))
    | Option.none => Json.record [("dict", .array (pairNotations es))]
  | .ellipsis => Json.record [("object", .str "ellipsis")]
  | .object c => Json.record [("object", .text c)]
  | .member c m _ _ => Json.record [("enum", .text (c ++ "." ++ m))]
  | .record .model c fs _ =>
    Json.record [("model", .text c), ("fields", .object (fieldNotations fs))]
  | .record .dataclass c fs _ =>
    Json.record [("dataclass", .text c), ("fields", .object (fieldNotations fs))]
  | .complex _ _ => Json.record [("object", .str "complex")]
  | v => .object [(v.className, .text v.plain)]

def toNotations : List Value → List Json
  | [] => []
  | x :: xs => toNotation x :: toNotations xs

/-- The notations of the values of entries. -/
def entryNotations : List (Value × Value) → List Json
  | [] => []
  | (_, x) :: es => toNotation x :: entryNotations es

/-- The notations of entries as lists of two. -/
def pairNotations : List (Value × Value) → List Json
  | [] => []
  | (k, x) :: es => .array [toNotation k, toNotation x] :: pairNotations es

def fieldNotations : List (Text × Value) → List (Text × Json)
  | [] => []
  | (k, x) :: fs => (k, toNotation x) :: fieldNotations fs

end

end Value

namespace Json

/-- A JSON value in the notation of values. -/
def toNotation (j : Json) : Json := (Value.ofJson j).toNotation

/-- The member of an object with a written key, the absent value if there is none. -/
def at? (j : Json) (key : String) : Option Json := j.get? (Text.ofString key)

def «at» (j : Json) (key : String) : Json := (j.at? key).getD .null

/-- The items of a list, none of anything else. -/
def items (j : Json) : List Json := j.array?.getD []

/-- The text of a text, the empty one of anything else. -/
def asText (j : Json) : Text := j.text?.getD Text.empty

/-- Whether a value is the true one. -/
def isTrue : Json → Bool
  | .bool b => b
  | _ => false

/-- A result for a value that is not the absent one. -/
def nullable {α : Type} (f : Json → α) : Json → Option α
  | .null => none
  | j => some (f j)

end Json

end GuardedTools
