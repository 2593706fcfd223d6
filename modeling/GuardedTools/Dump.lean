import GuardedTools.Check

/-!
# Values as JSON

`Shape.dump` writes a value of a shape as JSON: bytes as the text they are in UTF-8, tuples and sets
as arrays, members of enumerations as their values, and calendar values and decimals as texts.  Keys of
maps become texts, and of entries whose keys become one text the last one stays.  A value that the shape
does not describe is written as values of any kind are.

A floating-point number that is not finite has no JSON form.  Where the shape says nothing it is
written as `null`; where the shape says that a number stands there it stays, and `Json.isSendable`
tells that the whole cannot be sent.
-/

namespace GuardedTools

namespace Json

mutual

/-- Whether all numbers in a value can be sent: they are finite, and no integer is too long. -/
def isSendable : Json → Bool
  | float x => x.isFinite
  | int n => (Nat.toDigits 10 n.natAbs).length ≤ Text.digitLimit
  | array items => areSendable items
  | object members => areSendableMembers members
  | _ => true

def areSendable : List Json → Bool
  | [] => true
  | x :: xs => isSendable x && areSendable xs

def areSendableMembers : List (Text × Json) → Bool
  | [] => true
  | (_, x) :: ms => isSendable x && areSendableMembers ms

end

end Json

/-- Why a value is not written. -/
inductive DumpFault where
  /-- The shape does not describe the value. -/
  | mismatch
  /-- The value has no JSON form. -/
  | noForm
deriving DecidableEq, Inhabited, Repr

abbrev Dumped := Except DumpFault Json

namespace Dump

/-- How many values may stand within one another. -/
def depthLimit : Nat := 255

/-- A complex number as a sum; a real part of zero is left out. -/
def complexText (re im : Binary64) : Text :=
  let imaginary := im.fullText ++ "j"
  if re.equals .zero then imaginary
  else re.fullText ++ (if im.isNegative then Text.empty else Text.ofString "+") ++ imaginary

/-- Bytes as the text they are. -/
def ofBytes (bs : List UInt8) : Except DumpFault Text :=
  match Utf8.decode bs with
  | .ok t => .ok t
  | .error _ => .error .noForm

/-- A text as a key: in the place of a code point that is none of Unicode stand as many replacement
characters as it would have bytes. -/
def keyText (t : Text) : Text :=
  ⟨t.points.flatMap fun p =>
    if 0xD800 ≤ p.toNat && p.toNat < 0xE000 then List.replicate 3 (.ofNat 0xFFFD) else [p]⟩

mutual

/-- The key that a value is written as. -/
def key : Value → Except DumpFault Text
  | .text t => .ok (keyText t)
  | .null => .ok "None"
  | .bool b => .ok (if b then "true" else "false")
  | .int n => .ok (Text.ofInt n)
  | .float x => .ok x.toText
  | .bytes bs => ofBytes bs
  | .date d => .ok d.toText
  | .time t => .ok t.isoText
  | .dateTime d t => .ok (d.toText ++ "T" ++ t.isoText)
  | .duration d => .ok d.isoText
  | .decimal d => .ok d.toText
  | .uuid t => .ok t
  | .complex re im => .ok (complexText re im)
  | .member _ _ v _ => key v
  | .tuple xs => do return Text.intercalate "," (← keys xs)
  | _ => .error .noForm

def keys : List Value → Except DumpFault (List Text)
  | [] => .ok []
  | x :: xs => do
    let k ← key x
    return k :: (← keys xs)

end

/-- The value of a scalar, if it is one. -/
def scalar? : Value → Option Dumped
  | .null => some (.ok .null)
  | .bool b => some (.ok (.bool b))
  | .int n => some (.ok (.int n))
  | .text t => some (.ok (.text t))
  | .bytes bs => some ((ofBytes bs).map .text)
  | .date d => some (.ok (.text d.toText))
  | .time t => some (.ok (.text t.isoText))
  | .dateTime d t => some (.ok (.text (d.toText ++ "T" ++ t.isoText)))
  | .duration d => some (.ok (.text d.isoText))
  | .decimal d => some (.ok (.text d.toText))
  | .uuid t => some (.ok (.text t))
  | .complex re im => some (.ok (.text (complexText re im)))
  | _ => none

mutual

/-- Writes a value of any kind; `declared` says whether it stands in a field of a class, where
numbers that are not finite stay. -/
def untyped (declared : Bool) : Nat → Value → Dumped
  | _, .float x => .ok (if x.isFinite || declared then .float x else .null)
  | 0, v => (scalar? v).getD (.error .noForm)
  | n + 1, v => match v with
    | .list xs => (untypedItems declared n xs).map .array
    | .tuple xs => (untypedItems declared n xs).map .array
    | .set _ xs => (untypedItems declared n xs).map .array
    | .dict es => (untypedEntries declared n es).map Json.ofMembers
    | .member _ _ v _ => untyped declared n v
    | .record _ _ fields extras => do
      let shown ← untypedFields n true fields
      return .object (shown ++ (← untypedFields n false extras))
    | v => (scalar? v).getD (.error .noForm)
termination_by n => (n, 0)

def untypedItems (declared : Bool) (n : Nat) : List Value → Except DumpFault (List Json)
  | [] => .ok []
  | x :: xs => do
    let j ← untyped declared n x
    return j :: (← untypedItems declared n xs)
termination_by xs => (n, xs.length + 1)

def untypedEntries (declared : Bool) (n : Nat) :
    List (Value × Value) → Except DumpFault (List (Text × Json))
  | [] => .ok []
  | (k, x) :: es => do
    let k ← key k
    let j ← untyped declared n x
    return (k, j) :: (← untypedEntries declared n es)
termination_by es => (n, es.length + 1)

def untypedFields (n : Nat) (declared : Bool) :
    List (Text × Value) → Except DumpFault (List (Text × Json))
  | [] => .ok []
  | (k, x) :: fs => do
    let j ← untyped declared n x
    return (k, j) :: (← untypedFields n declared fs)
termination_by fs => (n, fs.length + 1)

end

/-- What is written of a value that the shape does not describe. -/
def mismatch (strict : Bool) (v : Value) : Dumped :=
  if strict then .error .mismatch else untyped false depthLimit v

/-- Writes all values of a list. -/
def all (dump : Value → Dumped) : List Value → Except DumpFault (List Json)
  | [] => .ok []
  | x :: xs => do
    let j ← dump x
    return j :: (← all dump xs)

/-- Writes all entries of a map. -/
def entries (dumpKey : Value → Except DumpFault Text) (dump : Value → Dumped) :
    List (Value × Value) → Except DumpFault (List (Text × Json))
  | [] => .ok []
  | (k, x) :: es => do
    let k ← dumpKey k
    let j ← dump x
    return (k, j) :: (← entries dumpKey dump es)

/-- Writes all fields of a record, the declared ones each in its own way. -/
def fields (strict : Bool) (declared : List (Text × (Value → Dumped))) (keep : Bool) :
    List (Text × Value) → Except DumpFault (List (Text × Json))
  | [] => .ok []
  | (name, x) :: rest =>
    match declared.find? (·.1 == name) with
    | some (_, dump) => do
      let j ← dump x
      return (name, j) :: (← fields strict declared keep rest)
    | none =>
      if keep then do
        let j ← untyped false depthLimit x
        return (name, j) :: (← fields strict declared keep rest)
      else if strict then .error .mismatch
      else fields strict declared keep rest

/-- The entries of a map whose keys are texts, as fields. -/
def namedEntries? : List (Value × Value) → Option (List (Text × Value))
  | [] => some []
  | (.text k, x) :: es => (namedEntries? es).map ((k, x) :: ·)
  | _ => none

/-- Whether a value is of the kind of a record of a class. -/
def isOf (kind : ClassKind) (name : Text) :
    Value → Option (List (Text × Value) × List (Text × Value))
  | .record .model c fields extras => match kind with
    | .model _ => if c = name then some (fields, extras) else none
    | _ => none
  | .record .dataclass c fields extras => match kind with
    | .dataclass => if c = name then some (fields, extras) else none
    | _ => none
  | .dict es => match kind with
    | .typedDict => (namedEntries? es).map fun fs => (fs, [])
    | _ => none
  | _ => none

/-- Writes a record of a class, the declared fields each in its own way; further ones are kept if the
class keeps them. -/
def record (strict : Bool) (kind : ClassKind) (name : Text) (extra : Extra)
    (declared : List (Text × (Value → Dumped))) (v : Value) : Dumped :=
  match isOf kind name v with
  | some (values, extras) => do
    let shown ← fields strict declared (extra == .allow) values
    return .object (shown ++ (← fields strict [] true extras))
  | none => mismatch strict v

/-- The first of the written values of a union's members. -/
def first : List Dumped → Option Dumped
  | [] => none
  | .ok j :: _ => some (.ok j)
  | .error .noForm :: _ => some (.error .noForm)
  | .error .mismatch :: rest => first rest

/-- A writer that uses itself, up to a number of times within itself. -/
def nested (step : (Value → Dumped) → Value → Dumped) : Nat → Value → Dumped
  | 0, _ => .error .noForm
  | n + 1, v => step (nested step n) v

/-- Writes a value if it is of a kind. -/
def ifKind (strict : Bool) (isKind : Value → Bool) (v : Value) : Dumped :=
  if isKind v then (scalar? v).getD (.error .noForm) else mismatch strict v

/-- Whether a value is a scalar that stands for a shape. -/
def isScalarOf : Shape → Value → Bool
  | .none, .null => true
  | .bool, .bool _ => true
  | .str _ _, .text _ => true
  | .int _, .int _ => true
  | .decimal _ _ _, .decimal _ => true
  | .complex, .complex _ _ => true
  | .bytes _, .bytes _ => true
  | .date _, .date _ => true
  | .time _, .time _ => true
  | .dateTime _, .dateTime _ _ => true
  | .duration _, .duration _ => true
  | .uuid, .uuid _ => true
  | _, _ => false

end Dump

open Dump in
mutual

/-- Writes a value of a shape within a class that writes its own kind by `self`; strictly, a value
that the shape does not describe is refused. -/
def Shape.dumpWithin (strict : Bool) (self : Value → Dumped) : Shape → Value → Dumped
  | .any, v => untyped false depthLimit v
  | .float _ _, v => match v with
    | .float x => .ok (.float x)
    | v => mismatch strict v
  | .int _, v => match v with
    | .bool b => if strict then .error .mismatch else .ok (.int (if b then 1 else 0))
    | v => ifKind strict (isScalarOf (.int {})) v
  | .list item _, v => match v with
    | .list xs => (Dump.all (item.dumpWithin strict self) xs).map .array
    | v => mismatch strict v
  | .set frozen item _, v => match v with
    | .set kept xs =>
      if kept = frozen then (Dump.all (item.dumpWithin strict self) xs).map .array
      else mismatch strict v
    | v => mismatch strict v
  | .tupleOf item _, v => match v with
    | .tuple xs => (Dump.all (item.dumpWithin strict self) xs).map .array
    | v => mismatch strict v
  | .tuple items _, v => match v with
    | .tuple xs =>
      if items.length = xs.length then (Shape.dumpItems strict self items xs).map .array
      else mismatch strict v
    | v => mismatch strict v
  | .dict _ value _, v => match v with
    | .dict es => (Dump.entries Dump.key (value.dumpWithin strict self) es).map Json.ofMembers
    | v => mismatch strict v
  | .nullable inner, v => match v with
    | .null => .ok .null
    | v => inner.dumpWithin strict self v
  | .union members, v =>
    (first (Shape.dumpMembers self members v)).getD (mismatch strict v)
  | .tagged _ members, v =>
    (first (Shape.dumpTagged self members v)).getD (mismatch strict v)
  | .literal values, v =>
    if values.any (TypeExpr.sameValue v) then untyped false depthLimit v else mismatch strict v
  | .enum name _ _, v => match v with
    | .member c _ inner _ => if c = name then untyped true depthLimit inner else mismatch strict v
    | v => mismatch strict v
  | .record kind name extra fieldShapes, v =>
    nested (fun self => Dump.record strict kind name extra (Shape.fieldDumps strict self fieldShapes))
      Check.nestingLimit v
  | .self, v => self v
  | .noted _ inner, v => inner.dumpWithin strict self v
  | .bounded _ inner, v => inner.dumpWithin strict self v
  | s, v => ifKind strict (isScalarOf s) v

def Shape.dumpItems (strict : Bool) (self : Value → Dumped) :
    List Shape → List Value → Except DumpFault (List Json)
  | s :: ss, x :: xs => do
    let j ← s.dumpWithin strict self x
    return j :: (← Shape.dumpItems strict self ss xs)
  | _, _ => .ok []

def Shape.dumpMembers (self : Value → Dumped) : List Shape → Value → List Dumped
  | [], _ => []
  | s :: ss, v => s.dumpWithin true self v :: Shape.dumpMembers self ss v

def Shape.dumpTagged (self : Value → Dumped) : List (Value × Shape) → Value → List Dumped
  | [], _ => []
  | (_, s) :: ss, v => s.dumpWithin true self v :: Shape.dumpTagged self ss v

def Shape.fieldDumps (strict : Bool) (self : Value → Dumped) :
    List (Text × Presence × Shape) → List (Text × (Value → Dumped))
  | [] => []
  | (name, _, s) :: fields =>
    (name, s.dumpWithin strict self) :: Shape.fieldDumps strict self fields

end

/-- Writes a value of a shape as JSON. -/
def Shape.dump (s : Shape) (v : Value) : Dumped :=
  s.dumpWithin false (fun _ => .error .noForm) v

end GuardedTools
