import GuardedTools.Json.Printer
import GuardedTools.Value.Order

/-!
# Canonical JSON text of a value

`Value.canonicalText` writes a value as JSON in ASCII without blanks, with the entries of every map
in the order of their keys.  Keys are ordered as values, before they become texts, so numbers are
ordered by size; keys without a common order are refused, and so is a value that JSON has no form
for or that is not written.
-/

namespace GuardedTools

/-- Why a value has no canonical JSON text. -/
inductive CanonicalError where
  /-- A value of a class that JSON has no form for. -/
  | noForm (className : Text)
  /-- A key of a class that cannot be a key in JSON. -/
  | badKey (className : Text)
  /-- Two keys have no common order. -/
  | noOrder (fault : OrderFault)
  /-- The value has a form that is not written. -/
  | unwritten (fault : Json.WriteFault)
deriving DecidableEq, Repr

/-- The word that names a kind of error. -/
def CanonicalError.kind : CanonicalError → Text
  | .unwritten fault => fault.kind
  | _ => "TypeError"

/-- The error in words. -/
def CanonicalError.message : CanonicalError → Text
  | .noForm c => "Object of type " ++ c ++ " is not JSON serializable"
  | .badKey c => "keys must be str, int, float, bool or None, not " ++ c
  | .noOrder fault => fault.message
  | .unwritten fault => fault.message

namespace Value

/-- A key as the key of an object. -/
def keyText : Value → Except CanonicalError Text
  | .text t => .ok t
  | .int n =>
    if Json.isWritten n then .ok (Text.ofInt n) else .error (.unwritten .tooManyDigits)
  | .float x => .ok (Json.floatText x)
  | .bool b => .ok (if b then "true" else "false")
  | .null => .ok "null"
  | v => .error (.badKey v.className)

mutual

/-- The JSON value of a value in which lists and maps may be nested as deeply as said, with the
members of objects as they stand or in the order of their keys.  Keys are looked at before values,
and entries in their order. -/
def jsonWithin (isOrdered : Bool) : Nat → Value → Except CanonicalError Json
  | _, .null => .ok .null
  | _, .bool b => .ok (.bool b)
  | _, .int n => if Json.isWritten n then .ok (.int n) else .error (.unwritten .tooManyDigits)
  | _, .float x => .ok (.float x)
  | _, .text t => .ok (.text t)
  | 0, .list _ => .error (.unwritten .tooDeep)
  | depth + 1, .list xs => do return .array (← jsonItems isOrdered depth xs)
  | 0, .tuple _ => .error (.unwritten .tooDeep)
  | depth + 1, .tuple xs => do return .array (← jsonItems isOrdered depth xs)
  | 0, .dict _ => .error (.unwritten .tooDeep)
  | depth + 1, .dict es => do
    let delayed := delayedEntries isOrdered depth es
    let entries ← if isOrdered then (sortEntries delayed).mapError .noOrder else pure delayed
    let members ← entries.mapM fun (k, x) => do
      let key ← keyText k
      return (key, ← x)
    return .object members
  | _, v => .error (.noForm v.className)

def jsonItems (isOrdered : Bool) (depth : Nat) : List Value → Except CanonicalError (List Json)
  | [] => .ok []
  | x :: xs => do return (← jsonWithin isOrdered depth x) :: (← jsonItems isOrdered depth xs)

/-- The entries of a map with the outcome of each value. -/
def delayedEntries (isOrdered : Bool) (depth : Nat) :
    List (Value × Value) → List (Value × Except CanonicalError Json)
  | [] => []
  | (k, x) :: es => (k, jsonWithin isOrdered depth x) :: delayedEntries isOrdered depth es

end

/-- The JSON value of a value that is written, with the members of objects as they stand or in the
order of their keys. -/
def toJson (isOrdered : Bool) (v : Value) : Except CanonicalError Json :=
  v.jsonWithin isOrdered Json.writeDepth

/-- The canonical JSON text of a value. -/
def canonicalText (v : Value) : Except CanonicalError Text := do
  return (← v.toJson true).compact

end Value

end GuardedTools
