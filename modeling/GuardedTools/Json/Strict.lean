import GuardedTools.Json.Printer
import GuardedTools.Text.Digit
import GuardedTools.Text.Utf8

/-!
# JSON on the wire

The layout that the transport sends: without blanks, with texts as they stand, in UTF-8.  It is
strict: a number that is not finite has no form, an integer with more digits than are ever written
has none, and neither has a text with a lone surrogate (`Json.strictBytes?`).
-/

namespace GuardedTools.Json

mutual

/-- The value without blanks; only what must be escaped is. -/
def strictText? : Json → Option Text
  | null => some "null"
  | bool b => some (if b then "true" else "false")
  | int n =>
    if (Nat.toDigits 10 n.natAbs).length ≤ Text.digitLimit then some (Text.ofInt n) else none
  | float x => if x.isFinite then some x.toText else none
  | text t => some (quotePlain t)
  | array items => do
    let shown ← strictItems? items
    return "[" ++ Text.intercalate "," shown ++ "]"
  | object members => do
    let shown ← strictMembers? members
    return "\x7b" ++ Text.intercalate "," shown ++ "\x7d"

def strictItems? : List Json → Option (List Text)
  | [] => some []
  | x :: xs => do
    let t ← strictText? x
    return t :: (← strictItems? xs)

def strictMembers? : List (Text × Json) → Option (List Text)
  | [] => some []
  | (k, x) :: ms => do
    let t ← strictText? x
    return (quotePlain k ++ ":" ++ t) :: (← strictMembers? ms)

end

/-- The bytes that are sent for a value, if there are any. -/
def strictBytes? (j : Json) : Option (List UInt8) := j.strictText?.bind Utf8.encode

end GuardedTools.Json
