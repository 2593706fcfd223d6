import GuardedTools.Json.Encoded
import GuardedTools.Text.Base64

/-!
# Signed tokens

A token is three segments in base 64 with points between them: a header, a payload and a signature
over the first two as they are written.  `Token.read` takes a text apart and reads the header;
what the header may ask for is decided by `Token.headerFault?`.
-/

namespace GuardedTools

/-- Why a token is refused. -/
inductive TokenFault where
  /-- The text is not that of a token. -/
  | malformed
  /-- The header asks for something that is not known. -/
  | header
  /-- The algorithm is not among those that are allowed. -/
  | algorithm
  /-- The signature is not that of the key. -/
  | signature
  /-- The payload is not an object. -/
  | payload
  /-- A claim has no value of its kind, or one that does not hold. -/
  | claim (name : Text)
  /-- The time of the token is over. -/
  | expired
deriving DecidableEq, Inhabited, Repr

/-- What the caller is told: only that the time of a token is over is said apart. -/
def TokenFault.message : TokenFault → Text
  | expired => "JWT expired"
  | _ => "Invalid JWT"

/-- A token that was taken apart. -/
structure Token where
  /-- What the signature is over. -/
  signed : List UInt8
  header : List (Text × Json)
  payload : List UInt8
  signature : List UInt8
deriving Inhabited, Repr

/-- Why a text is not read as what a segment holds. -/
inductive SegmentFault where
  | malformed
  | tooDeep
deriving DecidableEq, Repr

/-- The object that bytes of JSON are. -/
def Json.objectOfBytes (bytes : List UInt8) : Except SegmentFault (List (Text × Json)) :=
  match Json.textOfBytes? bytes with
  | none => .error .malformed
  | some t => match Json.readBody Json.ReadLimits.standard t with
    | .ok (.object members) => .ok members
    | .ok _ => .error .malformed
    | .error .tooDeep => .error .tooDeep
    | .error _ => .error .malformed

namespace Token

/-- The point between segments. -/
def point : UInt8 := 46

/-- What stands before the first occurrence of a byte and after it. -/
def cutFirst (b : UInt8) (bytes : List UInt8) : Option (List UInt8 × List UInt8) :=
  match bytes.dropWhile (· != b) with
  | [] => none
  | _ :: after => some (bytes.takeWhile (· != b), after)

/-- What stands before the last occurrence of a byte and after it. -/
def cutLast (b : UInt8) (bytes : List UInt8) : Option (List UInt8 × List UInt8) :=
  (cutFirst b bytes.reverse).map fun (after, before) => (before.reverse, after.reverse)

/-- Takes the bytes of a token apart. -/
def read (bytes : List UInt8) : Except SegmentFault Token := do
  let some (signed, last) := cutLast point bytes | throw .malformed
  let some (first, second) := cutFirst point signed | throw .malformed
  let some headerBytes := Base64.decodeUnpadded? first | throw .malformed
  let header ← Json.objectOfBytes headerBytes
  let some payload := Base64.decodeUnpadded? second | throw .malformed
  let some signature := Base64.decodeUnpadded? last | throw .malformed
  return { signed, header, payload, signature }

/-- The value of a header. -/
def headerValue (t : Token) (name : Text) : Option Json := Json.lookup name t.header

/-- The one extension that a header may declare critical. -/
def knownExtension : Text := "b64"

/-- Whether the name of the key, if there is one, is a text. -/
def namesKey (t : Token) : Bool :=
  match t.headerValue "kid" with
  | none => true
  | some (.text _) => true
  | some _ => false

/-- Whether what the header declares critical, if anything, is known and there. -/
def criticalKnown (t : Token) : Bool :=
  match t.headerValue "crit" with
  | none => true
  | some (.array []) => false
  | some (.array names) => names.all fun
    | .text n => n == knownExtension && (t.headerValue n).isSome
    | _ => false
  | some _ => false

/-- Whether the payload stands in the token as the header says. -/
def isAttached (t : Token) : Bool :=
  match t.headerValue knownExtension with
  | some (.bool false) => false
  | _ => true

/-- What the header asks for that is not known, if anything. -/
def headerFault? (t : Token) : Option TokenFault :=
  if t.namesKey && t.criticalKnown && t.isAttached then none else some .header

end Token

end GuardedTools
