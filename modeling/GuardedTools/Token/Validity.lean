import GuardedTools.Text.Digit
import GuardedTools.Text.Utf8
import GuardedTools.Token
import GuardedTools.Token.Key

/-!
# Verification of tokens

`Token.verify` gives the claims of a token that is signed with a secret by one of the allowed
algorithms and is valid at a moment.  The signature is looked at before the claims, and of the
claims first those on time: when the token was issued, from when on and until when it holds.
-/

namespace GuardedTools

/-- Why there are no claims: the token is refused, the secret is no key, or one of the texts is
none that can be looked at. -/
inductive VerifyError where
  | refused (fault : TokenFault)
  | badKey (fault : KeyFault)
  | notUnicode (u : Utf8.Unencodable)
  | tooDeep
deriving DecidableEq, Inhabited, Repr

namespace Token

/-- The claims of a token. -/
abbrev Claims := List (Text × Json)

/-- The whole number of seconds that a claim states; the fraction is dropped. -/
def seconds? : Json → Option Int
  | .int n => some n
  | .bool b => some (if b then 1 else 0)
  | .float x => x.ratio?.map fun (negative, n, d) =>
    if negative then -((n / d : Nat) : Int) else ((n / d : Nat) : Int)
  | .text t => t.toInt?
  | _ => none

/-- Checks a claim on time, if it is made. -/
def checkTime (claims : Claims) (name : Text) (fault : TokenFault) (holds : Int → Bool) :
    Except TokenFault Unit :=
  match Json.lookup name claims with
  | none => .ok ()
  | some j => match seconds? j with
    | none => .error (.claim name)
    | some n => if holds n then .ok () else .error fault

/-- Checks that a claim, if it is made, is a text. -/
def checkText (claims : Claims) (name : Text) : Except TokenFault Unit :=
  match Json.lookup name claims with
  | none => .ok ()
  | some (.text _) => .ok ()
  | some _ => .error (.claim name)

/-- Whether a JSON value says something: no empty text, list or object, and no zero. -/
def saysSomething : Json → Bool
  | .null => false
  | .bool b => b
  | .int n => n != 0
  | .float x => !x.equals .zero
  | .text t => !t.isEmpty
  | .array items => !items.isEmpty
  | .object members => !members.isEmpty

/-- Checks that no audience is claimed, since none is expected here. -/
def checkAudience (claims : Claims) : Except TokenFault Unit :=
  match Json.lookup "aud" claims with
  | none => .ok ()
  | some j => if saysSomething j then .error (.claim "aud") else .ok ()

/-- Checks the claims of a token at a moment, in seconds. -/
def checkClaims (now : Int) (claims : Claims) : Except TokenFault Unit := do
  checkTime claims "iat" (.claim "iat") (· ≤ now)
  checkTime claims "nbf" (.claim "nbf") (· ≤ now)
  checkTime claims "exp" .expired (now < ·)
  checkAudience claims
  checkText claims "sub"
  checkText claims "jti"

/-- The algorithm of a token, if it is allowed and known. -/
def algorithm? (t : Token) (allowed : List Text) : Option SigningAlgorithm :=
  match t.headerValue "alg" with
  | some (.text name) =>
    if !name.isEmpty && allowed.contains name then SigningAlgorithm.ofName? name else none
  | _ => none

/-- The bytes of a text. -/
def bytesOf (t : Text) : Except VerifyError (List UInt8) :=
  match Utf8.encode t, Utf8.unencodable? t with
  | some bytes, _ => .ok bytes
  | none, some u => .error (.notUnicode u)
  | none, none => .ok []

/-- A fault of a segment as one of the token. -/
def SegmentFault.toError (fault : TokenFault) : SegmentFault → VerifyError
  | .malformed => .refused fault
  | .tooDeep => .tooDeep

/-- The key that a secret is for an algorithm.  A secret that is to be hashed is read as bytes before it is
looked at. -/
def keyOf (a : SigningAlgorithm) (secret : Text) : Except VerifyError (List UInt8) := do
  let key ← match a with
    | .unsigned => pure []
    | .keyed _ => bytesOf secret
  match a.keyFault? secret with
  | some fault => throw (.badKey fault)
  | none => return key

/-- Checks the signature of a token. -/
def checkSignature (t : Token) (secret : Text) (allowed : List Text) : Except VerifyError Unit := do
  let some a := t.algorithm? allowed | throw (.refused .algorithm)
  let key ← keyOf a secret
  if a.accepts key t.signed t.signature then return () else throw (.refused .signature)

/-- The claims of a token that is valid at a moment, in seconds. -/
def verify (now : Int) (text secret : Text) (allowed : List Text) : Except VerifyError Claims := do
  if allowed.isEmpty then throw (.refused .algorithm)
  let bytes ← bytesOf text
  let t ← (read bytes).mapError (SegmentFault.toError .malformed)
  match t.headerFault? with
  | some fault => throw (.refused fault)
  | none =>
    checkSignature t secret allowed
    let claims ← (Json.objectOfBytes t.payload).mapError (SegmentFault.toError .payload)
    (checkClaims now claims).mapError .refused
    return claims

end Token

end GuardedTools
