import GuardedTools.Digest.Sha2
import GuardedTools.Text

/-!
# Algorithms and keys

The algorithms that a token may be signed with, and the secrets that serve as their keys.  A secret
that is the text of an asymmetric key or of a certificate is refused, since its public half would
let everyone sign.
-/

namespace GuardedTools

/-- How a token is signed. -/
inductive SigningAlgorithm where
  /-- Not at all. -/
  | unsigned
  | keyed (hash : Sha2.Hash)

namespace SigningAlgorithm

/-- The algorithm of a name. -/
def ofName? (name : Text) : Option SigningAlgorithm :=
  if name = "none" then some unsigned
  else if name = "HS256" then some (keyed Sha2.sha256)
  else if name = "HS384" then some (keyed Sha2.sha384)
  else if name = "HS512" then some (keyed Sha2.sha512)
  else none

end SigningAlgorithm

/-- Why a secret is no key. -/
inductive KeyFault where
  | notWanted
  | asymmetric
  | empty
deriving DecidableEq, Inhabited, Repr

def KeyFault.message : KeyFault → Text
  | notWanted => "When alg = \"none\", key value must be None."
  | asymmetric =>
    "The specified key is an asymmetric key or x509 certificate and should not be used as an "
      ++ Text.ofString "HMAC secret."
  | empty => "HMAC key must not be empty."

namespace SigningKey

/-- What is written between the boundaries of armoured keys and certificates. -/
def armouredKinds : List Text := [
  "CERTIFICATE", "TRUSTED CERTIFICATE", "PRIVATE KEY", "PUBLIC KEY", "ENCRYPTED PRIVATE KEY",
  "OPENSSH PRIVATE KEY", "DSA PRIVATE KEY", "RSA PRIVATE KEY", "RSA PUBLIC KEY",
  "EC PRIVATE KEY", "DH PARAMETERS", "NEW CERTIFICATE REQUEST", "CERTIFICATE REQUEST",
  "SSH2 PUBLIC KEY", "SSH2 ENCRYPTED PRIVATE KEY", "X509 CRL"]

/-- The names of the formats of keys of the secure shell. -/
def shellFormats : List Text := [
  "ssh-ed25519", "ssh-rsa", "ssh-dss", "ecdsa-sha2-nistp256", "ecdsa-sha2-nistp384",
  "ecdsa-sha2-nistp521"]

/-- What the name of a certificate of the secure shell ends with. -/
def shellCertificate : Text := "-cert-v01@openssh.com"

/-- What is left after a text at the head of code points. -/
def after? (t : Text) (ps : List CodePoint) : Option (List CodePoint) :=
  if t.points.isPrefixOf ps then some (ps.drop t.points.length) else none

/-- What is left after one code point that is a hyphen or a blank. -/
def afterDash? (ps : List CodePoint) : Option (List CodePoint) :=
  match ps with
  | p :: rest => if p.is '-' || p.is ' ' then some rest else none
  | [] => none

/-- What is left after a boundary of a kind of armour. -/
def afterBoundary? (word kind : Text) (ps : List CodePoint) : Option (List CodePoint) := do
  let rest ← after? "----" ps
  let rest ← afterDash? rest
  let rest ← after? (word ++ " " ++ kind) rest
  let rest ← afterDash? rest
  after? "----" rest

/-- What is left after the end of a line. -/
def afterLine? (ps : List CodePoint) : Option (List CodePoint) :=
  match ps with
  | p :: q :: rest =>
    if p.is '\n' then some (q :: rest) else if p.is '\r' && q.is '\n' then some rest else none
  | [p] => if p.is '\n' then some [] else none
  | [] => none

/-- Whether some tail of the code points meets a condition. -/
def anyTail (test : List CodePoint → Bool) : List CodePoint → Bool
  | [] => test []
  | p :: ps => test (p :: ps) || anyTail test ps

/-- Whether a line ends here and a closing boundary follows. -/
def closes (kind : Text) (ps : List CodePoint) : Bool :=
  ((afterLine? ps).bind (afterBoundary? "END" kind)).isSome

/-- Whether armour of a kind stands at the head of code points: a boundary on a line of its own,
something, and the closing boundary. -/
def armouredAt (kind : Text) (ps : List CodePoint) : Bool :=
  match (afterBoundary? "BEGIN" kind ps).bind afterLine? with
  | some (_ :: rest) => anyTail (closes kind) rest
  | _ => false

/-- Whether a text holds an armoured key or certificate. -/
def isArmoured (t : Text) : Bool :=
  armouredKinds.any fun kind => anyTail (armouredAt kind) t.points

/-- The blanks of ASCII. -/
def isSpace (p : CodePoint) : Bool := p.between 9 13 || p.is ' '

/-- Whether a text begins with the name of a certificate of the secure shell and something on the
same line. -/
def isShellCertificate (t : Text) : Bool :=
  let name : Text := ⟨t.points.takeWhile (!isSpace ·)⟩
  let rest := t.points.dropWhile (!isSpace ·)
  let isGap (p : CodePoint) : Bool := p.is ' ' || p.is '\t'
  let follows := match rest.dropWhile isGap with
    | p :: _ => !isSpace p
    | [] => false
  rest.head?.any isGap && follows && name.endsWith shellCertificate

/-- Whether a text is a key of the secure shell. -/
def isShellKey (t : Text) : Bool :=
  shellFormats.any t.contains || isShellCertificate t

end SigningKey

/-- What is wrong with a secret as the key of an algorithm, if anything. -/
def SigningAlgorithm.keyFault? (a : SigningAlgorithm) (secret : Text) : Option KeyFault :=
  match a with
  | unsigned => if secret.isEmpty then none else some .notWanted
  | keyed _ =>
    if SigningKey.isArmoured secret || SigningKey.isShellKey secret then some .asymmetric
    else if secret.isEmpty then some .empty
    else none

/-- Whether a signature over a message is that of a key; nothing signs what is not to be signed. -/
def SigningAlgorithm.accepts (a : SigningAlgorithm) (key message signature : List UInt8) : Bool :=
  match a with
  | unsigned => false
  | keyed hash => hash.keyed key message == signature

end GuardedTools
