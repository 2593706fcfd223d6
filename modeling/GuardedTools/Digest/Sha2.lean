import GuardedTools.Text

/-!
# SHA-2

The hash functions of the SHA-2 standard, in two families: on words of 32 bits in 64 rounds and
on words of 64 bits in 80.  Their constants are the first bits of the fractional parts of square
and cube roots of the first primes, and are computed as such (`fractionBits`).

A message is padded (`Family.pad`), cut into blocks of sixteen words, and each block is mixed into
a state of eight words (`Family.compress`); the digest is the beginning of the last state.

For the digest of a message under a key (`Hash.keyed`, HMAC) the key, brought to the length of a block, is mixed
with two paddings, and the digest of the inner one and the message is hashed again under the outer
one, so that only who knows the key can tell the digest.
-/

namespace GuardedTools.Sha2

/-! ### Constants -/

/-- Whether a number above one has no divisor but itself and one. -/
def isPrime (n : Nat) : Bool :=
  2 ≤ n && (List.range n).all fun d => d < 2 || n % d != 0

/-- The primes below 410, of which there are eighty. -/
def primes : List Nat := (List.range 410).filter isPrime

/-- The greatest number below `2 ^ bits` more than `low` of which the power is at most a bound. -/
def rootFrom (power bound : Nat) : Nat → Nat → Nat
  | 0, low => low
  | bits + 1, low =>
    let middle := low + Nat.pow 2 bits
    if Nat.pow middle power ≤ bound then rootFrom power bound bits middle
    else rootFrom power bound bits low

/-- The first bits of the fractional part of a root of a number below `2 ^ 10`. -/
def fractionBits (power width n : Nat) : Nat :=
  rootFrom power (n * Nat.pow 2 (power * width)) (width + 10) 0 % Nat.pow 2 width

/-! ### Families -/

/-- What a family of hash functions has in common: the width of its words in bits, the number of
rounds, and how the mixing functions rotate and shift. -/
structure Family where
  width : Nat
  rounds : Nat
  /-- Three rotations, of the first and of the fifth word of the state. -/
  first : Nat × Nat × Nat
  fifth : Nat × Nat × Nat
  /-- Two rotations and a shift, of an early and of a late word of the schedule. -/
  early : Nat × Nat × Nat
  late : Nat × Nat × Nat

namespace Family

/-- The family on words of 32 bits. -/
def narrow : Family where
  width := 32
  rounds := 64
  first := (2, 13, 22)
  fifth := (6, 11, 25)
  early := (7, 18, 3)
  late := (17, 19, 10)

/-- The family on words of 64 bits. -/
def wide : Family where
  width := 64
  rounds := 80
  first := (28, 34, 39)
  fifth := (14, 18, 41)
  early := (1, 8, 7)
  late := (19, 61, 6)

/-- The number of bytes of a word. -/
def wordBytes (f : Family) : Nat := f.width / 8

/-- The number of bytes of a block. -/
def blockBytes (f : Family) : Nat := 16 * f.wordBytes

/-- The constant of each round. -/
def constants (f : Family) : List (BitVec f.width) :=
  (primes.take f.rounds).map fun p => .ofNat f.width (fractionBits 3 f.width p)

/-- The sum modulo two of three rotations of a word. -/
def rotated {w : Nat} (turns : Nat × Nat × Nat) (x : BitVec w) : BitVec w :=
  x.rotateRight turns.1 ^^^ x.rotateRight turns.2.1 ^^^ x.rotateRight turns.2.2

/-- The sum modulo two of two rotations and a shift of a word. -/
def shifted {w : Nat} (turns : Nat × Nat × Nat) (x : BitVec w) : BitVec w :=
  x.rotateRight turns.1 ^^^ x.rotateRight turns.2.1 ^^^ x >>> turns.2.2

end Family

/-- The eight words that a message is mixed into. -/
structure State (width : Nat) where
  a : BitVec width
  b : BitVec width
  c : BitVec width
  d : BitVec width
  e : BitVec width
  f : BitVec width
  g : BitVec width
  h : BitVec width

namespace State

variable {w : Nat}

/-- The words of a state in order. -/
def toList (s : State w) : List (BitVec w) := [s.a, s.b, s.c, s.d, s.e, s.f, s.g, s.h]

/-- The state of eight words. -/
def ofList (words : List (BitVec w)) : State w where
  a := words.getD 0 0
  b := words.getD 1 0
  c := words.getD 2 0
  d := words.getD 3 0
  e := words.getD 4 0
  f := words.getD 5 0
  g := words.getD 6 0
  h := words.getD 7 0

/-- The sum of two states, word by word. -/
def add (s t : State w) : State w := ofList (List.zipWith (· + ·) s.toList t.toList)

end State

namespace Family

/-- One round: the state after the constant and the word of the round are mixed into it. -/
def step (f : Family) (s : State f.width) (constant word : BitVec f.width) : State f.width :=
  let choice := (s.e &&& s.f) ^^^ (~~~s.e &&& s.g)
  let majority := (s.a &&& s.b) ^^^ (s.a &&& s.c) ^^^ (s.b &&& s.c)
  let t := s.h + rotated f.fifth s.e + choice + constant + word
  let u := rotated f.first s.a + majority
  { a := t + u, b := s.a, c := s.b, d := s.c, e := s.d + t, f := s.e, g := s.f, h := s.g }

/-- Appends words to a schedule that is given with the latest word first. -/
def extend (f : Family) : Nat → List (BitVec f.width) → List (BitVec f.width)
  | 0, latest => latest
  | n + 1, latest =>
    let word := shifted f.late (latest.getD 1 0) + latest.getD 6 0
      + shifted f.early (latest.getD 14 0) + latest.getD 15 0
    extend f n (word :: latest)

/-- The word of every round, for a block of sixteen words. -/
def schedule (f : Family) (block : List (BitVec f.width)) : List (BitVec f.width) :=
  (f.extend (f.rounds - 16) block.reverse).reverse

/-- The state after a block is mixed into it. -/
def compress (f : Family) (constants : List (BitVec f.width)) (s : State f.width)
    (block : List (BitVec f.width)) : State f.width :=
  s.add ((constants.zip (f.schedule block)).foldl (fun t (k, x) => f.step t k x) s)

/-- The number that bytes write, the most significant first. -/
def bigEndian (bytes : List UInt8) : Nat := bytes.foldl (fun n b => 256 * n + b.toNat) 0

/-- The lowest bytes of a number, the most significant first. -/
def toBytes (count n : Nat) : List UInt8 :=
  (List.range count).reverse.map fun i => (n / Nat.pow 256 i % 256).toUInt8

/-- A message with the bit, the zeros and the length that fill its last block. -/
def pad (f : Family) (message : List UInt8) : List UInt8 :=
  let used := (message.length + 1 + 2 * f.wordBytes) % f.blockBytes
  let zeros := (f.blockBytes - used) % f.blockBytes
  message ++ [0x80] ++ List.replicate zeros 0
    ++ toBytes (2 * f.wordBytes) (8 * message.length)

/-- A list in pieces of one length, as many as are asked for. -/
def pieces {α : Type} (length : Nat) : Nat → List α → List (List α)
  | 0, _ => []
  | n + 1, xs => xs.take length :: pieces length n (xs.drop length)

/-- The blocks of a padded message, each as its sixteen words. -/
def blocks (f : Family) (padded : List UInt8) : List (List (BitVec f.width)) :=
  (pieces f.blockBytes (padded.length / f.blockBytes) padded).map fun block =>
    (pieces f.wordBytes 16 block).map fun bytes => .ofNat f.width (bigEndian bytes)

end Family

/-! ### Hash functions -/

/-- A hash function: its family, the primes that its first state comes from, and the number of
bytes of a digest. -/
structure Hash where
  family : Family
  start : List Nat
  length : Nat

/-- The hash function with digests of 256 bits. -/
def sha256 : Hash := { family := .narrow, start := primes.take 8, length := 32 }

/-- The hash function with digests of 384 bits, which starts from later primes. -/
def sha384 : Hash := { family := .wide, start := (primes.drop 8).take 8, length := 48 }

/-- The hash function with digests of 512 bits. -/
def sha512 : Hash := { family := .wide, start := primes.take 8, length := 64 }

namespace Hash

/-- The state before the first block. -/
def initial (h : Hash) : State h.family.width :=
  .ofList (h.start.map fun p => .ofNat h.family.width (fractionBits 2 h.family.width p))

/-- The digest of a message. -/
def digest (h : Hash) (message : List UInt8) : List UInt8 :=
  let f := h.family
  let constants := f.constants
  let last := (f.blocks (f.pad message)).foldl (f.compress constants) h.initial
  (last.toList.flatMap fun x => Family.toBytes f.wordBytes x.toNat).take h.length

/-! ### Keyed digests -/

/-- A key as long as a block: one that is longer is replaced by its digest, and zeros follow. -/
def blockKey (h : Hash) (key : List UInt8) : List UInt8 :=
  let size := h.family.blockBytes
  let short := if size < key.length then h.digest key else key
  short ++ List.replicate (size - short.length) 0

/-- The digest of a message under a key. -/
def keyed (h : Hash) (key message : List UInt8) : List UInt8 :=
  let k := h.blockKey key
  h.digest (k.map (· ^^^ 0x5C) ++ h.digest (k.map (· ^^^ 0x36) ++ message))

end Hash

end GuardedTools.Sha2
