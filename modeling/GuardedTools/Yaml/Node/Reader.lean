import GuardedTools.Yaml.Node.Scalar
import GuardedTools.Yaml.Token.Reader

/-!
# Reading the nodes of YAML

The node of a document from its tokens.  Anchors name nodes from where they stand on, and no name
twice; an alias inside the node that it names stands for that node.
-/

namespace GuardedTools.Yaml

/-- What is left to read, with the fault that ends the tokens, and what has been named. -/
structure Reading where
  tokens : List Token
  fault : Option Fault := none
  anchors : List (Text × Node) := []
  /-- The beginnings of tags that handles stand for. -/
  handles : List (Text × Text) := []

/-- A step of reading nodes. -/
abbrev Reads (α : Type) := StateT Reading (Except Fault) α

/-- Nodes nested more deeply are not read. -/
def nestingLimit : Nat := 480

namespace Reads

def malformed {α : Type} : Reads α := throw .malformed

/-- The next token, if there is one. -/
def peek : Reads (Option Token) := do
  let r ← get
  match r.tokens, r.fault with
  | t :: _, _ => return some t
  | [], some f => throw f
  | [], none => return none

/-- Passes over a token. -/
def advance : Reads Unit := modify fun r => { r with tokens := r.tokens.drop 1 }

/-- Whether the next token is one of some. -/
def sees (ts : List Token) : Reads Bool := do
  return (← peek).any ts.contains

/-- Passes over the next token if it is a given one. -/
def accept (t : Token) : Reads Bool := do
  if ← sees [t] then
    advance
    return true
  return false

/-- The next token must be a given one. -/
def expect (t : Token) : Reads Unit := do
  if !(← accept t) then malformed

/-- Names a node. -/
def bind (anchor : Option Text) (n : Node) : Reads Unit :=
  match anchor with
  | none => pure ()
  | some a => modify fun r => { r with anchors := (a, n) :: r.anchors.filter (·.1 != a) }

/-- Puts the node of an anchor, which has been read, into the nodes that were named within it. -/
def complete (anchor : Text) (n : Node) : Reads Unit :=
  modify fun r =>
    let others := r.anchors.filter (·.1 != anchor)
    { r with anchors := (anchor, n) :: others.map fun m => (m.1, Node.fill anchor n m.2) }

/-- The node that an alias names. -/
def named (name : Text) : Reads Node := do
  match (← get).anchors.find? (·.1 == name) with
  | some (_, n) => return n
  | none => malformed

/-- The next token, if it is an anchor. -/
def anchor? : Reads (Option Text) := do
  match ← peek with
  | some (.anchor n) =>
    advance
    return some n
  | _ => return none

/-- The tag that a written one stands for. -/
def tagOf (w : WrittenTag) : Reads Text := do
  match w.handle with
  | none => return w.suffix
  | some h => match (← get).handles.find? (·.1 == h) with
    | some (_, start) => return start ++ w.suffix
    | none => malformed

/-- The next token, if it is a tag. -/
def tag? : Reads (Option Text) := do
  match ← peek with
  | some (.tag w) =>
    advance
    return some (← tagOf w)
  | _ => return none

/-- An anchor and a tag, in either order. -/
def properties : Reads (Option Text × Option Text) := do
  match ← anchor? with
  | some a => return (some a, ← tag?)
  | none =>
    match ← tag? with
    | some tag => return (← anchor?, some tag)
    | none => return (none, none)

end Reads

/-- Whether a tag leaves the kind open. -/
def leavesOpen (tag : Option Text) : Bool := tag.all (· == Text.ofString "!")

/-- The kind of a collection. -/
def collectionKind (tag : Option Text) (usual : Kind) : Kind :=
  match tag with
  | some t => if leavesOpen tag then usual else Kind.ofTag t
  | none => usual

/-- The kind of a scalar. -/
def scalarKind (tag : Option Text) (text : Text) (plain : Bool) : Kind :=
  match tag with
  | some t => if leavesOpen tag then Kind.ofPlain text else Kind.ofTag t
  | none => if plain then Kind.ofPlain text else .text

/-- The node where none is written. -/
def emptyNode : Node := .scalar .null ""

/-- A collection with its anchor, which names what is around the items while they are read. -/
def collection {α : Type} (anchor : Option Text) (make : List α → Node) (items : Reads (List α)) :
    Reads Node := do
  Reads.advance
  match anchor with
  | none => return make (← items)
  | some a =>
    Reads.bind anchor (.enclosing a)
    let n := Node.unrolled a (make []) (make (← items))
    Reads.complete a n
    return n

open Reads

mutual

/-- A node within some others; blocks may be let in, and sequences that are not indented further
than their key.  The first number bounds the steps, the second says how many nodes are around. -/
def readNode : Nat → Nat → Bool → Bool → Reads Node
  | 0, _, _, _ => malformed
  | fuel + 1, depth, block, indentless => do
    if nestingLimit < depth then throw .tooDeep
    match ← peek with
    | some (.alias name) =>
      advance
      named name
    | _ =>
      let (anchor, tag) ← properties
      if let some a := anchor then
        if (← get).anchors.any (·.1 == a) then malformed
      let sequence := Node.sequence (collectionKind tag .sequence)
      let mapping := Node.mapping (collectionKind tag .mapping)
      match ← peek with
      | some (.scalar text plain) =>
        advance
        let n := Node.scalar (scalarKind tag text plain) text
        bind anchor n
        return n
      | some .flowSequenceStart =>
        collection anchor sequence (readFlowSequence fuel (depth + 1) true)
      | some .flowMappingStart =>
        collection anchor mapping (readFlowMapping fuel (depth + 1) true)
      | next =>
        if indentless && next = some .blockEntry then
          collection anchor sequence (readIndentless fuel (depth + 1) true)
        else if block && next = some .blockSequenceStart then
          collection anchor sequence (readBlockSequence fuel (depth + 1))
        else if block && next = some .blockMappingStart then
          collection anchor mapping (readBlockMapping fuel (depth + 1))
        else if anchor.isSome || tag.isSome then
          let n := Node.scalar (scalarKind tag "" true) ""
          bind anchor n
          return n
        else malformed

/-- A node, or the empty one if one of some tokens is next. -/
def readUnless : Nat → Nat → Bool → Bool → List Token → Reads Node
  | 0, _, _, _, _ => malformed
  | fuel + 1, depth, block, indentless, ends => do
    if ← sees ends then return emptyNode
    readNode fuel depth block indentless

/-- The items of a block sequence. -/
def readBlockSequence : Nat → Nat → Reads (List Node)
  | 0, _ => malformed
  | fuel + 1, depth => do
    if ← accept .blockEntry then
      let n ← readUnless fuel depth true false [.blockEntry, .blockEnd]
      return n :: (← readBlockSequence fuel depth)
    expect .blockEnd
    return []

/-- The items of a sequence that is not indented; its first mark has been passed over. -/
def readIndentless : Nat → Nat → Bool → Reads (List Node)
  | 0, _, _ => malformed
  | fuel + 1, depth, first => do
    let isMarked ← if first then pure true else accept .blockEntry
    if isMarked then
      let n ← readUnless fuel depth true false [.blockEntry, .key, .value, .blockEnd]
      return n :: (← readIndentless fuel depth false)
    return []

/-- The entries of a block mapping. -/
def readBlockMapping : Nat → Nat → Reads (List (Node × Node))
  | 0, _ => malformed
  | fuel + 1, depth => do
    let ends : List Token := [.key, .value, .blockEnd]
    if ← accept .key then
      let k ← readUnless fuel depth true true ends
      let v ← readValue fuel depth true ends
      return (k, v) :: (← readBlockMapping fuel depth)
    expect .blockEnd
    return []

/-- The value of an entry, if a mark says that there is one. -/
def readValue : Nat → Nat → Bool → List Token → Reads Node
  | 0, _, _, _ => malformed
  | fuel + 1, depth, block, ends => do
    if ← accept .value then readUnless fuel depth block block ends
    else return emptyNode

/-- The items of a sequence between brackets; a key among them makes a mapping of one entry. -/
def readFlowSequence : Nat → Nat → Bool → Reads (List Node)
  | 0, _, _ => malformed
  | fuel + 1, depth, first => do
    if ← accept .flowSequenceEnd then return []
    if !first then expect .flowEntry
    let ends : List Token := [.flowEntry, .flowSequenceEnd]
    if ← accept .key then
      let k ← readUnless fuel (depth + 1) false false (.value :: ends)
      let v ← readValue fuel (depth + 1) false ends
      return .mapping .mapping [(k, v)] :: (← readFlowSequence fuel depth false)
    if ← accept .flowSequenceEnd then return []
    let n ← readNode fuel depth false false
    return n :: (← readFlowSequence fuel depth false)

/-- The entries of a mapping between brackets. -/
def readFlowMapping : Nat → Nat → Bool → Reads (List (Node × Node))
  | 0, _, _ => malformed
  | fuel + 1, depth, first => do
    if ← accept .flowMappingEnd then return []
    if !first then expect .flowEntry
    let ends : List Token := [.flowEntry, .flowMappingEnd]
    if ← accept .key then
      let k ← readUnless fuel depth false false (.value :: ends)
      let v ← readValue fuel depth false ends
      return (k, v) :: (← readFlowMapping fuel depth false)
    if ← accept .flowMappingEnd then return []
    let k ← readNode fuel depth false false
    return (k, emptyNode) :: (← readFlowMapping fuel depth false)

end

/-! ### Documents -/

/-- The handles that need no directive. -/
def standardHandles : List (Text × Text) := [("!", "!"), ("!!", Kind.start)]

/-- Whether a token is a directive. -/
def Token.isDirective : Token → Bool
  | .versionDirective _ => true
  | .tagDirective _ _ => true
  | .otherDirective => true
  | _ => false

/-- Reads directives: the version must be given once at most and be one that is known, and a handle
once. -/
def readDirectives : Nat → Bool → List (Text × Text) → Reads (List (Text × Text))
  | 0, _, handles => return handles
  | n + 1, hasVersion, handles => do
    match ← peek with
    | some (.versionDirective major) =>
      if hasVersion || major ≠ 1 then malformed
      advance
      readDirectives n true handles
    | some (.tagDirective handle start) =>
      if handles.any (·.1 == handle) then malformed
      advance
      readDirectives n hasVersion ((handle, start) :: handles)
    | some .otherDirective =>
      advance
      readDirectives n hasVersion handles
    | _ => return handles

/-- A bound for the steps of reading the tokens that are left. -/
def stepBound : Reads Nat := do return 4 * (← get).tokens.length + 8

/-- The document that begins here, if there is one. -/
def readDocument : Reads (Option Node) := do
  match ← peek with
  | none => return none
  | some t =>
    let fuel ← stepBound
    if t.isDirective || t = .documentStart then
      let given ← readDirectives fuel false []
      modify fun r => { r with handles := given ++ standardHandles }
      expect .documentStart
      match ← peek with
      | none => return some emptyNode
      | some t =>
        if t.isDirective || t = .documentStart || t = .documentEnd then return some emptyNode
        return some (← readNode fuel 0 true false)
    else
      modify fun r => { r with handles := standardHandles }
      return some (← readNode fuel 0 true false)

/-- Passes over marks that end documents. -/
def skipEnds : Nat → Reads Unit
  | 0 => pure ()
  | n + 1 => do if ← accept .documentEnd then skipEnds n

/-- The node of the only document. -/
def readOnly : Reads (Option Node) := do
  let n ← readDocument
  skipEnds (← stepBound)
  if (← peek).isSome then malformed
  return n

/-- The node of a text, if it has any content. -/
def Node.ofText (t : Text) : Except Fault (Option Node) :=
  let (tokens, fault) := tokens t
  (readOnly.run { tokens, fault }).map (·.1)

end GuardedTools.Yaml
