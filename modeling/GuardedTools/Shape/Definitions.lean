import GuardedTools.Json

/-!
# Definitions of a schema

The classes that a schema mentions stand in a table of definitions, and the schema refers to them.
While the schema is made a class is referred to by its number, and within itself by a mark of its
own; `Definitions.document` gives the classes names and leaves out those that nothing refers to.

A class is called as shortly as may be: by its own name, by that of its module and itself, or by
this and a number.  A name is given to several classes only if their schemas are the same.  Since the
schemas hold names themselves, names are found anew until they no longer change (`settleNames`).
-/

namespace GuardedTools

/-- A class as it is published. -/
structure ClassSchema where
  module : Text
  name : Text
  /-- The schema of the class, in which it refers to itself by the mark. -/
  schema : Json
deriving Inhabited, Repr

/-- The classes of a schema; the place of one among them is its number. -/
abbrev Definitions := List ClassSchema

namespace ClassSchema

/-! ### Names -/

/-- A text as a part of a name: what is no letter, digit, hyphen or underscore becomes an
underscore, and a point becomes two. -/
def plainName (t : Text) : Text :=
  ⟨t.points.flatMap fun p =>
    if p.is '.' then [.scalar '_', .scalar '_']
    else if p.isLetter || p.isDigit || p.is '-' || p.is '_' then [p] else [.scalar '_']⟩

/-- Of each run of parts that are not empty, the last one. -/
def lastOfRuns : List Text → List Text
  | p :: q :: rest =>
    if p.isEmpty || q.isEmpty then p :: lastOfRuns (q :: rest) else lastOfRuns (q :: rest)
  | ps => ps

/-- A name without what stands before the last point in it. -/
def shortPart (t : Text) : Text := Text.intercalate "." (lastOfRuns (t.splitOn '.'))

/-- The signs that set off the arguments in the name of a class. -/
def isArgumentSign (p : CodePoint) : Bool := p.is '[' || p.is ']' || p.is ','

/-- The parts of a name between the signs of arguments, with these signs. -/
def parts : List CodePoint → List (List CodePoint)
  | [] => [[]]
  | p :: ps =>
    if isArgumentSign p then [] :: [p] :: parts ps
    else match parts ps with
      | first :: rest => (p :: first) :: rest
      | [] => [[p]]

/-- The parts of the full name, of which all but the last end at their last colon. -/
def nameParts (c : ClassSchema) : List Text :=
  let all := (parts (c.module ++ "." ++ c.name).points).map fun ps => (⟨ps⟩ : Text)
  all.zipIdx.map fun (t, i) =>
    if i + 1 = all.length then t else ((t.cutAtLast ':').map (·.1)).getD t

/-- The name of the class with its module. -/
def fullName (c : ClassSchema) : Text := plainName (Text.concat c.nameParts)

/-- The name of the class alone. -/
def shortName (c : ClassSchema) : Text := plainName (Text.concat (c.nameParts.map shortPart))

/-- The names that a class may have, the best one first; the last ones are its own. -/
def candidates (c : ClassSchema) (occurrence : Nat) : List Text :=
  let number := "__" ++ Text.ofNat occurrence
  let short := c.shortName
  let full := c.fullName
  [short, short ++ "-Input", full, full ++ "-Input", full ++ number, full ++ "-Input" ++ number]

end ClassSchema

namespace Definitions

/-! ### References -/

/-- The reference of a class to itself. -/
def selfMark : Text := "#"

/-- What stands before the name or number of a class in a reference. -/
def referenceStart : Text := "#/$defs/"

/-- A reference to the class of a number. -/
def referenceTo (n : Nat) : Json := .object [("$ref", .text (referenceStart ++ Text.ofNat n))]

/-- A reference of a class to itself. -/
def selfReference : Json := .object [("$ref", .text selfMark)]

/-- The number of a class, which is put among the others unless it is there. -/
def add (ds : Definitions) (c : ClassSchema) : Nat × Definitions :=
  match ds.findIdx? fun d => d.module == c.module && d.name == c.name && d.schema.same c.schema with
  | some n => (n, ds)
  | none => (ds.length, ds ++ [c])

/-- The number that a reference says. -/
def numberOf? (self : Option Nat) (t : Text) : Option Nat :=
  if t = selfMark then self
  else if t.startsWith referenceStart then
    let digits := (t.drop referenceStart.length).points
    if digits.all CodePoint.isDigit then some (Text.digitsToNat digits) else none
  else none

mutual

/-- The texts that stand as references in a value, with repetitions. -/
def referenceTexts : Json → List Text
  | .array items => referenceTextsItems items
  | .object members => referenceTextsMembers members
  | _ => []

def referenceTextsItems : List Json → List Text
  | [] => []
  | j :: js => referenceTexts j ++ referenceTextsItems js

/-- Examples are values of any kind, in which nothing is a reference. -/
def referenceTextsMembers : List (Text × Json) → List Text
  | [] => []
  | (key, j) :: ms =>
    (match j with
      | .text t => if key = "$ref" then [t] else []
      | .array items => if key = "examples" then [] else referenceTextsItems items
      | j => referenceTexts j) ++ referenceTextsMembers ms

end

/-- The numbers that a schema refers to, with repetitions, within the class of a number. -/
def references (self : Option Nat) (schema : Json) : List Nat :=
  (referenceTexts schema).filterMap (numberOf? self)

/-- What an object in a schema is: a schema, the schemas of properties under their names or under
patterns of names, or what tells the classes of a union apart. -/
inductive Part where
  | schema
  | names
  | tags
deriving DecidableEq

/-- What the member of a schema under a key is. -/
def Part.within (key : Text) : Part → Part
  | schema =>
    if key = "discriminator" then tags
    else if key = "properties" ∨ key = "patternProperties" then names
    else schema
  | _ => schema

mutual

/-- A schema in which references are written as `rename` has them. -/
def renamed (rename : Text → Text) : Json → Json
  | .array items => .array (renamedItems rename items)
  | .object members => .object (renamedMembers rename .schema members)
  | j => j

def renamedItems (rename : Text → Text) : List Json → List Json
  | [] => []
  | j :: js => renamed rename j :: renamedItems rename js

def renamedMembers (rename : Text → Text) (part : Part) : List (Text × Json) → List (Text × Json)
  | [] => []
  | (key, j) :: ms => (key, renamedMember rename part key j) :: renamedMembers rename part ms

/-- Tags are mapped to references, which stand there as they are. -/
def renamedMember (rename : Text → Text) (part : Part) (key : Text) : Json → Json
  | .text t => .text (if key = "$ref" then rename t else t)
  | .array items => .array (if key = "examples" then items else renamedItems rename items)
  | .object members =>
    .object (if part = .tags ∧ key = "mapping" then renamedMapping rename members
      else renamedMembers rename (part.within key) members)
  | j => j

def renamedMapping (rename : Text → Text) : List (Text × Json) → List (Text × Json)
  | [] => []
  | (tag, j) :: ms => (tag, renamedTag rename j) :: renamedMapping rename ms

def renamedTag (rename : Text → Text) : Json → Json
  | .text t => .text (rename t)
  | .object members => .object (renamedMembers rename .schema members)
  | j => j

end

/-! ### Classes that are referred to -/

/-- The numbers that the class of a number refers to. -/
def referencesOf (ds : Definitions) (n : Nat) : List Nat :=
  match ds[n]? with
  | some c => references (some n) c.schema
  | none => []

/-- The classes that can be reached from some of them, at most `fuel` steps away. -/
def reachable (ds : Definitions) : Nat → List Nat → List Nat
  | 0, ns => ns
  | fuel + 1, ns =>
    let fresh := (ns.flatMap ds.referencesOf).filter (!ns.contains ·)
    if fresh.isEmpty then ns else reachable ds fuel (ns ++ fresh.eraseDups)

/-! ### Giving names -/

/-- How many of the classes up to one have its full name. -/
def occurrence (ds : Definitions) (n : Nat) (c : ClassSchema) : Nat :=
  ((ds.take (n + 1)).filter fun d => d.fullName == c.fullName).length

/-- The text of a reference where classes have names. -/
def namedReference (names : List (Nat × Text)) (self : Option Nat) (t : Text) : Text :=
  match (numberOf? self t).bind fun n => names.find? (·.1 == n) with
  | some (_, name) => referenceStart ++ name
  | none => t

/-- The schema of the class of a number where classes have names. -/
def namedSchema (ds : Definitions) (names : List (Nat × Text)) (n : Nat) : Json :=
  match ds[n]? with
  | some c => renamed (namedReference names (some n)) c.schema
  | none => .null

/-- The schemas of the classes that may have a name. -/
def schemasOf (ds : Definitions) (candidates : List (Nat × List Text)) (names : List (Nat × Text))
    (name : Text) : List Json :=
  (candidates.filter (·.2.contains name)).map fun c => (ds.namedSchema names c.1).sortKeys

/-- Whether all of some schemas are the same. -/
def areOne : List Json → Bool
  | [] => true
  | j :: js => js.all j.same

/-- The name of a class: the first of its candidates that stands for one schema. -/
def nameOf? (ds : Definitions) (candidates : List (Nat × List Text)) (names : List (Nat × Text))
    (own : List Text) : Option Text :=
  own.find? fun name => areOne (ds.schemasOf candidates names name)

/-- The names of classes, if each of them has one. -/
def namesOf? (ds : Definitions) (candidates : List (Nat × List Text)) (names : List (Nat × Text)) :
    List (Nat × List Text) → Option (List (Nat × Text))
  | [] => some []
  | (n, own) :: cs => do
    let name ← ds.nameOf? candidates names own
    return (n, name) :: (← namesOf? ds candidates names cs)

/-- The names of the classes, found anew while they change, if they settle. -/
def settleNames (ds : Definitions) (candidates : List (Nat × List Text)) :
    Nat → List (Nat × Text) → Option (List (Nat × Text))
  | 0, _ => none
  | fuel + 1, names => do
    let next ← ds.namesOf? candidates names candidates
    if next == names then return names else settleNames ds candidates fuel next

/-- How often names are found anew. -/
def namingRounds : Nat := 100

/-- A reference at the root is opened if none of the classes that it leads to refers to its class. -/
def opened (ds : Definitions) (root : Json) : Json :=
  match root with
  | .object [(key, .text t)] => match numberOf? none t with
    | some n =>
      let others := (ds.reachable ds.length [n]).flatMap ds.referencesOf
      if key = "$ref" && !others.contains n then ((ds[n]?).map (·.schema)).getD root else root
    | none => root
  | root => root

/-- The numbers of the classes that a schema leads to. -/
def used (ds : Definitions) (schema : Json) : List Nat :=
  ds.reachable ds.length (references none schema).eraseDups

/-- The names of the classes that a schema leads to, if they settle. -/
def names? (ds : Definitions) (schema : Json) : Option (List (Nat × Text)) :=
  let kept := (List.range ds.length).filter (ds.used schema).contains
  let candidates := kept.filterMap fun n => (ds[n]?).map fun c =>
    (n, c.candidates (ds.occurrence n c))
  ds.settleNames candidates namingRounds (kept.map fun n => (n, Text.ofNat n))

/-- The schemas of classes under their names. -/
def table (ds : Definitions) (names : List (Nat × Text)) : List (Text × Json) :=
  names.foldl (fun ms n => Json.put n.2 (ds.namedSchema names n.1) ms) []

/-- A schema with the definitions it needs, if their names settle. -/
def document? (ds : Definitions) (root : Json) : Option Json := do
  let opened := ds.opened root
  let names ← ds.names? opened
  match renamed (namedReference names none) opened with
  | .object members =>
    if names.isEmpty then return .object members
    else return .object (Json.put "$defs" (.object (ds.table names)) members)
  | j => return j

end Definitions

end GuardedTools
