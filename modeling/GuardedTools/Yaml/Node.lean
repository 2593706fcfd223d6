import GuardedTools.Text

/-!
# Nodes of YAML

A node is a scalar, a sequence or a mapping, with the kind of value that its tag says or that its
text looks like.  An alias stands for a copy of the node that it names.  Within that node itself it
stands for the node again, and so on without an end; `Node.unrolled` goes so far along that what is
left out is deeper than anything that is looked at.
-/

namespace GuardedTools.Yaml

/-- The kinds of values. -/
inductive Kind where
  | null
  | truth
  | integer
  | real
  | binary
  | moment
  | text
  | sequence
  | mapping
  | set
  | orderedMapping
  | pairs
  /-- The key of what is merged into a mapping. -/
  | merge
  /-- The key of the value that a mapping stands for. -/
  | standIn
  /-- A kind that is not known. -/
  | unknown
deriving DecidableEq, Inhabited, Repr

namespace Kind

/-- The tags of the kinds, after what all of them begin with. -/
def names : List (String × Kind) := [
  ("null", null), ("bool", truth), ("int", integer), ("float", real), ("binary", binary),
  ("timestamp", moment), ("str", text), ("seq", sequence), ("map", mapping), ("set", set),
  ("omap", orderedMapping), ("pairs", pairs), ("merge", merge), ("value", standIn)]

/-- What the tags of the kinds begin with. -/
def start : Text := "tag:yaml.org,2002:"

/-- The kind of a tag. -/
def ofTag (tag : Text) : Kind :=
  ((names.find? fun n => start ++ Text.ofString n.1 == tag).map (·.2)).getD unknown

end Kind

/-- A node. -/
inductive Node where
  | scalar (kind : Kind) (text : Text)
  | sequence (kind : Kind) (items : List Node)
  | mapping (kind : Kind) (entries : List (Node × Node))
  /-- A node around this one, by its anchor. -/
  | enclosing (anchor : Text)
deriving Inhabited, Repr

namespace Node

def kind : Node → Kind
  | scalar k _ => k
  | sequence k _ => k
  | mapping k _ => k
  | enclosing _ => .mapping

mutual

/-- How deeply nodes are nested. -/
def depth : Node → Nat
  | scalar _ _ => 1
  | sequence _ items => depthOfItems items + 1
  | mapping _ entries => depthOfEntries entries + 1
  | enclosing _ => 1

def depthOfItems : List Node → Nat
  | [] => 0
  | n :: ns => max n.depth (depthOfItems ns)

def depthOfEntries : List (Node × Node) → Nat
  | [] => 0
  | (k, v) :: es => max (max k.depth v.depth) (depthOfEntries es)

end

mutual

/-- The text of a scalar, or of the value that a mapping stands for. -/
def text? : Node → Option Text
  | scalar _ t => some t
  | sequence _ _ => none
  | mapping _ entries => standInText? entries
  | enclosing _ => none

def standInText? : List (Node × Node) → Option Text
  | [] => none
  | (k, v) :: es => if k.kind = .standIn then v.text? else standInText? es

end

mutual

/-- A node in which another one stands for the node of an anchor around it. -/
def fill (anchor : Text) (n : Node) : Node → Node
  | scalar k t => scalar k t
  | sequence k items => sequence k (fillItems anchor n items)
  | mapping k entries => mapping k (fillEntries anchor n entries)
  | enclosing a => if a = anchor then n else enclosing a

def fillItems (anchor : Text) (n : Node) : List Node → List Node
  | [] => []
  | m :: ms => fill anchor n m :: fillItems anchor n ms

def fillEntries (anchor : Text) (n : Node) : List (Node × Node) → List (Node × Node)
  | [] => []
  | (k, v) :: es => (fill anchor n k, fill anchor n v) :: fillEntries anchor n es

end

/-- How often a node is put into itself. -/
def rounds : Nat := 4

/-- A node with an anchor, put into itself as often as may be looked at; at last `empty` stands for
it. -/
def unrolled (anchor : Text) (empty n : Node) : Node :=
  (List.range rounds).foldl (fun inner _ => fill anchor inner n) empty

end Node

end GuardedTools.Yaml
