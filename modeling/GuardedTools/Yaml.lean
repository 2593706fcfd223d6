import GuardedTools.Yaml.Node.Reader

/-!
# YAML

The value of a YAML text of one document (`Yaml.read`).  Entries under the merge key are put before
those of the mapping itself; of entries with equal keys the last one counts.

Of several faults in the values the one nearest to the root is told, and of those at one depth the
first.
-/

namespace GuardedTools.Yaml

/-- A result, or a fault with its depth. -/
abbrev Ranked (α : Type) := Except (Nat × Fault) α

namespace Ranked

/-- Two results, or the fault that is told. -/
def both {α β : Type} (a : Ranked α) (b : Ranked β) : Ranked (α × β) :=
  match a, b with
  | .ok x, .ok y => .ok (x, y)
  | .error f, .ok _ => .error f
  | .ok _, .error g => .error g
  | .error f, .error g => .error (if g.1 < f.1 then g else f)

/-- The results of a list, or the fault that is told. -/
def all {α : Type} : List (Ranked α) → Ranked (List α)
  | [] => .ok []
  | a :: as => (both a (all as)).map fun (x, xs) => x :: xs

/-- A result at a depth. -/
def «at» {α : Type} (depth : Nat) (a : Except Fault α) : Ranked α := a.mapError fun f => (depth, f)

end Ranked

/-- The lists of a list that are there, the last one first, one after the other. -/
def joinReversed {α : Type} (xss : List (List α)) : List α := xss.reverse.flatten

mutual

/-- The entries of a mapping with those that are merged into it. -/
def flatten : List (Node × Node) → Except Fault (List (Node × Node))
  | entries => do
    let (merged, own) ← split entries
    return merged ++ own

/-- The entries that are merged into a mapping, and its own. -/
def split : List (Node × Node) → Except Fault (List (Node × Node) × List (Node × Node))
  | [] => .ok ([], [])
  | (k, v) :: es => do
    if k.kind = .merge then
      let here ← merged v
      let (rest, own) ← split es
      return (here ++ rest, own)
    else
      let (rest, own) ← split es
      let k := match k with
        | .scalar .standIn t => .scalar .text t
        | k => k
      return (rest, (k, v) :: own)

/-- The entries that a value gives when it is merged. -/
def merged : Node → Except Fault (List (Node × Node))
  | .mapping _ es => do
    let (merged, own) ← split es
    return merged ++ own
  | .sequence _ ns => do return joinReversed (← mergedItems ns)
  | _ => .error .malformed

/-- The entries that the items of a sequence give, which must be mappings. -/
def mergedItems : List Node → Except Fault (List (List (Node × Node)))
  | [] => .ok []
  | .mapping _ es :: ns => do
    let (merged, own) ← split es
    return (merged ++ own) :: (← mergedItems ns)
  | _ :: _ => .error .malformed

end

/-- The value of a node in a document; the first number is more than the depth of the node, the
second the depth it is at. -/
def valueAt : Nat → Nat → Node → Ranked Value
  | 0, depth, _ => .error (depth, .tooDeep)
  | fuel + 1, depth, n =>
    let inner := valueAt fuel (depth + 1)
    match n.kind, n with
    | .sequence, .sequence _ ns => (Ranked.all (ns.map inner)).map .list
    | .mapping, .mapping _ es => (entries inner (depth + 1) es).map Value.dictOf
    | .set, .mapping _ es =>
      (entries inner (depth + 1) es).map fun es => Value.setOf (es.map (·.1))
    | .orderedMapping, .sequence _ ns => (Ranked.all (ns.map (pair inner (depth + 1)))).map .list
    | .pairs, .sequence _ ns => (Ranked.all (ns.map (pair inner (depth + 1)))).map .list
    | .sequence, _ => .error (depth + 1, .malformed)
    | .mapping, _ => .error (depth + 1, .malformed)
    | .set, _ => .error (depth + 1, .malformed)
    | .orderedMapping, _ => .error (depth + 1, .malformed)
    | .pairs, _ => .error (depth + 1, .malformed)
    | kind, n => Ranked.at depth (match n.text? with
      | some t => scalarValue kind t
      | none => .error .malformed)
where
  /-- An entry of which the key can be found again. -/
  entry (inner : Node → Ranked Value) (depth : Nat) (e : Node × Node) : Ranked (Value × Value) :=
    let key : Ranked Value := match inner e.1 with
      | .ok k => if k.isHashable then .ok k else .error (depth, .malformed)
      | .error f => match e.1 with
        | .scalar _ _ => .error f
        | _ => .error (depth, .malformed)
    Ranked.both key (inner e.2)
  /-- The entries of a mapping. -/
  entries (inner : Node → Ranked Value) (depth : Nat) (es : List (Node × Node)) :
      Ranked (List (Value × Value)) :=
    match flatten es with
    | .error f => .error (depth, f)
    | .ok es => Ranked.all (es.map (entry inner depth))
  /-- The only entry of a mapping. -/
  pair (inner : Node → Ranked Value) (depth : Nat) : Node → Ranked Value
    | .mapping _ [e] => (Ranked.both (inner e.1) (inner e.2)).map fun (k, v) => .tuple [k, v]
    | _ => .error (depth, .malformed)

/-- The value of a text; a text without content has the absent value. -/
def read (t : Text) : Except Fault Value := do
  match ← Node.ofText t with
  | none => return .null
  | some n => (valueAt (n.depth + 1) 0 n).mapError (·.2)

end GuardedTools.Yaml
