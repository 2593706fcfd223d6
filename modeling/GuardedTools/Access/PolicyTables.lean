import GuardedTools.Access.Policy
import GuardedTools.Value.Display
import GuardedTools.Value.Items
import GuardedTools.Value.Order

/-!
# Policies from values

A policy can be made of tables that are values of any kind, about permissions that are values of any
kind.  A table that is absent or empty in any way has no rows; a row is whatever can be gone
through, so a text is the list of its characters.

`PolicyTables` keeps the rules as they were written beside the policy.  What is asked of it may come
to nothing where permissions of two kinds are to be put in order, or where a rule requires what
cannot be found among permissions.
-/

namespace GuardedTools

/-- Why values are no tables of a policy, or give no answer. -/
inductive TableFault where
  /-- The items of a table or a row are not what is asked for. -/
  | items (fault : ItemsFault)
  /-- A value of the class has no such operation. -/
  | noAttribute (className attributeName : Text)
  /-- Permissions have no common order. -/
  | noOrder (fault : OrderFault)
deriving DecidableEq, Repr

namespace TableFault

/-- The word that names a kind of fault. -/
def kind : TableFault → Text
  | items f => f.kind
  | noAttribute _ _ => "AttributeError"
  | noOrder _ => "TypeError"

def message : TableFault → Text
  | items f => f.message
  | noAttribute c a => c.quoted ++ " object has no attribute " ++ a.quoted
  | noOrder f => f.message

end TableFault

instance : BEq Value := ⟨Value.same⟩

instance : Permission Value where
  isNothing v := !v.isTruthy

/-- A policy of values, with its rules as they were written. -/
structure PolicyTables where
  rules : List (Value × Value)
  policy : PolicyOf Value
deriving Inhabited, Repr

namespace PolicyTables

/-! ### Tables -/

/-- The entries of a table. -/
def entriesOf (v : Value) : Except TableFault (List (Value × Value)) :=
  match v with
  | .dict es => .ok es
  | v => if v.isTruthy then .error (.noAttribute v.className "items") else .ok []

/-- The rows of a table. -/
def rowsOf : List (Text × Value) → Except TableFault (List (Text × List Value))
  | [] => .ok []
  | (name, v) :: es => do
    let items ← v.setItems.mapError .items
    return (name, items) :: (← rowsOf es)

/-- A name of a role in its normal form. -/
def roleOf : Value → Except TableFault Text
  | .text t => .ok (normalRole t)
  | v => .error (.noAttribute v.className "strip")

/-- The entries of a table with names of roles in their normal form. -/
def roleEntriesOf : List (Value × Value) → Except TableFault (List (Text × Value))
  | [] => .ok []
  | (k, v) :: es => do
    let role ← roleOf k
    return (role, v) :: (← roleEntriesOf es)

/-- The rows of a table of roles, with roles as items. -/
def roleRowsOf : List (Value × Value) → Except TableFault (List (Text × List Text))
  | [] => .ok []
  | (k, v) :: es => do
    let role ← roleOf k
    let items ← (← v.items.mapError .items).mapM roleOf
    return (role, items) :: (← roleRowsOf es)

/-- The last of the rows with each name, where the first one stood. -/
def lastRows (rows : List (Text × Value)) : List (Text × Value) :=
  rows.foldl (fun kept r => put r kept) []
where
  put (r : Text × Value) : List (Text × Value) → List (Text × Value)
    | [] => [r]
    | (n, v) :: rest => if n = r.1 then r :: rest else (n, v) :: put r rest

/-- The rules of the names that are texts. -/
def namedRules (rules : List (Value × Value)) : List (Text × Value) :=
  rules.filterMap fun e => match e.1 with
    | .text name => some (name, e.2)
    | _ => none

/-- The tables of a policy from values; no rules and no row for the anonymous caller are empty. -/
def ofValues (rules grants roleGrants : Value) (anonymous : Option Value) (roleInherits : Value) :
    Except TableFault PolicyTables := do
  let rules ← if rules.isTruthy then rules.entries.mapError .items else pure []
  let grants ← rowsOf ((← entriesOf grants).map fun e => (e.1.plain, e.2))
  let roleGrants ← rowsOf (lastRows (← roleEntriesOf (← entriesOf roleGrants)))
  let anonymous ← match anonymous with
    | some v => v.setItems.mapError .items
    | none => pure []
  let roleInherits ← roleRowsOf (← entriesOf roleInherits)
  return { rules, policy := .ofTables (namedRules rules) grants roleGrants anonymous roleInherits }

/-! ### Answers -/

/-- Values in their order. -/
def ordered (vs : List Value) : Except TableFault (List Value) :=
  (Value.sorted vs).mapError .noOrder

/-- The permissions of a caller in their order; there is none of whom nothing is said. -/
def permissions (t : PolicyTables) (caller : Option Identity) : Except TableFault (List Value) :=
  match caller with
  | none => .error (.noAttribute "NoneType" "is_anonymous")
  | some i => do
    let held ← (Value.list (t.policy.permissionsFor i)).setItems.mapError .items
    ordered held

/-- Roles with all that they inherit, in their order. -/
def roles (t : PolicyTables) (v : Value) : Except TableFault (List Value) := do
  let given ← v.setItems.mapError .items
  let others := given.filter fun x => match x with
    | .text _ => false
    | _ => true
  ordered (((t.policy.effectiveRoles (Value.texts given)).map .text) ++ others)

/-- The decision on a call of a tool. -/
def decide (t : PolicyTables) (caller : Option Identity) (tool : Text)
    (names : Option (List Text)) : Except TableFault Decision := do
  let decision := t.policy.decide caller tool names
  let required := (t.policy.requiredPermission tool).getD .null
  if decision != .deny .noPolicyForTool then
    match required with
    | .set _ _ => pure ()
    | v => let _ ← v.hashable.mapError .items
  return decision

/-- The tables of a policy about texts. -/
def ofPolicy (p : Policy) : PolicyTables :=
  let rows (table : Table Text) : Table Value := table.map fun r => (r.1, r.2.map .text)
  { rules := p.rules.map fun r => (.text r.1, .text r.2)
    policy := {
      rules := p.rules.map fun r => (r.1, .text r.2)
      grants := rows p.grants
      roleGrants := rows p.roleGrants
      anonymous := p.anonymous.map .text
      roleInherits := p.roleInherits } }

/-- A permission as a text. -/
def wordOf (v : Value) : Text := if v.isTruthy then v.plain else Text.empty

/-- The policy about permissions as texts. -/
def worded (t : PolicyTables) : Policy :=
  let rows (table : Table Value) : Table Text := table.map fun r => (r.1, r.2.map Value.plain)
  { rules := t.policy.rules.map fun r => (r.1, wordOf r.2)
    grants := rows t.policy.grants
    roleGrants := rows t.policy.roleGrants
    anonymous := t.policy.anonymous.map Value.plain
    roleInherits := t.policy.roleInherits }

end PolicyTables

end GuardedTools
