import GuardedTools.Access.Identity

/-!
# Policies and decisions

A policy says which permission each tool requires and which permissions each caller holds.  A
principal holds its own grants and those of its roles, and of the roles they inherit, directly or
through others (`PolicyOf.closure`).  The anonymous caller holds the permissions granted to it and
no others, and nobody else holds them for that reason.

A permission is a text, as a rule; any type can stand for permissions that can be compared.

A call of a tool is allowed if the tool exists, there is a rule for it, and the caller holds the
permission that the rule requires (`PolicyOf.decide`).  The reason of a denial is for the audit trail
only.
-/

namespace GuardedTools

/-- Types of permissions, some of which require nothing. -/
class Permission (π : Type) where
  isNothing : π → Bool

instance : Permission Text where
  isNothing := Text.isEmpty

/-- A row of a table for each of some names. -/
abbrev Table (α : Type) := List (Text × List α)

namespace Table

variable {α : Type}

/-- The row of a name. -/
def row? (t : Table α) (name : Text) : Option (List α) := (t.find? (·.1 == name)).map (·.2)

/-- The row of a name; a name without a row has an empty one. -/
def row (t : Table α) (name : Text) : List α := (t.row? name).getD []

/-- Puts a row into a table: in the place of the one with its name, or at the end. -/
def put (name : Text) (items : List α) : Table α → Table α
  | [] => [(name, items)]
  | (n, xs) :: t => if n = name then (n, items) :: t else (n, xs) :: put name items t

/-- The table of rows in order, of which later ones replace earlier ones of their name. -/
def ofRows (rows : List (Text × List α)) : Table α :=
  rows.foldl (fun t r => put r.1 r.2 t) []

end Table

/-- The tables of a policy about permissions of a type. -/
structure PolicyOf (π : Type) where
  /-- The permission that each tool requires. -/
  rules : List (Text × π) := []
  /-- The permissions of principals. -/
  grants : Table π := []
  /-- The permissions of roles. -/
  roleGrants : Table π := []
  /-- The permissions of the anonymous caller. -/
  anonymous : List π := []
  /-- The roles whose permissions a role holds too. -/
  roleInherits : Table Text := []
deriving DecidableEq, Inhabited, Repr

/-- A policy about permissions that are texts. -/
abbrev Policy := PolicyOf Text

namespace PolicyOf

variable {π : Type}

/-- The policy of tables as they are written: names of roles are brought into their normal form. -/
def ofTables (rules : List (Text × π)) (grants roleGrants : List (Text × List π))
    (anonymous : List π) (roleInherits : List (Text × List Text)) : PolicyOf π :=
  { rules,
    grants := Table.ofRows grants,
    roleGrants := Table.ofRows (roleGrants.map fun r => (normalRole r.1, r.2)),
    anonymous,
    roleInherits := Table.ofRows (roleInherits.map fun r => (normalRole r.1, r.2.map normalRole)) }

/-- The permission that a tool requires, if there is a rule for it. -/
def requiredPermission (p : PolicyOf π) (tool : Text) : Option π :=
  (p.rules.find? (·.1 == tool)).map (·.2)

/-- The number of rows of a table whose names have not been seen. -/
def unseen (inherits : Table Text) (seen : List Text) : Nat :=
  (inherits.filter fun r => !seen.contains r.1).length

theorem unseen_cons_le (inherits : Table Text) (seen : List Text) (role : Text) :
    unseen inherits (role :: seen) ≤ unseen inherits seen := by
  unfold unseen
  simp only [← List.countP_eq_length_filter]
  apply List.countP_mono_left
  intro r _ h
  simp at h ⊢
  exact h.2

theorem unseen_cons_lt (inherits : Table Text) (seen : List Text) (role : Text) (items : List Text)
    (unknown : ¬ seen.contains role) (row : inherits.row? role = some items) :
    unseen inherits (role :: seen) < unseen inherits seen := by
  induction inherits with
  | nil => simp [Table.row?] at row
  | cons r rest ih =>
    unfold unseen
    have rest_le := unseen_cons_le rest seen role
    unfold unseen at rest_le
    by_cases h : r.1 = role
    · subst h
      simp at unknown
      simp [unknown]
      simpa using Nat.lt_succ_of_le rest_le
    · have rest_row : Table.row? rest role = some items := by
        simpa [Table.row?, List.find?_cons, h] using row
      have lt := ih rest_row
      unfold unseen at lt
      by_cases hs : r.1 ∈ seen
      · simpa [hs, h] using lt
      · simpa [hs, h] using lt

/-- The roles seen so far with the pending ones and all that these inherit. -/
def closure (inherits : Table Text) (seen : List Text) : List Text → List Text
  | [] => seen
  | role :: pending =>
    if seen.contains role then closure inherits seen pending
    else match _found : inherits.row? role with
      | none => closure inherits (role :: seen) pending
      | some items => closure inherits (role :: seen) (items ++ pending)
termination_by pending => (unseen inherits seen, pending.length)
decreasing_by
  · exact Prod.Lex.right _ (by simp)
  · rcases Nat.lt_or_eq_of_le (unseen_cons_le inherits seen role) with h | h
    · exact Prod.Lex.left _ _ h
    · rw [h]; exact Prod.Lex.right _ (by simp)
  · rename_i unknown
    exact Prod.Lex.left _ _ (unseen_cons_lt inherits seen role items unknown _found)

/-- Some roles with all that they inherit. -/
def effectiveRoles (p : PolicyOf π) (roles : List Text) : List Text :=
  closure p.roleInherits [] roles

/-- The permissions that a caller holds. -/
def permissionsFor (p : PolicyOf π) (caller : Identity) : List π :=
  match caller.principal with
  | none => p.anonymous
  | some principal =>
    p.grants.row principal ++ (p.effectiveRoles caller.roles).flatMap p.roleGrants.row

end PolicyOf

/-! ### Decisions -/

/-- Why a call is denied. -/
inductive DenyReason where
  | noPolicyForTool
  | insufficientPermission
deriving DecidableEq, Inhabited, Repr

def DenyReason.word : DenyReason → Text
  | noPolicyForTool => "no_policy_for_tool"
  | insufficientPermission => "insufficient_permission"

/-- Whether a call is allowed. -/
inductive Decision where
  | allow
  | deny (reason : DenyReason)
deriving DecidableEq, Inhabited, Repr

namespace Decision

def isAllowed : Decision → Bool
  | allow => true
  | deny _ => false

def word : Decision → Text
  | allow => "allow"
  | deny _ => "deny"

end Decision

namespace PolicyOf

/-- Decides on a call of a tool, which must be among the names if there are any given.  A caller who
does not present an identity is the anonymous one. -/
def decide {π : Type} [BEq π] [Permission π] (p : PolicyOf π) (caller : Option Identity)
    (tool : Text) (names : Option (List Text)) : Decision :=
  if names.any fun ns => !ns.contains tool then .deny .noPolicyForTool
  else match p.requiredPermission tool with
    | none => .deny .noPolicyForTool
    | some permission =>
      if Permission.isNothing permission then .deny .noPolicyForTool
      else if (p.permissionsFor (caller.getD .anonymous)).contains permission then .allow
      else .deny .insufficientPermission

end PolicyOf

end GuardedTools
