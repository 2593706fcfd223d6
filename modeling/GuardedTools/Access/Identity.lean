import GuardedTools.Text.Blank
import GuardedTools.Text.Case
import GuardedTools.Value.Items

/-!
# Callers

A caller is anonymous or a principal with roles.  Roles are compared in small letters and without
the blanks around them; blank roles are none.  Roles form a set: `RoleSet` lists have no order of
their own, and identities are compared by `Identity.same`.

The claims of a verified token name a principal and its roles.  Roles come as a list, of which only
the texts count, or as one text with commas; a single further role may be named.  Claims that name
no principal are refused, so that a token never stands for the anonymous caller.
-/

namespace GuardedTools

/-- A caller as it presents itself; without a principal it is the anonymous caller. -/
structure Identity where
  principal : Option Text := none
  roles : List Text := []
deriving DecidableEq, Inhabited, Repr

/-- A name of a role in the form in which roles are compared. -/
def normalRole (r : Text) : Text := r.trim.lower

/-- The roles that a list of names stands for, each of them once. -/
def normalRoles (names : List Text) : List Text :=
  ((names.filter fun r => !r.isBlank).map normalRole).eraseDups

namespace Identity

/-- The caller of whom nothing is known. -/
def anonymous : Identity := {}

/-- A principal with named roles. -/
def of (principal : Text) (roles : List Text) : Identity :=
  { principal := some principal, roles := normalRoles roles }

def isAnonymous (i : Identity) : Bool := i.principal.isNone

/-- What the audit trail calls the anonymous caller. -/
def anonymousSubject : Text := "<anonymous>"

/-- What the audit trail calls a caller. -/
def auditSubject (i : Identity) : Text := i.principal.getD anonymousSubject

/-- Whether two identities have one principal and the same set of roles. -/
def same (i j : Identity) : Bool :=
  i.principal == j.principal && i.roles.all j.roles.contains && j.roles.all i.roles.contains

end Identity

/-! ### Claims -/

/-- Why claims give no identity. -/
inductive ClaimsFault where
  | noSubject
deriving DecidableEq, Inhabited, Repr

def ClaimsFault.message : ClaimsFault → Text
  | noSubject => "JWT has no subject"

namespace Identity

/-- The claims that may name the principal, the first of them that does. -/
def subjectClaims : List Text := ["sub", "subject", "user"]

/-- The principal that a claim names. -/
def principalOf (claims : Value) (name : Text) : Option Text :=
  match claims.get? name with
  | some (.text t) => if t.isBlank then none else some t.trim
  | _ => none

/-- The roles that the list claim names. -/
def listedRoles (claims : Value) : List Text :=
  match claims.get? "roles" with
  | some (.text t) => t.splitOn ','
  | some (.list xs) => Value.texts xs
  | _ => []

/-- The role that the single claim names. -/
def singleRole (claims : Value) : List Text :=
  match claims.get? "role" with
  | some (.text t) => [t]
  | _ => []

/-- The identity that verified claims stand for. -/
def ofClaims (claims : Value) : Except ClaimsFault Identity :=
  match subjectClaims.findSome? (principalOf claims) with
  | some principal => .ok (of principal (listedRoles claims ++ singleRole claims))
  | none => .error .noSubject

end Identity

end GuardedTools
