import GuardedTools.Proofs.Access.Decision
import GuardedTools.Proofs.Text
import Mathlib.Data.List.Basic

/-!
# Policies and the tables that they are written in

A policy is made of tables whose names of roles are brought into their normal form, and names that are
written apart can be one then.  Of the rows with one name the last one counts.  So a principal holds what
the tables give without the rows that a later one replaces; it never holds more than the tables give, and
it holds all of it if no two names of a table are one (`Written.permissionsFor_exact`).

What tables give is said of their rows as they are written (`Written.Gives`), and which of them count is
said once for all three kinds of rows (`Table.mem_row_foldl_put_iff`).
-/

namespace GuardedTools

variable {α β π : Type}

/-! ### The rows that count -/

namespace Table

theorem row_cons (n : Text) (items : List α) (t : Table α) (name : Text) :
    row ((n, items) :: t) name = if n = name then items else row t name := by
  unfold row row?
  rw [List.find?_cons]
  by_cases same : n = name
  · simp [same]
  · have other : (n == name) = false := by simpa using same
    simp [same, other]

/-- A row that was put in is the one of its name, and leaves those of other names alone. -/
theorem row_put (n : Text) (items : List α) (t : Table α) (name : Text) :
    row (put n items t) name = if n = name then items else row t name := by
  induction t with
  | nil => rw [put, row_cons]
  | cons r t ih =>
    obtain ⟨m, xs⟩ := r
    rw [put]
    by_cases same : m = n
    · subst same
      simp only [if_pos, row_cons]
      split <;> rfl
    · rw [if_neg same, row_cons, row_cons, ih]
      by_cases here : n = name
      · have there : m ≠ name := fun h => same (h.trans here.symm)
        simp [here, there]
      · simp [here]

/-- The rows of a list without those that a later row replaces, whose name has the same form. -/
def lastRows (form : Text → Text) : List (Text × β) → List (Text × β)
  | [] => []
  | r :: rows =>
    if rows.any fun s => form s.1 = form r.1 then lastRows form rows else r :: lastRows form rows

theorem mem_of_mem_lastRows {form : Text → Text} {rows : List (Text × β)} {r : Text × β}
    (h : r ∈ lastRows form rows) : r ∈ rows := by
  induction rows with
  | nil => exact h
  | cons s rows ih =>
    rw [lastRows] at h
    split at h
    · exact List.mem_cons_of_mem s (ih h)
    · rcases List.mem_cons.mp h with rfl | h
      · exact List.mem_cons_self
      · exact List.mem_cons_of_mem s (ih h)

/-- Where all names are distinct no row is replaced. -/
theorem lastRows_of_nodup {form : Text → Text} {rows : List (Text × β)}
    (distinct : (rows.map fun r => form r.1).Nodup) : lastRows form rows = rows := by
  induction rows with
  | nil => rfl
  | cons r rows ih =>
    rw [List.map_cons, List.nodup_cons] at distinct
    have alone : (rows.any fun s => form s.1 = form r.1) = false := by
      rw [List.any_eq_false]
      intro s member
      have other := fun same => distinct.1 (List.mem_map.mpr ⟨s, member, same⟩)
      simpa using other
    rw [lastRows, alone, ih distinct.2]
    rfl

/-- What the row of a name holds after rows were put into a table under forms of their names: what the
last row of this name lists, or what was there before if none has it. -/
theorem mem_row_foldl_put_iff (form : Text → Text) (list : β → List α) (rows : List (Text × β))
    (t : Table α) (name : Text) (x : α) :
    x ∈ row (rows.foldl (fun t r => put (form r.1) (list r.2) t) t) name ↔
      (∃ r ∈ lastRows form rows, form r.1 = name ∧ x ∈ list r.2) ∨
        (∀ r ∈ rows, form r.1 ≠ name) ∧ x ∈ row t name := by
  induction rows generalizing t with
  | nil => simp [lastRows]
  | cons r rows ih =>
    rw [List.foldl_cons, ih, row_put, lastRows]
    by_cases later : ∃ s ∈ rows, form s.1 = form r.1
    · -- a later row replaces this one, so that what was there before is gone with it
      have replaced : (rows.any fun s => form s.1 = form r.1) = true := by simpa using later
      rw [if_pos replaced, List.forall_mem_cons]
      by_cases here : form r.1 = name
      · have gone : ¬ ∀ s ∈ rows, form s.1 ≠ name := by
          obtain ⟨s, member, same⟩ := later
          exact fun none => none s member (same.trans here)
        simp only [here, gone, ne_eq, not_true_eq_false, false_and]
      · simp only [here, if_false, ne_eq, not_false_eq_true, true_and]
    · have stays : ¬ (rows.any fun s => form s.1 = form r.1) = true := by simpa using later
      rw [if_neg stays, List.forall_mem_cons, List.exists_mem_cons_iff]
      by_cases here : form r.1 = name
      · have alone : ∀ s ∈ rows, form s.1 ≠ name := fun s member same =>
          later ⟨s, member, same.trans here.symm⟩
        have none : ¬ ∃ s ∈ lastRows form rows, form s.1 = name ∧ x ∈ list s.2 := by
          rintro ⟨s, member, same, -⟩
          exact alone s (mem_of_mem_lastRows member) same
        simp only [here, none, if_true, false_or, true_and, ne_eq, not_true_eq_false, false_and,
          or_false, and_iff_right_iff_imp]
        exact fun _ => alone
      · simp only [here, if_false, false_and, false_or, ne_eq, not_false_eq_true, true_and]

/-- The row of a name in a table of rows under forms of their names. -/
theorem mem_row_ofRows_iff (form : Text → Text) (list : β → List α) (rows : List (Text × β))
    (name : Text) (x : α) :
    x ∈ row (ofRows (rows.map fun r => (form r.1, list r.2))) name ↔
      ∃ r ∈ lastRows form rows, form r.1 = name ∧ x ∈ list r.2 := by
  have empty : ¬ x ∈ row ([] : Table α) name := List.not_mem_nil
  rw [ofRows, List.foldl_map, mem_row_foldl_put_iff, or_iff_left fun h => empty h.2]

end Table

/-! ### Written tables -/

/-- The tables of a policy as they are written, with names of roles in any form. -/
structure Written (π : Type) where
  rules : List (Text × π) := []
  grants : List (Text × List π) := []
  roleGrants : List (Text × List π) := []
  anonymous : List π := []
  roleInherits : List (Text × List Text) := []

namespace Written

/-- The policy of the tables. -/
def policy (w : Written π) : PolicyOf π :=
  .ofTables w.rules w.grants w.roleGrants w.anonymous w.roleInherits

/-- A row of the first role lists the second one, in whatever forms their names are written. -/
def Inherits (w : Written π) (role other : Text) : Prop :=
  ∃ r ∈ w.roleInherits, normalRole r.1 = role ∧ ∃ o ∈ r.2, normalRole o = other

/-- A row lists a permission for a role that is reached from a given one. -/
def GivesRole (w : Written π) (start : Text) (permission : π) : Prop :=
  ∃ r ∈ w.roleGrants, Relation.ReflTransGen w.Inherits start (normalRole r.1) ∧ permission ∈ r.2

/-- What the tables give to a principal with roles: what a row of the principal lists, and what is
listed for the roles that are reached from its own. -/
def Gives (w : Written π) (principal : Text) (roles : List Text) (permission : π) : Prop :=
  (∃ r ∈ w.grants, r.1 = principal ∧ permission ∈ r.2) ∨
    ∃ start ∈ roles, w.GivesRole start permission

/-- What the tables give to a caller: the anonymous one has a list of its own. -/
def GivesTo (w : Written π) (caller : Option Identity) (permission : π) : Prop :=
  (PolicyOf.IsAnonymous caller ∧ permission ∈ w.anonymous) ∨
    ∃ i ∈ caller, ∃ principal, i.principal = some principal ∧ w.Gives principal i.roles permission

/-- A permission is in the row of the principal, or in the list of the anonymous caller. -/
def Lists (w : Written π) (caller : Option Identity) (permission : π) : Prop :=
  (PolicyOf.IsAnonymous caller ∧ permission ∈ w.anonymous) ∨
    ∃ i ∈ caller, ∃ r ∈ w.grants, i.principal = some r.1 ∧ permission ∈ r.2

/-- The tables without the rows that a later one replaces. -/
def remaining (w : Written π) : Written π where
  rules := w.rules
  grants := Table.lastRows id w.grants
  roleGrants := Table.lastRows normalRole w.roleGrants
  anonymous := w.anonymous
  roleInherits := Table.lastRows normalRole w.roleInherits

/-- No two names of a table are one: those of principals as they are written, those of roles in their
normal form. -/
structure NamesApart (w : Written π) : Prop where
  grants : (w.grants.map (·.1)).Nodup
  roleGrants : (w.roleGrants.map fun r => normalRole r.1).Nodup
  roleInherits : (w.roleInherits.map fun r => normalRole r.1).Nodup

variable {w : Written π}

theorem remaining_of_namesApart (apart : w.NamesApart) : w.remaining = w := by
  have grants : Table.lastRows id w.grants = w.grants := Table.lastRows_of_nodup apart.grants
  rw [remaining, grants, Table.lastRows_of_nodup apart.roleGrants,
    Table.lastRows_of_nodup apart.roleInherits]

theorem Lists.givesTo {caller : Option Identity} {permission : π} (h : w.Lists caller permission) :
    w.GivesTo caller permission := by
  rcases h with anonymous | ⟨i, presented, r, member, principal, listed⟩
  · exact Or.inl anonymous
  · exact Or.inr ⟨i, presented, r.1, principal, Or.inl ⟨r, member, rfl, listed⟩⟩

/-! ### Nothing is added -/

theorem Inherits.of_remaining {role other : Text} (h : w.remaining.Inherits role other) :
    w.Inherits role other := by
  obtain ⟨r, member, listed⟩ := h
  exact ⟨r, Table.mem_of_mem_lastRows member, listed⟩

theorem Gives.of_remaining {principal : Text} {roles : List Text} {permission : π}
    (h : w.remaining.Gives principal roles permission) : w.Gives principal roles permission := by
  rcases h with ⟨r, member, listed⟩ | ⟨start, among, r, member, path, listed⟩
  · exact Or.inl ⟨r, Table.mem_of_mem_lastRows member, listed⟩
  · have edges : w.remaining.Inherits ≤ w.Inherits := fun _ _ => Inherits.of_remaining
    have wider := Relation.ReflTransGen.mono edges _ _ path
    exact Or.inr ⟨start, among, r, Table.mem_of_mem_lastRows member, wider, listed⟩

/-! ### The policy of tables -/

theorem mem_grants_row_iff (principal : Text) (permission : π) :
    permission ∈ w.policy.grants.row principal ↔
      ∃ r ∈ w.remaining.grants, r.1 = principal ∧ permission ∈ r.2 := by
  have rows := Table.mem_row_ofRows_iff id id w.grants principal permission
  have written : (w.grants.map fun r => (id r.1, id r.2)) = w.grants := List.map_id _
  rwa [written] at rows

theorem mem_roleGrants_row_iff (role : Text) (permission : π) :
    permission ∈ w.policy.roleGrants.row role ↔
      ∃ r ∈ w.remaining.roleGrants, normalRole r.1 = role ∧ permission ∈ r.2 :=
  Table.mem_row_ofRows_iff normalRole id w.roleGrants role permission

theorem inherits_policy_iff (role other : Text) :
    PolicyOf.Inherits w.policy.roleInherits role other ↔ w.remaining.Inherits role other := by
  have rows := Table.mem_row_ofRows_iff normalRole (List.map normalRole) w.roleInherits role other
  simp only [List.mem_map] at rows
  exact rows

theorem reaches_policy_iff (start role : Text) :
    PolicyOf.Reaches w.policy.roleInherits start role ↔
      Relation.ReflTransGen w.remaining.Inherits start role := by
  have edges : PolicyOf.Inherits w.policy.roleInherits = w.remaining.Inherits := by
    funext role other
    exact propext (inherits_policy_iff role other)
  rw [PolicyOf.Reaches, edges]

theorem holdsByRole_policy_iff (roles : List Text) (permission : π) :
    w.policy.HoldsByRole roles permission ↔
      ∃ start ∈ roles, w.remaining.GivesRole start permission := by
  constructor
  · rintro ⟨start, among, role, path, granted⟩
    obtain ⟨r, member, rfl, listed⟩ := (mem_roleGrants_row_iff role permission).mp granted
    exact ⟨start, among, r, member, (reaches_policy_iff _ _).mp path, listed⟩
  · rintro ⟨start, among, r, member, path, listed⟩
    have granted := (mem_roleGrants_row_iff _ permission).mpr ⟨r, member, rfl, listed⟩
    exact ⟨start, among, _, (reaches_policy_iff _ _).mpr path, granted⟩

/-- A caller holds what the tables give without the rows that a later one replaces. -/
theorem holds_policy_iff (caller : Option Identity) (permission : π) :
    w.policy.Holds caller permission ↔ w.remaining.GivesTo caller permission := by
  unfold PolicyOf.Holds GivesTo Gives
  simp only [mem_grants_row_iff, holdsByRole_policy_iff]
  rfl

/-- A principal holds what the tables give without the rows that a later one replaces. -/
theorem mem_permissionsFor_remaining_iff (principal : Text) (roles : List Text) (permission : π) :
    permission ∈ w.policy.permissionsFor { principal := some principal, roles } ↔
      w.remaining.Gives principal roles permission := by
  show permission ∈ w.policy.grants.row principal
      ++ (w.policy.effectiveRoles roles).flatMap w.policy.roleGrants.row ↔ _
  rw [List.mem_append, PolicyOf.mem_flatMap_roleGrants_iff, mem_grants_row_iff,
    holdsByRole_policy_iff]
  rfl

variable (w) in
/-- **What a principal holds** of the tables of a policy: all that they give without the rows that a
later row of the same name replaces, and nothing else.  That is never more than the tables give, and it is
all of it where no two names of a table are one. -/
theorem permissionsFor_exact (principal : Text) (roles : List Text) (permission : π) :
    (permission ∈ w.policy.permissionsFor { principal := some principal, roles } ↔
      w.remaining.Gives principal roles permission) ∧
    (permission ∈ w.policy.permissionsFor { principal := some principal, roles } →
      w.Gives principal roles permission) ∧
    (w.NamesApart →
      (permission ∈ w.policy.permissionsFor { principal := some principal, roles } ↔
        w.Gives principal roles permission)) := by
  have held := mem_permissionsFor_remaining_iff (w := w) principal roles permission
  refine ⟨held, fun h => (held.mp h).of_remaining, fun apart => ?_⟩
  rw [held, remaining_of_namesApart apart]

/-- Tables in which names are written in several forms, none of them twice. -/
def ranks : Written Text where
  roleGrants := [(" User ", ["write"]), ("ADMIN", ["manage"])]
  roleInherits := [("Owner", [" admin"]), ("admin", ["USER"])]

/-- An owner holds what is written for users, two edges away. -/
theorem permissionsFor_exact_ranks :
    ranks.NamesApart ∧
      ("write" : Text) ∈ ranks.policy.permissionsFor { principal := some "o", roles := ["owner"] } := by
  have user : normalRole " User " = "user" := normalRole_of_isAscii (by decide +kernel)
  have admin : normalRole "ADMIN" = "admin" := normalRole_of_isAscii (by decide +kernel)
  have owner : normalRole "Owner" = "owner" := normalRole_of_isAscii (by decide +kernel)
  have spaced : normalRole " admin" = "admin" := normalRole_of_isAscii (by decide +kernel)
  have small : normalRole "admin" = "admin" := normalRole_of_isAscii (by decide +kernel)
  have capital : normalRole "USER" = "user" := normalRole_of_isAscii (by decide +kernel)
  have apart : ranks.NamesApart :=
    { grants := List.nodup_nil
      roleGrants := by
        show [normalRole " User ", normalRole "ADMIN"].Nodup
        rw [user, admin]
        decide
      roleInherits := by
        show [normalRole "Owner", normalRole "admin"].Nodup
        rw [owner, small]
        decide }
  have first : ranks.Inherits "owner" "admin" :=
    ⟨_, List.mem_cons_self, owner, _, List.mem_cons_self, spaced⟩
  have second : ranks.Inherits "admin" "user" :=
    ⟨_, List.mem_cons_of_mem _ List.mem_cons_self, small, _, List.mem_cons_self, capital⟩
  have path := (Relation.ReflTransGen.single first).tail second
  have given : ranks.GivesRole "owner" "write" :=
    ⟨_, List.mem_cons_self, user ▸ path, List.mem_cons_self⟩
  have held := (permissionsFor_exact ranks "o" ["owner"] "write").2.2 apart
  exact ⟨apart, held.mpr (Or.inr ⟨"owner", List.mem_cons_self, given⟩)⟩

/-- Tables with two rows of one role, each with a permission and with an edge. -/
def doubled : Written Text where
  roleGrants := [("Admin", ["read"]), ("admin", ["write"]), ("auditor", ["audit"])]
  roleInherits := [("Admin", ["auditor"]), (" admin ", ["user"])]

/-- In the policy the second rows have taken the places of the first. -/
theorem policy_doubled :
    doubled.policy =
      { roleGrants := [("admin", ["write"]), ("auditor", ["audit"])]
        roleInherits := [("admin", ["user"])] } := by
  have capital : normalRole "Admin" = "admin" := normalRole_of_isAscii (by decide +kernel)
  have small : normalRole "admin" = "admin" := normalRole_of_isAscii (by decide +kernel)
  have spaced : normalRole " admin " = "admin" := normalRole_of_isAscii (by decide +kernel)
  have auditor : normalRole "auditor" = "auditor" := normalRole_of_isAscii (by decide +kernel)
  have user : normalRole "user" = "user" := normalRole_of_isAscii (by decide +kernel)
  simp only [policy, doubled, PolicyOf.ofTables, List.map_cons, List.map_nil, capital, small, spaced,
    auditor, user]
  rfl

/-- Of two rows of one role the first one is lost: the tables give an administrator what it lists and what
it inherits, and the policy does not. -/
theorem lost_doubled :
    (doubled.Gives "A" ["admin"] "read" ∧
      ("read" : Text) ∉ doubled.policy.permissionsFor { principal := some "A", roles := ["admin"] }) ∧
    (doubled.Gives "A" ["admin"] "audit" ∧
      ("audit" : Text) ∉ doubled.policy.permissionsFor { principal := some "A", roles := ["admin"] }) := by
  have admin : normalRole "Admin" = "admin" := normalRole_of_isAscii (by decide +kernel)
  have auditor : normalRole "auditor" = "auditor" := normalRole_of_isAscii (by decide +kernel)
  have own : doubled.GivesRole "admin" "read" :=
    ⟨("Admin", ["read"]), by decide, by rw [admin], by decide⟩
  have edge : doubled.Inherits "admin" "auditor" :=
    ⟨("Admin", ["auditor"]), by decide, admin, "auditor", by decide, auditor⟩
  have inherited : doubled.GivesRole "admin" "audit" :=
    ⟨("auditor", ["audit"]), by decide, by rw [auditor]; exact .single edge, by decide⟩
  -- the one edge that is left leads to a role of which nothing is written
  have roles : doubled.policy.effectiveRoles ["admin"] = [("user" : Text), "admin"] := by
    have ofAdmin : doubled.policy.roleInherits.row "admin" = [("user" : Text)] := by
      rw [policy_doubled]
      decide +kernel
    have ofUser : doubled.policy.roleInherits.row "user" = [] := by
      rw [policy_doubled]
      decide +kernel
    rw [PolicyOf.effectiveRoles, PolicyOf.closure_cons_of_not_mem (by decide), ofAdmin,
      List.append_nil, PolicyOf.closure_cons_of_not_mem (by decide +kernel), ofUser,
      List.append_nil, PolicyOf.closure_nil]
  have held : doubled.policy.permissionsFor { principal := some "A", roles := ["admin"] }
      = [("write" : Text)] := by
    rw [PolicyOf.permissionsFor]
    dsimp only
    rw [roles, policy_doubled]
    decide +kernel
  rw [held]
  exact ⟨⟨Or.inr ⟨_, List.mem_cons_self, own⟩, by decide +kernel⟩,
    Or.inr ⟨_, List.mem_cons_self, inherited⟩, by decide +kernel⟩

end Written

end GuardedTools
