import GuardedTools.Access.Policy
import Mathlib.Logic.Relation

/-!
# Correctness of decisions

`effectiveRoles` gives exactly the roles that are reached from the given ones along any number of
edges of the table of inherited roles (`mem_effectiveRoles_iff`), whatever cycles the table has.
The worklist `closure inherits seen pending` keeps two invariants.  What has been seen and what is
pending is reached, so that every property which is passed on along edges is one of the whole closure
(`closure_least`).  The edges out of what has been seen end in what has been seen or is pending
(`Frontier`), so that nothing is left out when nothing is pending any more (`inherits_mem_closure`).

`decide` allows a call iff the tool is there, a rule asks a permission for it that is not empty, and
the caller holds that permission; it denies a call for want of a rule iff the tool is not there or no
rule asks anything; and it denies it for want of a permission in all other cases (`decide_exact`).

What a caller holds is said without the tables' searches (`Holds`): the anonymous caller holds what is
granted to it and nothing else, whatever roles it presents, and a principal holds its own grants and
those of every role that is reached from one of its roles (`mem_permissionsFor_iff`).
-/

namespace GuardedTools.PolicyOf

section RoleClosure

variable {π : Type} {inherits : Table Text}

/-- An edge: the row of the first role lists the second one. -/
def Inherits (inherits : Table Text) (role other : Text) : Prop := other ∈ inherits.row role

/-- The second role is reached from the first one along any number of edges, also none. -/
def Reaches (inherits : Table Text) : Text → Text → Prop :=
  Relation.ReflTransGen (Inherits inherits)

/-! ### The steps of the worklist -/

theorem closure_nil (seen : List Text) : closure inherits seen [] = seen := by
  rw [closure]

theorem closure_cons_of_mem {seen : List Text} {role : Text} (known : role ∈ seen)
    (pending : List Text) :
    closure inherits seen (role :: pending) = closure inherits seen pending := by
  rw [closure, if_pos (List.contains_iff_mem.mpr known)]

/-- A role that has not been seen is seen now, and its row is pending; a role without a row has an
empty one. -/
theorem closure_cons_of_not_mem {seen : List Text} {role : Text} (new : role ∉ seen)
    (pending : List Text) :
    closure inherits seen (role :: pending)
      = closure inherits (role :: seen) (inherits.row role ++ pending) := by
  rw [closure, if_neg (by rwa [List.contains_iff_mem])]
  unfold Table.row
  split
  · next found => rw [found]; rfl
  · next found => rw [found]; rfl

/-- Induction along the run of the worklist. -/
theorem closure_induction (inherits : Table Text) {motive : List Text → List Text → Prop}
    (done : ∀ seen, motive seen [])
    (known : ∀ seen role pending, role ∈ seen → motive seen pending → motive seen (role :: pending))
    (new : ∀ seen role pending, role ∉ seen →
      motive (role :: seen) (inherits.row role ++ pending) → motive seen (role :: pending))
    (seen pending : List Text) : motive seen pending := by
  induction seen, pending using closure.induct inherits with
  | case1 seen => exact done seen
  | case2 seen role pending h ih => exact known seen role pending (List.contains_iff_mem.mp h) ih
  | case3 seen role pending h found ih =>
    refine new seen role pending (by rwa [List.contains_iff_mem] at h) ?_
    rw [Table.row, found]
    exact ih
  | case4 seen role pending h items found ih =>
    refine new seen role pending (by rwa [List.contains_iff_mem] at h) ?_
    rw [Table.row, found]
    exact ih

/-! ### Nothing else -/

/-- A property of all that is seen and pending that edges pass on is one of the whole closure. -/
theorem closure_least {P : Text → Prop}
    (passed : ∀ role other, P role → Inherits inherits role other → P other)
    (seen pending : List Text) (hseen : ∀ role ∈ seen, P role) (hpending : ∀ role ∈ pending, P role) :
    ∀ role ∈ closure inherits seen pending, P role := by
  induction seen, pending using closure_induction inherits with
  | done seen => rw [closure_nil]; exact hseen
  | known seen role pending h ih =>
    rw [closure_cons_of_mem h]
    exact ih hseen fun r hr => hpending r (List.mem_cons_of_mem _ hr)
  | new seen role pending h ih =>
    rw [closure_cons_of_not_mem h]
    -- the role is seen from now on, and what it inherits is pending
    have hrole : P role := hpending role List.mem_cons_self
    refine ih ?_ ?_
    · intro r hr
      rcases List.mem_cons.mp hr with rfl | hr
      · exact hrole
      · exact hseen r hr
    · intro r hr
      rcases List.mem_append.mp hr with hr | hr
      · exact passed role r hrole hr
      · exact hpending r (List.mem_cons_of_mem _ hr)

/-! ### Nothing left out -/

theorem mem_closure_of_mem_seen (seen pending : List Text) {role : Text} (h : role ∈ seen) :
    role ∈ closure inherits seen pending := by
  induction seen, pending using closure_induction inherits with
  | done seen => rwa [closure_nil]
  | known seen r pending hr ih => rw [closure_cons_of_mem hr]; exact ih h
  | new seen r pending hr ih =>
    rw [closure_cons_of_not_mem hr]; exact ih (List.mem_cons_of_mem _ h)

theorem mem_closure_of_mem_pending (seen pending : List Text) {role : Text} (h : role ∈ pending) :
    role ∈ closure inherits seen pending := by
  induction seen, pending using closure_induction inherits with
  | done seen => exact absurd h List.not_mem_nil
  | known seen r pending hr ih =>
    rw [closure_cons_of_mem hr]
    rcases List.mem_cons.mp h with rfl | h
    · exact mem_closure_of_mem_seen _ _ hr
    · exact ih h
  | new seen r pending hr ih =>
    rw [closure_cons_of_not_mem hr]
    rcases List.mem_cons.mp h with rfl | h
    · exact mem_closure_of_mem_seen _ _ List.mem_cons_self
    · exact ih (List.mem_append_right _ h)

/-- The invariant of the worklist: every edge out of a role that has been seen ends in one that has
been seen or is pending. -/
def Frontier (inherits : Table Text) (seen pending : List Text) : Prop :=
  ∀ role ∈ seen, ∀ other, Inherits inherits role other → other ∈ seen ∨ other ∈ pending

theorem Frontier.of_mem {seen pending : List Text} {role : Text} (known : role ∈ seen)
    (h : Frontier inherits seen (role :: pending)) : Frontier inherits seen pending := by
  intro r hr other edge
  rcases h r hr other edge with hseen | hpending
  · exact Or.inl hseen
  · rcases List.mem_cons.mp hpending with rfl | hpending
    · exact Or.inl known
    · exact Or.inr hpending

theorem Frontier.step {seen pending : List Text} {role : Text}
    (h : Frontier inherits seen (role :: pending)) :
    Frontier inherits (role :: seen) (inherits.row role ++ pending) := by
  intro r hr other edge
  rcases List.mem_cons.mp hr with rfl | hr
  · exact Or.inr (List.mem_append_left _ edge)
  · rcases h r hr other edge with hseen | hpending
    · exact Or.inl (List.mem_cons_of_mem _ hseen)
    · rcases List.mem_cons.mp hpending with rfl | hpending
      · exact Or.inl List.mem_cons_self
      · exact Or.inr (List.mem_append_right _ hpending)

/-- The closure is closed under edges. -/
theorem inherits_mem_closure (seen pending : List Text) (frontier : Frontier inherits seen pending)
    {role other : Text} (h : role ∈ closure inherits seen pending)
    (edge : Inherits inherits role other) : other ∈ closure inherits seen pending := by
  induction seen, pending using closure_induction inherits with
  | done seen =>
    rw [closure_nil] at h ⊢
    exact (frontier role h other edge).resolve_right List.not_mem_nil
  | known seen r pending hr ih =>
    rw [closure_cons_of_mem hr] at h ⊢
    exact ih (frontier.of_mem hr) h
  | new seen r pending hr ih =>
    rw [closure_cons_of_not_mem hr] at h ⊢
    exact ih frontier.step h

/-! ### Effective roles -/

/-- **Correctness of the closure**: some roles with all that they inherit are the roles that are
reached from one of them. -/
theorem mem_effectiveRoles_iff (p : PolicyOf π) (roles : List Text) (role : Text) :
    role ∈ p.effectiveRoles roles ↔ ∃ start ∈ roles, Reaches p.roleInherits start role := by
  constructor
  · intro h
    refine closure_least (P := fun r => ∃ start ∈ roles, Reaches p.roleInherits start r) ?_ []
      roles (fun r hr => absurd hr List.not_mem_nil) ?_ role h
    · rintro r other ⟨start, hstart, path⟩ edge
      exact ⟨start, hstart, path.tail edge⟩
    · intro r hr
      exact ⟨r, hr, Relation.ReflTransGen.refl⟩
  · rintro ⟨start, hstart, path⟩
    have frontier : Frontier p.roleInherits [] roles := fun r hr => absurd hr List.not_mem_nil
    -- along the path, whose last edge stays in the closure
    induction path with
    | refl => exact mem_closure_of_mem_pending [] roles hstart
    | tail _ edge ih => exact inherits_mem_closure [] roles frontier ih edge

end RoleClosure

variable {π : Type}

/-! ### Permissions -/

/-- The caller names no principal: it presents no identity, or one without a principal. -/
def IsAnonymous (caller : Option Identity) : Prop := ∀ i ∈ caller, i.principal = none

/-- A role that is reached from one of some roles has been granted a permission. -/
def HoldsByRole (p : PolicyOf π) (roles : List Text) (permission : π) : Prop :=
  ∃ start ∈ roles, ∃ role, Reaches p.roleInherits start role ∧ permission ∈ p.roleGrants.row role

/-- The permissions that a caller holds. -/
def Holds (p : PolicyOf π) (caller : Option Identity) (permission : π) : Prop :=
  (IsAnonymous caller ∧ permission ∈ p.anonymous) ∨
  ∃ i ∈ caller, ∃ principal, i.principal = some principal ∧
    (permission ∈ p.grants.row principal ∨ p.HoldsByRole i.roles permission)

theorem isAnonymous_iff (caller : Option Identity) :
    IsAnonymous caller ↔ (caller.getD .anonymous).principal = none := by
  cases caller with
  | none => exact ⟨fun _ => rfl, fun _ i hi => absurd hi (by simp)⟩
  | some i => simp [IsAnonymous]

theorem mem_flatMap_roleGrants_iff (p : PolicyOf π) (roles : List Text) (permission : π) :
    permission ∈ (p.effectiveRoles roles).flatMap p.roleGrants.row
      ↔ p.HoldsByRole roles permission := by
  rw [List.mem_flatMap]
  constructor
  · rintro ⟨role, hrole, hgrant⟩
    obtain ⟨start, hstart, path⟩ := (mem_effectiveRoles_iff p roles role).mp hrole
    exact ⟨start, hstart, role, path, hgrant⟩
  · rintro ⟨start, hstart, role, path, hgrant⟩
    exact ⟨role, (mem_effectiveRoles_iff p roles role).mpr ⟨start, hstart, path⟩, hgrant⟩

/-- The computed permissions are the ones that a caller holds. -/
theorem mem_permissionsFor_iff (p : PolicyOf π) (caller : Option Identity) (permission : π) :
    permission ∈ p.permissionsFor (caller.getD .anonymous) ↔ p.Holds caller permission := by
  unfold permissionsFor
  cases hprincipal : (caller.getD .anonymous).principal with
  | none =>
    have anonymous := (isAnonymous_iff caller).mpr hprincipal
    constructor
    · intro h
      exact Or.inl ⟨anonymous, h⟩
    · rintro (⟨_, h⟩ | ⟨i, hi, principal, hp, _⟩)
      · exact h
      · rw [anonymous i hi] at hp
        cases hp
  | some principal =>
    obtain ⟨i, rfl⟩ : ∃ i, caller = some i := by
      cases caller with
      | none => cases hprincipal
      | some i => exact ⟨i, rfl⟩
    rw [Option.getD_some] at hprincipal
    simp only [Option.getD_some, List.mem_append, mem_flatMap_roleGrants_iff]
    constructor
    · intro h
      exact Or.inr ⟨i, rfl, principal, hprincipal, h⟩
    · rintro (⟨anonymous, _⟩ | ⟨j, hj, other, hother, h⟩)
      · rw [anonymous i rfl] at hprincipal
        cases hprincipal
      · obtain rfl : i = j := Option.some.inj hj
        rw [hprincipal] at hother
        obtain rfl : principal = other := Option.some.inj hother
        exact h

/-! ### Rules -/

/-- The tool is among the names, if there are any given. -/
def Known (names : Option (List Text)) (tool : Text) : Prop := ∀ ns ∈ names, tool ∈ ns

/-- A rule asks a permission for the tool, which is not one that requires nothing. -/
def Requires [Permission π] (p : PolicyOf π) (tool : Text) (permission : π) : Prop :=
  p.requiredPermission tool = some permission ∧ Permission.isNothing permission = false

theorem known_iff (names : Option (List Text)) (tool : Text) :
    Known names tool ↔ (names.any fun ns => !ns.contains tool) = false := by
  cases names with
  | none => simp [Known]
  | some ns => simp [Known]

theorem Requires.eq [Permission π] {p : PolicyOf π} {tool : Text} {permission other : π}
    (h : p.Requires tool permission) (h' : p.Requires tool other) : permission = other :=
  Option.some.inj (h.1.symm.trans h'.1)

/-! ### Decisions -/

section

variable [BEq π] [Permission π] {p : PolicyOf π} (caller : Option Identity)
  {tool : Text} {names : Option (List Text)}

theorem decide_of_not_known (h : ¬ Known names tool) :
    p.decide caller tool names = .deny .noPolicyForTool := by
  rw [known_iff, Bool.not_eq_false] at h
  rw [decide, if_pos h]

theorem decide_of_not_requires (h : ¬ ∃ permission, p.Requires tool permission) :
    p.decide caller tool names = .deny .noPolicyForTool := by
  unfold decide
  split
  · rfl
  · cases hrule : p.requiredPermission tool with
    | none => rfl
    | some permission =>
      cases nothing : Permission.isNothing permission with
      | true => simp only [nothing, ↓reduceIte]
      | false => exact absurd ⟨permission, hrule, nothing⟩ h

theorem decide_of_requires (known : Known names tool) {permission : π}
    (rule : p.Requires tool permission) :
    p.decide caller tool names
      = if (p.permissionsFor (caller.getD .anonymous)).contains permission then .allow
        else .deny .insufficientPermission := by
  rw [decide, (known_iff names tool).mp known, rule.1]
  simp only [Bool.false_eq_true, ↓reduceIte, rule.2]

variable [LawfulBEq π]

theorem decide_of_holds (known : Known names tool) {permission : π}
    (rule : p.Requires tool permission) (held : p.Holds caller permission) :
    p.decide caller tool names = .allow := by
  rw [decide_of_requires caller known rule]
  exact if_pos (List.contains_iff_mem.mpr ((mem_permissionsFor_iff p caller permission).mpr held))

theorem decide_of_not_holds (known : Known names tool) {permission : π}
    (rule : p.Requires tool permission) (wanting : ¬ p.Holds caller permission) :
    p.decide caller tool names = .deny .insufficientPermission := by
  rw [decide_of_requires caller known rule]
  refine if_neg fun held => wanting ?_
  exact (mem_permissionsFor_iff p caller permission).mp (List.contains_iff_mem.mp held)

end

/-- When a decision is the right one. -/
def Justified [Permission π] (p : PolicyOf π) (caller : Option Identity) (tool : Text)
    (names : Option (List Text)) : Decision → Prop
  | .allow => Known names tool ∧
      ∃ permission, p.Requires tool permission ∧ p.Holds caller permission
  | .deny .noPolicyForTool => ¬ Known names tool ∨ ¬ ∃ permission, p.Requires tool permission
  | .deny .insufficientPermission => Known names tool ∧
      ∃ permission, p.Requires tool permission ∧ ¬ p.Holds caller permission

section

variable [Permission π] {p : PolicyOf π} {caller : Option Identity} {tool : Text}
  {names : Option (List Text)}

/-- A denial for want of a rule excludes every other decision. -/
theorem Justified.not_required {Q : π → Prop}
    (missing : p.Justified caller tool names (.deny .noPolicyForTool)) :
    ¬ (Known names tool ∧ ∃ permission, p.Requires tool permission ∧ Q permission) := by
  rintro ⟨known, permission, rule, _⟩
  rcases missing with unknown | unruled
  · exact unknown known
  · exact unruled ⟨permission, rule⟩

theorem Justified.not_allow_and_insufficient (allowed : p.Justified caller tool names .allow)
    (denied : p.Justified caller tool names (.deny .insufficientPermission)) : False := by
  obtain ⟨_, permission, rule, held⟩ := allowed
  obtain ⟨_, other, rule', wanting⟩ := denied
  obtain rfl := rule.eq rule'
  exact wanting held

/-- At most one decision is the right one. -/
theorem Justified.unique {d e : Decision} (hd : p.Justified caller tool names d)
    (he : p.Justified caller tool names e) : d = e := by
  rcases d with _ | _ | _ <;> rcases e with _ | _ | _
  · rfl
  · exact absurd hd he.not_required
  · exact absurd he hd.not_allow_and_insufficient
  · exact absurd he hd.not_required
  · rfl
  · exact absurd he hd.not_required
  · exact absurd hd he.not_allow_and_insufficient
  · exact absurd hd he.not_required
  · rfl

/-- The computed decision is the right one. -/
theorem justified_decide [BEq π] [LawfulBEq π] (p : PolicyOf π) (caller : Option Identity)
    (tool : Text) (names : Option (List Text)) :
    p.Justified caller tool names (p.decide caller tool names) := by
  by_cases known : Known names tool
  · by_cases rule : ∃ permission, p.Requires tool permission
    · obtain ⟨permission, rule⟩ := rule
      by_cases held : p.Holds caller permission
      · rw [decide_of_holds caller known rule held]
        exact ⟨known, permission, rule, held⟩
      · rw [decide_of_not_holds caller known rule held]
        exact ⟨known, permission, rule, held⟩
    · rw [decide_of_not_requires caller rule]
      exact Or.inr rule
  · rw [decide_of_not_known caller known]
    exact Or.inl known

theorem decide_eq_iff [BEq π] [LawfulBEq π] (p : PolicyOf π) (caller : Option Identity)
    (tool : Text) (names : Option (List Text)) (d : Decision) :
    p.decide caller tool names = d ↔ p.Justified caller tool names d := by
  constructor
  · rintro rfl
    exact justified_decide p caller tool names
  · exact (justified_decide p caller tool names).unique

end

/-- **Exact decisions**: each answer is given in exactly one of three cases. -/
theorem decide_exact (p : Policy) (caller : Option Identity) (tool : Text)
    (names : Option (List Text)) :
    (p.decide caller tool names = .allow ↔
      Known names tool ∧ ∃ permission, p.Requires tool permission ∧ p.Holds caller permission) ∧
    (p.decide caller tool names = .deny .noPolicyForTool ↔
      ¬ Known names tool ∨ ¬ ∃ permission, p.Requires tool permission) ∧
    (p.decide caller tool names = .deny .insufficientPermission ↔
      Known names tool ∧ ∃ permission, p.Requires tool permission ∧ ¬ p.Holds caller permission) :=
  ⟨decide_eq_iff p caller tool names .allow,
    decide_eq_iff p caller tool names (.deny .noPolicyForTool),
    decide_eq_iff p caller tool names (.deny .insufficientPermission)⟩

end GuardedTools.PolicyOf
