import GuardedTools.Proofs.Access.Written
import Mathlib.Order.Bounds.Basic

/-!
# The search for inherited roles

The roles that somebody holds with others are found in steps: a role that is pending is taken out, and if
it has not been seen before it is noted, and the roles of its row are pending too.  Which of the pending
roles is taken out, and in which order those of a row are put among them, is left open here
(`Worklist.Step`), so that what is said of `Worklist.Steps` holds of every order.

Every step takes one pending role out, and the row of a role is put in once, when the role is noted.  So the
steps and the roles that are still pending are as many as the roles at the start and in the rows of the
roles seen (`Worklist.Sound.count`), and the search ends, whatever circles the table has
(`Worklist.Sound.steps_le`).  What has been seen and what is pending is reached, and an edge out of what has
been seen leads to what has been seen or is pending, so that in the end the roles seen are the least set with
the given roles that is closed under edges (`Worklist.Sound.isLeast`).  The run of `effectiveRoles`, which
takes out the first role each time, is one of the runs (`Worklist.exists_steps_closure`).
-/

namespace GuardedTools

/-! ### The lengths of rows -/

namespace Table

variable {α : Type}

/-- The length of the rows of some names together. -/
def rowsLength (t : Table α) (names : List Text) : Nat := (names.map fun name => (t.row name).length).sum

/-- The length of all rows together. -/
def totalLength (t : Table α) : Nat := (t.map fun r => r.2.length).sum

theorem rowsLength_cons (t : Table α) (name : Text) (names : List Text) :
    t.rowsLength (name :: names) = (t.row name).length + t.rowsLength names := by
  rw [rowsLength, List.map_cons, List.sum_cons, rowsLength]

theorem rowsLength_nil (names : List Text) : rowsLength ([] : Table α) names = 0 := by
  induction names with
  | nil => rfl
  | cons name names ih =>
    rw [rowsLength_cons, ih]
    rfl

/-- A row in front counts for its name only. -/
theorem rowsLength_of_notMem {n : Text} {items : List α} {t : Table α} {names : List Text}
    (absent : n ∉ names) : rowsLength ((n, items) :: t) names = t.rowsLength names := by
  unfold rowsLength
  congr 1
  refine List.map_congr_left fun name member => ?_
  have other : n ≠ name := by
    rintro rfl
    exact absent member
  rw [row_cons, if_neg other]

theorem rowsLength_le_add {n : Text} {items : List α} {t : Table α} {names : List Text}
    (distinct : names.Nodup) : rowsLength ((n, items) :: t) names ≤ items.length + t.rowsLength names := by
  induction names with
  | nil => exact Nat.zero_le _
  | cons name names ih =>
    obtain ⟨absent, distinct⟩ := List.nodup_cons.mp distinct
    rw [rowsLength_cons, rowsLength_cons, row_cons]
    by_cases here : n = name
    · subst here
      rw [if_pos rfl, rowsLength_of_notMem absent]
      omega
    · have later := ih distinct
      rw [if_neg here]
      omega

/-- Distinct names have rows no longer than all rows of the table. -/
theorem rowsLength_le_totalLength (t : Table α) {names : List Text} (distinct : names.Nodup) :
    t.rowsLength names ≤ t.totalLength := by
  induction t with
  | nil => exact (rowsLength_nil names).le
  | cons r t ih =>
    obtain ⟨n, items⟩ := r
    have first : rowsLength ((n, items) :: t) names ≤ items.length + rowsLength t names :=
      rowsLength_le_add distinct
    show _ ≤ items.length + totalLength t
    omega

theorem rowsLength_perm (t : Table α) {names others : List Text} (h : names.Perm others) :
    t.rowsLength names = t.rowsLength others :=
  (h.map _).sum_nat

end Table

namespace PolicyOf

/-! ### Searches -/

/-- A state of the search: the roles that have been seen, and those that are pending. -/
structure Worklist where
  seen : List Text
  pending : List Text

/-- A set of roles with all roles that the rows of its members list. -/
def IsClosed (inherits : Table Text) (roles : Set Text) : Prop :=
  ∀ role ∈ roles, ∀ other, Inherits inherits role other → other ∈ roles

namespace Worklist

/-- The state in which the search for some roles begins. -/
def start (roles : List Text) : Worklist := { seen := [], pending := roles }

/-- A step of the search, which takes out a pending role, wherever it stands. -/
inductive Step (inherits : Table Text) (role : Text) : Worklist → Worklist → Prop where
  /-- The role has been seen before. -/
  | known {seen pending rest : List Text} (taken : pending.Perm (role :: rest)) (known : role ∈ seen) :
    Step inherits role ⟨seen, pending⟩ ⟨seen, rest⟩
  /-- The role is noted, and the roles of its row are put among the pending ones in any order. -/
  | new {seen pending rest next : List Text} (taken : pending.Perm (role :: rest)) (new : role ∉ seen)
    (extended : next.Perm (inherits.row role ++ rest)) :
    Step inherits role ⟨seen, pending⟩ ⟨role :: seen, next⟩

/-- The states that a number of steps leads to. -/
inductive Steps (inherits : Table Text) (first : Worklist) : Nat → Worklist → Prop where
  | none : Steps inherits first 0 first
  | step {n : Nat} {w next : Worklist} {role : Text} (before : Steps inherits first n w)
    (last : Step inherits role w next) : Steps inherits first (n + 1) next

variable {inherits : Table Text} {roles : List Text} {role : Text} {n : Nat} {w next : Worklist}

/-- The roles that can be taken out are those that are pending. -/
theorem exists_step_iff : (∃ next, Step inherits role w next) ↔ role ∈ w.pending := by
  constructor
  · rintro ⟨next, step⟩
    cases step with
    | known taken _ => exact taken.mem_iff.mpr List.mem_cons_self
    | new taken _ _ => exact taken.mem_iff.mpr List.mem_cons_self
  · intro pending
    obtain ⟨seen, waiting⟩ := w
    have taken : waiting.Perm (role :: waiting.erase role) := List.perm_cons_erase pending
    by_cases known : role ∈ seen
    · exact ⟨_, .known taken known⟩
    · exact ⟨_, .new taken known (List.Perm.refl _)⟩

/-- What is known of a state that the search for some roles is in after a number of steps. -/
structure Sound (inherits : Table Text) (roles : List Text) (n : Nat) (w : Worklist) : Prop where
  /-- Every role is noted once. -/
  distinct : w.seen.Nodup
  /-- No role of those at the start is lost. -/
  covered : ∀ role ∈ roles, role ∈ w.seen ∨ role ∈ w.pending
  /-- Only roles that are reached from those at the start are looked at. -/
  reached : ∀ role, role ∈ w.seen ∨ role ∈ w.pending → ∃ first ∈ roles, Reaches inherits first role
  /-- The edges out of what has been seen end in what has been seen or is pending. -/
  frontier : Frontier inherits w.seen w.pending
  /-- Every role that was pending once is taken out in a step or is pending still. -/
  count : n + w.pending.length = roles.length + inherits.rowsLength w.seen

theorem sound_start (inherits : Table Text) (roles : List Text) : Sound inherits roles 0 (start roles) where
  distinct := List.nodup_nil
  covered := fun _ member => Or.inr member
  reached := by
    rintro role (seen | pending)
    · cases seen
    · exact ⟨role, pending, .refl⟩
  frontier := fun _ seen => absurd seen List.not_mem_nil
  count := Nat.add_comm _ _

/-- The frontier does not depend on the order of the pending roles. -/
theorem frontier_perm {seen pending others : List Text} (same : pending.Perm others)
    (h : Frontier inherits seen pending) : Frontier inherits seen others := by
  intro role known other edge
  exact (h role known other edge).imp_right same.mem_iff.mp

/-- One step keeps what is known of the states of a search. -/
theorem Sound.step (sound : Sound inherits roles n w) (h : Step inherits role w next) :
    Sound inherits roles (n + 1) next := by
  obtain ⟨distinct, covered, reached, frontier, count⟩ := sound
  cases h with
  | @known seen pending rest taken known =>
    have length : pending.length = rest.length + 1 := taken.length_eq
    refine ⟨distinct, ?_, ?_, (frontier_perm taken frontier).of_mem known, ?_⟩
    · intro r member
      rcases covered r member with seen | waiting
      · exact Or.inl seen
      · rcases List.mem_cons.mp (taken.mem_iff.mp waiting) with rfl | waiting
        · exact Or.inl known
        · exact Or.inr waiting
    · rintro r (seen | waiting)
      · exact reached r (Or.inl seen)
      · exact reached r (Or.inr (taken.mem_iff.mpr (List.mem_cons_of_mem _ waiting)))
    · dsimp only at count ⊢
      omega
  | @new seen pending rest next taken new extended =>
    have length : pending.length = rest.length + 1 := taken.length_eq
    have longer : next.length = (inherits.row role).length + rest.length := by
      rw [extended.length_eq, List.length_append]
    obtain ⟨first, among, path⟩ := reached role (Or.inr (taken.mem_iff.mpr List.mem_cons_self))
    refine ⟨List.nodup_cons.mpr ⟨new, distinct⟩, ?_, ?_,
      frontier_perm extended.symm (frontier_perm taken frontier).step, ?_⟩
    · intro r member
      rcases covered r member with seen | waiting
      · exact Or.inl (List.mem_cons_of_mem _ seen)
      · rcases List.mem_cons.mp (taken.mem_iff.mp waiting) with rfl | waiting
        · exact Or.inl List.mem_cons_self
        · exact Or.inr (extended.mem_iff.mpr (List.mem_append_right _ waiting))
    · rintro r (seen | waiting)
      · rcases List.mem_cons.mp seen with rfl | seen
        · exact ⟨first, among, path⟩
        · exact reached r (Or.inl seen)
      · rcases List.mem_append.mp (extended.mem_iff.mp waiting) with edge | waiting
        · exact ⟨first, among, path.tail edge⟩
        · exact reached r (Or.inr (taken.mem_iff.mpr (List.mem_cons_of_mem _ waiting)))
    · rw [Table.rowsLength_cons]
      dsimp only at count ⊢
      omega

/-- What is known of the states of every search. -/
theorem Steps.sound (h : Steps inherits (start roles) n w) : Sound inherits roles n w := by
  induction h with
  | none => exact sound_start inherits roles
  | step _ last ih => exact ih.step last

/-- No search takes more steps than there are roles at the start and in the rows of the table. -/
theorem Sound.steps_le (sound : Sound inherits roles n w) : n ≤ roles.length + inherits.totalLength := by
  have rows := inherits.rowsLength_le_totalLength sound.distinct
  have count := sound.count
  omega

/-- A closed set with some roles has all roles that are reached from them. -/
theorem mem_of_reaches {S : Set Text} (closed : IsClosed inherits S) {first : Text} (member : first ∈ S)
    (path : Reaches inherits first role) : role ∈ S := by
  induction path with
  | refl => exact member
  | tail _ edge ih => exact closed _ ih _ edge

/-- When nothing is pending any more, the roles seen are the least closed set with the roles at the
start. -/
theorem Sound.isLeast (sound : Sound inherits roles n w) (finished : w.pending = []) :
    IsLeast {S : Set Text | (∀ role ∈ roles, role ∈ S) ∧ IsClosed inherits S} {role | role ∈ w.seen} := by
  have nothing {r : Text} : r ∉ w.pending := by
    rw [finished]
    exact List.not_mem_nil
  refine ⟨⟨?_, ?_⟩, ?_⟩
  · intro r member
    exact (sound.covered r member).resolve_right nothing
  · intro r seen other edge
    exact (sound.frontier r seen other edge).resolve_right nothing
  · rintro S ⟨holds, closed⟩ r seen
    obtain ⟨first, among, path⟩ := sound.reached r (Or.inl seen)
    exact mem_of_reaches closed (holds first among) path

/-- The search that takes out the first pending role each time ends in the closure. -/
theorem exists_steps_closure {first : Worklist} (inherits : Table Text) (seen pending : List Text) :
    ∀ n, Steps inherits first n ⟨seen, pending⟩ →
      ∃ m, Steps inherits first m ⟨closure inherits seen pending, []⟩ := by
  induction seen, pending using closure_induction inherits with
  | done seen =>
    intro n steps
    rw [closure_nil]
    exact ⟨n, steps⟩
  | known seen role pending known ih =>
    intro n steps
    rw [closure_cons_of_mem known]
    exact ih _ (steps.step (.known (List.Perm.refl _) known))
  | new seen role pending new ih =>
    intro n steps
    rw [closure_cons_of_not_mem new]
    exact ih _ (steps.step (.new (List.Perm.refl _) new (List.Perm.refl _)))

end Worklist

variable {π : Type}

open Worklist in
/-- **The search for inherited roles** ends in whatever order the pending roles are taken out: no search
has more steps than there are roles at the start and in the rows of the table, and as long as roles are pending
any of them can be taken out.  When none is, each role that was found was noted once, and they are those of
`effectiveRoles`, found in as many steps in every order; the search of `effectiveRoles` is one of these.  They
are the least set with the given roles that has with a role all that it inherits. -/
theorem effectiveRoles_exact (p : PolicyOf π) (roles : List Text) :
    (∀ n w, Steps p.roleInherits (start roles) n w →
      n ≤ roles.length + p.roleInherits.totalLength ∧
      (∀ role, (∃ next, Step p.roleInherits role w next) ↔ role ∈ w.pending) ∧
      (w.pending = [] → w.seen.Perm (p.effectiveRoles roles) ∧
        n = roles.length + p.roleInherits.rowsLength (p.effectiveRoles roles))) ∧
    (∃ n, Steps p.roleInherits (start roles) n ⟨p.effectiveRoles roles, []⟩) ∧
    (p.effectiveRoles roles).Nodup ∧
    IsLeast {S : Set Text | (∀ role ∈ roles, role ∈ S) ∧ IsClosed p.roleInherits S}
      {role | role ∈ p.effectiveRoles roles} := by
  have begun : Steps p.roleInherits (start roles) 0 (start roles) := .none
  obtain ⟨m, own⟩ := exists_steps_closure p.roleInherits [] roles 0 begun
  have least := own.sound.isLeast rfl
  refine ⟨?_, ⟨m, own⟩, own.sound.distinct, least⟩
  intro n w steps
  have sound := steps.sound
  refine ⟨sound.steps_le, fun _ => exists_step_iff, fun finished => ?_⟩
  -- the least set is one, so that another search has found the same roles
  have same : {role | role ∈ w.seen} = {role | role ∈ p.effectiveRoles roles} :=
    (sound.isLeast finished).unique least
  have found : w.seen.Perm (p.effectiveRoles roles) :=
    (List.perm_ext_iff_of_nodup sound.distinct own.sound.distinct).mpr fun role => Set.ext_iff.mp same role
  have count := sound.count
  rw [finished, Table.rowsLength_perm _ found] at count
  exact ⟨found, count⟩

end PolicyOf

end GuardedTools
