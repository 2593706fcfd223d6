import GuardedTools.Json
import Mathlib.Init

/-!
# Members of objects

What stands under the keys of an object whose members are written out (`Json.get?_record_cons`), and what an
object holds after members were put into it (`Json.put`): under a new key the new member, and every other
one that was there before.
-/

namespace GuardedTools

@[simp] theorem Text.ofString_inj {s t : String} : Text.ofString s = Text.ofString t ↔ s = t := by
  constructor
  · intro h
    have points : s.toList.map CodePoint.scalar = t.toList.map CodePoint.scalar :=
      congrArg Text.points h
    rw [List.map_inj_right fun _ _ => CodePoint.scalar.inj] at points
    exact String.toList_inj.mp points
  · rintro rfl
    rfl

namespace Json

/-! ### Members that are written out -/

@[simp] theorem get?_record_nil (key : Text) : (record []).get? key = none := rfl

@[simp] theorem get?_record_cons (k key : String) (x : Json) (ms : List (String × Json)) :
    (record ((k, x) :: ms)).get? (Text.ofString key)
      = if k = key then some x else (record ms).get? (Text.ofString key) := by
  show (if Text.ofString k = Text.ofString key then _ else _) = _
  simp only [Text.ofString_inj]
  rfl

variable {key k : Text} {j : Json} {ms ns : List (Text × Json)} {m n : Text × Json}

/-! ### One member -/

theorem mem_put (h : m ∈ put key j ms) : m = (key, j) ∨ m ∈ ms := by
  fun_induction put key j ms with
  | case1 => exact Or.inl (List.mem_singleton.mp h)
  | case2 x ms =>
    rcases List.mem_cons.mp h with same | h
    · exact Or.inl same
    · exact Or.inr (List.mem_cons_of_mem _ h)
  | case3 k x ms other ih =>
    rcases List.mem_cons.mp h with rfl | h
    · exact Or.inr List.mem_cons_self
    · exact (ih h).imp_right (List.mem_cons_of_mem _)

theorem mem_put_self : (key, j) ∈ put key j ms := by
  fun_induction put key j ms with
  | case1 => exact List.mem_cons_self
  | case2 => exact List.mem_cons_self
  | case3 k x ms other ih => exact List.mem_cons_of_mem _ ih

theorem mem_put_of_ne (member : m ∈ ms) (other : m.1 ≠ key) : m ∈ put key j ms := by
  fun_induction put key j ms with
  | case1 => cases member
  | case2 x ms =>
    rcases List.mem_cons.mp member with rfl | member
    · exact absurd rfl other
    · exact List.mem_cons_of_mem _ member
  | case3 k x ms _ ih =>
    rcases List.mem_cons.mp member with rfl | member
    · exact List.mem_cons_self
    · exact List.mem_cons_of_mem _ (ih member)

theorem lookup_put_self (key : Text) (j : Json) (ms : List (Text × Json)) :
    lookup key (put key j ms) = some j := by
  fun_induction put key j ms with
  | case1 => rw [lookup, if_pos rfl]
  | case2 x ms => rw [lookup, if_pos rfl]
  | case3 k x ms other ih => rw [lookup, if_neg other, ih]

theorem lookup_put_ne (other : k ≠ key) : lookup key (put k j ms) = lookup key ms := by
  fun_induction put k j ms with
  | case1 => simp only [lookup, if_neg other]
  | case2 x ms => rw [lookup, lookup, if_neg other, if_neg other]
  | case3 l x ms _ ih => rw [lookup, lookup, ih]

/-! ### One after another -/

theorem mem_of_mem_foldl_put (member : m ∈ ns.foldl (fun ms n => put n.1 n.2 ms) ms) : m ∈ ns ∨ m ∈ ms := by
  induction ns generalizing ms with
  | nil => exact Or.inr member
  | cons n ns ih =>
    rcases ih member with new | before
    · exact Or.inl (List.mem_cons_of_mem _ new)
    · rcases mem_put before with rfl | before
      · exact Or.inl List.mem_cons_self
      · exact Or.inr before

theorem mem_foldl_put (member : m ∈ ms) (others : ∀ n ∈ ns, n.1 ≠ m.1) :
    m ∈ ns.foldl (fun ms n => put n.1 n.2 ms) ms := by
  induction ns generalizing ms with
  | nil => exact member
  | cons n ns ih =>
    rw [List.forall_mem_cons] at others
    exact ih (mem_put_of_ne member others.1.symm) others.2

/-- What was put in stays, perhaps with another value. -/
theorem exists_mem_foldl_put (member : n ∈ ns) :
    ∃ m ∈ ns.foldl (fun ms n => put n.1 n.2 ms) ms, m.1 = n.1 := by
  have each : ∀ (ns ms : List (Text × Json)), ((∃ m ∈ ms, m.1 = n.1) ∨ n ∈ ns) →
      ∃ m ∈ ns.foldl (fun ms n => put n.1 n.2 ms) ms, m.1 = n.1 := by
    intro ns
    induction ns with
    | nil =>
      intro ms h
      exact h.resolve_right List.not_mem_nil
    | cons l ns ih =>
      intro ms h
      apply ih
      by_cases same : l.1 = n.1
      · exact Or.inl ⟨_, mem_put_self, same⟩
      · rcases h with ⟨m, before, named⟩ | among
        · exact Or.inl ⟨m, mem_put_of_ne before (named ▸ Ne.symm same), named⟩
        · rcases List.mem_cons.mp among with rfl | among
          · exact absurd rfl same
          · exact Or.inr among
  exact each ns ms (Or.inr member)

theorem lookup_foldl_put (others : ∀ n ∈ ns, n.1 ≠ key) :
    lookup key (ns.foldl (fun ms n => put n.1 n.2 ms) ms) = lookup key ms := by
  induction ns generalizing ms with
  | nil => rfl
  | cons n ns ih =>
    rw [List.forall_mem_cons] at others
    rw [List.foldl_cons, ih others.2, lookup_put_ne others.1]

/-! ### New keys -/

/-- What stands under a key that is not there yet comes to the end. -/
theorem put_of_absent (absent : ∀ m ∈ ms, m.1 ≠ key) : put key j ms = ms ++ [(key, j)] := by
  fun_induction put key j ms with
  | case1 => rfl
  | case2 x ms => exact absurd rfl (absent _ List.mem_cons_self)
  | case3 k x ms other ih =>
    rw [List.forall_mem_cons] at absent
    rw [ih absent.2]
    rfl

/-- Members under different keys are put in as they are. -/
theorem foldl_put_of_nodup (nodup : ((ms ++ ns).map (·.1)).Nodup) :
    ns.foldl (fun kept n => put n.1 n.2 kept) ms = ms ++ ns := by
  induction ns generalizing ms with
  | nil => exact (List.append_nil ms).symm
  | cons n ns ih =>
    have absent : ∀ m ∈ ms, m.1 ≠ n.1 := by
      intro m member same
      rw [List.map_append, List.nodup_append] at nodup
      exact nodup.2.2 _ (List.mem_map_of_mem member) _ (List.mem_map_of_mem List.mem_cons_self) same
    rw [List.foldl_cons, put_of_absent absent, ih (by rwa [List.append_assoc]), List.append_assoc]
    rfl

/-- Where keys are distinct all members stay. -/
theorem ofMembers_of_nodup (nodup : (ms.map (·.1)).Nodup) : ofMembers ms = .object ms := by
  have kept : ms.foldl (fun kept m => put m.1 m.2 kept) [] = [] ++ ms := foldl_put_of_nodup nodup
  exact congrArg object kept

end Json

end GuardedTools
