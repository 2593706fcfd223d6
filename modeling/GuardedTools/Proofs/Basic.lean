import Mathlib.Data.List.Forall2
import Mathlib.Data.List.Nodup

/-!
# Computations that may fail, and lists in step

What it means that a computation in `Except` comes to a value: each of its steps does.  It ends in an error
that one of its steps ends in.

What two lists have in common whose items are related one by one, and what is found in a list by its key.
-/

namespace GuardedTools

section Completes

variable {ε ε' α β : Type}

theorem bind_eq_ok {x : Except ε α} {f : α → Except ε β} {b : β} :
    x >>= f = .ok b ↔ ∃ a, x = .ok a ∧ f a = .ok b := by
  cases x with
  | error e => exact ⟨nofun, nofun⟩
  | ok a => exact ⟨fun h => ⟨a, rfl, h⟩, fun ⟨_, same, h⟩ => Except.ok.inj same ▸ h⟩

theorem pure_eq_ok {a b : α} : (pure a : Except ε α) = .ok b ↔ a = b :=
  ⟨Except.ok.inj, congrArg _⟩

theorem map_eq_ok {f : α → β} {x : Except ε α} {b : β} :
    x.map f = .ok b ↔ ∃ a, x = .ok a ∧ f a = b := by
  cases x with
  | error e => exact ⟨nofun, nofun⟩
  | ok a =>
    exact ⟨fun h => ⟨a, rfl, Except.ok.inj h⟩,
      fun ⟨_, same, h⟩ => Except.ok.inj same ▸ congrArg Except.ok h⟩

theorem mapError_eq_ok {f : ε → ε'} {x : Except ε α} {a : α} :
    x.mapError f = .ok a ↔ x = .ok a := by
  cases x with
  | error e => exact ⟨nofun, nofun⟩
  | ok b => exact ⟨fun h => congrArg _ (Except.ok.inj h), fun h => congrArg _ (Except.ok.inj h)⟩

theorem bind_eq_error {x : Except ε α} {f : α → Except ε β} {e : ε} :
    x >>= f = .error e ↔ x = .error e ∨ ∃ a, x = .ok a ∧ f a = .error e := by
  cases x with
  | error e' =>
    refine ⟨fun h => Or.inl (congrArg Except.error (Except.error.inj h)), ?_⟩
    rintro (h | ⟨a, h, _⟩)
    · exact congrArg Except.error (Except.error.inj h)
    · cases h
  | ok a =>
    refine ⟨fun h => Or.inr ⟨a, rfl, h⟩, ?_⟩
    rintro (h | ⟨_, same, h⟩)
    · cases h
    · exact Except.ok.inj same ▸ h

/-- A value that is only put into another one is what may fail. -/
theorem error_of_bind_pure {x : Except ε α} {f : α → β} {e : ε}
    (h : (x >>= fun a => pure (f a)) = .error e) : x = .error e := by
  rcases bind_eq_error.mp h with failed | ⟨a, -, made⟩
  · exact failed
  · cases made

/-- Of a list of computations that fails one fails. -/
theorem exists_of_mapM_eq_error {f : α → Except ε β} {as : List α} {e : ε} (h : as.mapM f = .error e) :
    ∃ a ∈ as, f a = .error e := by
  induction as with
  | nil => cases h
  | cons a as ih =>
    rw [List.mapM_cons] at h
    rcases bind_eq_error.mp h with first | ⟨b, -, later⟩
    · exact ⟨a, List.mem_cons_self, first⟩
    · obtain ⟨c, member, failed⟩ := ih (error_of_bind_pure later)
      exact ⟨c, List.mem_cons_of_mem _ member, failed⟩

theorem mapError_eq_error {f : ε → ε'} {x : Except ε α} {e : ε'} :
    x.mapError f = .error e ↔ ∃ e', x = .error e' ∧ f e' = e := by
  cases x with
  | error e' =>
    refine ⟨fun h => ⟨e', rfl, Except.error.inj h⟩, ?_⟩
    rintro ⟨_, same, h⟩
    exact congrArg Except.error (Except.error.inj same ▸ h)
  | ok a =>
    refine ⟨fun h => ?_, ?_⟩
    · cases h
    · rintro ⟨_, same, _⟩
      cases same

/-- What is seen of the value of a computation that comes to one. -/
theorem ok_of_any {x : Except ε α} {p : α → Bool} (h : x.toOption.any p = true) :
    ∃ a, x = .ok a ∧ p a = true := by
  cases x with
  | error e => cases h
  | ok a => exact ⟨a, rfl, h⟩

end Completes

section InStep

variable {α β γ : Type} {R : α → β → Prop} {S : β → γ → Prop} {T : α → γ → Prop}

theorem exists_left_of_mem {as : List α} {bs : List β} (h : List.Forall₂ R as bs) {b : β}
    (member : b ∈ bs) : ∃ a ∈ as, R a b := by
  induction h with
  | nil => cases member
  | cons first _ ih =>
    rcases List.mem_cons.mp member with rfl | member
    · exact ⟨_, List.mem_cons_self, first⟩
    · obtain ⟨a, before, related⟩ := ih member
      exact ⟨a, List.mem_cons_of_mem _ before, related⟩

theorem exists_right_of_mem {as : List α} {bs : List β} (h : List.Forall₂ R as bs) {a : α}
    (member : a ∈ as) : ∃ b ∈ bs, R a b := by
  induction h with
  | nil => cases member
  | cons first _ ih =>
    rcases List.mem_cons.mp member with rfl | member
    · exact ⟨_, List.mem_cons_self, first⟩
    · obtain ⟨b, after, related⟩ := ih member
      exact ⟨b, List.mem_cons_of_mem _ after, related⟩

/-- Two relations in step joined to one. -/
theorem forall₂_trans (join : ∀ {a b c}, R a b → S b c → T a c) {as : List α} {bs : List β}
    {cs : List γ} (h : List.Forall₂ R as bs) (h' : List.Forall₂ S bs cs) : List.Forall₂ T as cs := by
  induction h generalizing cs with
  | nil =>
    cases h'
    exact .nil
  | cons first _ ih =>
    cases h' with
    | cons first' rest' => exact .cons (join first first') (ih rest')

/-- What is true of all items on the right is true of the items of each pair. -/
theorem forall₂_and_right {p : β → Prop} {as : List α} {bs : List β} (h : List.Forall₂ R as bs)
    (holds : ∀ b ∈ bs, p b) : List.Forall₂ (fun a b => R a b ∧ p b) as bs := by
  have turned : List.Forall₂ (fun b a => p b ∧ R a b) bs as :=
    (List.forall₂_and_left _ _).mpr ⟨holds, List.Forall₂.flip (R := fun b a => R a b) h⟩
  exact (List.Forall₂.flip turned).imp fun _ _ pair => And.symm pair

/-- What is made of the items of one list in two ways is in step. -/
theorem forall₂_map_map {f : α → β} {g : α → γ} {as : List α} (h : ∀ a ∈ as, S (f a) (g a)) :
    List.Forall₂ S (as.map f) (as.map g) := by
  rw [List.forall₂_map_left_iff, List.forall₂_map_right_iff, List.forall₂_same]
  exact h

theorem map_eq_of_forall₂ {δ : Type} {f : α → δ} {g : β → δ}
    (same : ∀ {a b}, R a b → g b = f a) {as : List α} {bs : List β} (h : List.Forall₂ R as bs) :
    bs.map g = as.map f := by
  induction h with
  | nil => rfl
  | cons first _ ih => rw [List.map_cons, List.map_cons, same first, ih]

/-- What is found first in two lists in step. -/
theorem rel_find? {p : α → Bool} {q : β → Bool} (same : ∀ {a b}, R a b → q b = p a) {as : List α}
    {bs : List β} (h : List.Forall₂ R as bs) : Option.Rel R (as.find? p) (bs.find? q) := by
  induction h with
  | nil => exact .none
  | @cons a b as bs first _ ih =>
    rw [List.find?_cons, List.find?_cons, same first]
    cases p a with
    | true => exact .some first
    | false => exact ih

/-- Where keys are distinct, what has a key is found under it. -/
theorem find?_of_nodup {κ : Type} [BEq κ] [LawfulBEq κ] {key : α → κ} {as : List α} {a : α}
    (nodup : (as.map key).Nodup) (member : a ∈ as) : as.find? (fun b => key b == key a) = some a := by
  have isSome : (as.find? fun b => key b == key a).isSome = true :=
    List.find?_isSome.mpr ⟨a, member, BEq.rfl⟩
  obtain ⟨b, found⟩ := Option.isSome_iff_exists.mp isSome
  have same : (key b == key a) = true := by simpa using List.find?_some found
  rw [found, List.inj_on_of_nodup_map nodup (List.mem_of_find?_eq_some found) member
    (eq_of_beq same)]

end InStep

end GuardedTools
