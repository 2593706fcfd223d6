import GuardedTools.Proofs.Basic
import GuardedTools.Proofs.Check.Records

/-!
# What a check that accepted went through

A shape made of parts accepts a value when its parts accept the parts of the value, and what it makes is
made of what they make (`Check.Makes`).  One lemma for each way of being made of parts says so: for lists
(`sequence_eq_ok`), tuples, sets, maps, unions and classes.

The other direction holds of a shape without limits: it accepts what its parts accept, and what it makes is
made of what they make.  Of several entries with one key, and of several fields with one name, only one would
stay, so that keys and names are distinct there.
-/

namespace GuardedTools.Check

open Shape

/-- A verdict accepts, and a value is what it makes. -/
def Gives (verdict : Verdict) (y : Value) : Prop := ∃ a, verdict = .ok a ∧ a.value = y

/-- A check accepts a value, and another one is what it makes of it. -/
abbrev Makes (check : Value → Verdict) (x y : Value) : Prop := Gives (check x) y

variable {check checkKey checkValue : Value → Verdict} {a : Accepted} {v : Value} {fit : Fit}
  {length : LengthLimits}

theorem gives_value {verdict : Verdict} (h : verdict = .ok a) : Gives verdict a.value := ⟨a, h, rfl⟩

theorem gives_within {step : LocationStep} {verdict : Verdict} {y : Value} :
    Gives (verdict.within step) y ↔ Gives verdict y :=
  exists_congr fun _ => and_congr_left' within_eq_ok

/-! ### Lists and tuples -/

/-- What verdicts that all accept come to. -/
theorem all_eq_ok {vs : List Verdict} {ys : List Value} (h : Verdict.all vs = .ok (ys, fit)) :
    List.Forall₂ Gives vs ys := by
  induction vs generalizing ys fit with
  | nil =>
    cases h
    exact .nil
  | cons v vs ih =>
    unfold Verdict.all at h
    split at h
    next a values fits others =>
      cases h
      exact .cons (gives_value rfl) (ih others)
    all_goals cases h

theorem atIndices_gives {start : Nat} {xs ys : List Value}
    (h : List.Forall₂ Gives (atIndices check start xs) ys) : List.Forall₂ (Makes check) xs ys := by
  induction xs generalizing start ys with
  | nil =>
    cases h
    exact .nil
  | cons x xs ih =>
    rw [atIndices] at h
    cases h with
    | cons first others => exact .cons (gives_within.mp first) (ih others)

/-- A list is made item by item. -/
theorem sequence_eq_ok (h : sequence length check v = .ok a) :
    ∃ xs right ys, itemsOf? .list v = some (xs, right) ∧ List.Forall₂ (Makes check) xs ys ∧
      a.value = .list ys := by
  unfold sequence at h
  split at h
  · cases h
  next xs right items =>
    split at h
    · cases h
    split at h
    · cases h
    next ys fit made =>
      split at h
      · cases h
      · exact ⟨xs, right, ys, items, atIndices_gives (all_eq_ok made),
          congrArg Accepted.value (Except.ok.inj h).symm⟩

/-- A tuple is what the verdicts on its items come to. -/
theorem tupleOf_eq_ok {right : Bool} {given : Nat} {verdicts : List Verdict}
    (h : Check.tupleOf length right given verdicts = .ok a) :
    ∃ ys, List.Forall₂ Gives verdicts ys ∧ a.value = .tuple ys := by
  unfold Check.tupleOf at h
  dsimp only at h
  split at h
  · split at h <;> cases h
  split at h
  · cases h
  next ys fit made =>
    split at h
    · cases h
    · exact ⟨ys, all_eq_ok made, congrArg Accepted.value (Except.ok.inj h).symm⟩

/-- The items of a tuple are made each by its own shape, and none is missing. -/
theorem checkItems_gives {self : Value → Verdict} {ss : List Shape} {start : Nat} {xs ys : List Value}
    (h : List.Forall₂ Gives (checkItems self start ss xs) ys) :
    ss.length ≤ xs.length ∧
      List.Forall₂ (fun (m : Shape × Value) y => Makes (m.1.checkWithin self) m.2 y) (ss.zip xs) ys := by
  induction ss generalizing start xs ys with
  | nil =>
    cases h
    exact ⟨Nat.zero_le _, .nil⟩
  | cons s ss ih =>
    cases xs with
    | nil =>
      rw [checkItems] at h
      cases h with
      | cons first others =>
        obtain ⟨_, missing, -⟩ := gives_within.mp first
        cases missing
    | cons x xs =>
      rw [checkItems] at h
      cases h with
      | cons first others =>
        obtain ⟨enough, rest⟩ := ih others
        exact ⟨Nat.succ_le_succ enough, .cons (gives_within.mp first) rest⟩

/-! ### Sets -/

theorem settable_gives {x y : Value} (h : Makes (settable check) x y) :
    Makes check x y ∧ y.isHashable = true := by
  obtain ⟨a, accepted, rfl⟩ := h
  unfold settable Verdict.require at accepted
  split at accepted
  · cases accepted
  next b accepts =>
    split at accepted
    next hashable =>
      obtain rfl := Except.ok.inj accepted
      exact ⟨gives_value accepts, hashable⟩
    · cases accepted

/-- A set has items that are made of given ones, each once and in an order of its own. -/
theorem setOf_eq_ok {frozen : Bool} (h : setOf frozen length check v = .ok a) :
    ∃ xs right ys, itemsOf? (if frozen then .frozenSet else .set) v = some (xs, right) ∧
      List.Forall₂ (Makes check) xs ys ∧ (∀ y ∈ ys, y.isHashable = true) ∧
      a.value = .set frozen (Value.inSetOrder (distinct ys)) := by
  unfold setOf at h
  dsimp only at h
  split at h
  · cases h
  next xs right items =>
    split at h
    · cases h
    next ys fit made =>
      split at h
      · cases h
      · have each := (atIndices_gives (all_eq_ok made)).imp fun _ _ => settable_gives
        refine ⟨xs, right, ys, items, each.imp fun _ _ h => h.1, fun y member => ?_,
          congrArg Accepted.value (Except.ok.inj h).symm⟩
        obtain ⟨x, -, -, hashable⟩ := exists_left_of_mem each member
        exact hashable

theorem mem_of_mem_distinct {xs : List Value} {x : Value} (h : x ∈ distinct xs) : x ∈ xs := by
  have kept : ∀ (ys kept : List Value),
      x ∈ ys.foldl (fun xs x => if xs.any (Value.same x) then xs else xs ++ [x]) kept →
        x ∈ kept ∨ x ∈ ys := by
    intro ys
    induction ys with
    | nil => exact fun kept member => Or.inl member
    | cons y ys ih =>
      intro kept member
      rcases ih _ member with before | after
      · dsimp only at before
        split at before
        · exact Or.inl before
        · rcases List.mem_append.mp before with before | new
          · exact Or.inl before
          · exact Or.inr (List.mem_cons.mpr (Or.inl (List.mem_singleton.mp new)))
      · exact Or.inr (List.mem_cons_of_mem _ after)
  exact (kept xs [] h).resolve_left List.not_mem_nil

end GuardedTools.Check

namespace GuardedTools.Value

namespace PlaceTable

variable {α : Type}

/-- What stands in a table. -/
def items (t : PlaceTable α) : List α := t.entries.map (·.2.2)

theorem mem_items_foldl_put (es : List (Nat × Nat × α)) {t : PlaceTable α} {a : α}
    (h : a ∈ (es.foldl (fun t e => t.put e.2.1 e.2.2) t).items) :
    a ∈ t.items ∨ a ∈ es.map (·.2.2) := by
  induction es generalizing t with
  | nil => exact Or.inl h
  | cons e es ih =>
    rcases ih h with before | after
    · simp only [items, PlaceTable.put, List.map_append, List.mem_append] at before
      refine before.imp_right fun new => ?_
      exact List.mem_cons.mpr (Or.inl (by simpa using new))
    · exact Or.inr (List.mem_cons_of_mem _ after)

theorem mem_items_grown {t : PlaceTable α} {a : α} (h : a ∈ t.grown.items) : a ∈ t.items := by
  unfold grown at h
  dsimp only at h
  split at h
  · exact h
  · rcases mem_items_foldl_put _ h with none | some
    · cases none
    · exact ((List.mergeSort_perm t.entries _).map _).mem_iff.mp some

/-- A table with one more item holds what it held, and the item. -/
theorem mem_items_insert {t : PlaceTable α} {word : Nat} {a b : α} (h : a ∈ (t.insert word b).items) :
    a ∈ t.items ∨ a = b := by
  have put := mem_items_grown h
  rw [items, PlaceTable.put, List.map_append, List.mem_append] at put
  exact put.imp_right fun new => by simpa using new

end PlaceTable

/-- Bringing items into the order of a set adds none. -/
theorem mem_of_mem_inSetOrder {xs : List Value} {x : Value} (h : x ∈ inSetOrder xs) : x ∈ xs := by
  unfold inSetOrder at h
  split at h
  next rs residues =>
    dsimp only at h
    have inserted : ∀ (es : List (Int × Value)) (t : PlaceTable Value),
        x ∈ (es.foldl (fun t e => t.insert (residueWord e.1) e.2) t).items →
          x ∈ t.items ∨ x ∈ es.map (·.2) := by
      intro es
      induction es with
      | nil => exact fun t member => Or.inl member
      | cons e es ih =>
        intro t member
        rcases ih _ member with before | after
        · exact (PlaceTable.mem_items_insert before).imp_right fun same =>
            List.mem_cons.mpr (Or.inl same)
        · exact Or.inr (List.mem_cons_of_mem _ after)
    have member := ((List.mergeSort_perm _ _).map _).mem_iff.mp h
    rcases inserted _ _ member with none | some
    · cases none
    · obtain ⟨e, zipped, rfl⟩ := List.mem_map.mp some
      exact (List.of_mem_zip zipped).2
  · exact h

end GuardedTools.Value

namespace GuardedTools.Check

open Shape

variable {check checkKey checkValue : Value → Verdict} {a : Accepted} {v : Value} {fit : Fit}
  {length : LengthLimits}

/-! ### Maps -/

theorem findable_eq_ok {key : Verdict} (h : findable key = .ok a) : key = .ok a := by
  unfold findable at h
  split at h
  · cases h
  · split at h
    · cases h
    · exact h

/-- The entries of a map are made one by one. -/
theorem entries_eq_ok {es made : List (Value × Value)}
    (h : entries checkKey checkValue es = .ok (made, fit)) :
    List.Forall₂ (fun e m => Makes checkKey e.1 m.1 ∧ Makes checkValue e.2 m.2) es made := by
  induction es generalizing made fit with
  | nil =>
    cases h
    exact .nil
  | cons e es ih =>
    obtain ⟨k, x⟩ := e
    unfold entries at h
    dsimp only at h
    split at h
    next ky xy fits rest others both otherEntries =>
      cases h
      obtain ⟨first, others⟩ := List.forall₂_cons.mp (all_eq_ok both)
      obtain ⟨second, -⟩ := List.forall₂_cons.mp others
      refine .cons ⟨?_, gives_within.mp second⟩ (ih otherEntries)
      obtain ⟨b, accepted, made⟩ := gives_within.mp (gives_within.mp first)
      split at accepted
      · exact ⟨b, findable_eq_ok accepted, made⟩
      · exact ⟨b, accepted, made⟩
    next others rest strange both otherEntries =>
      -- two verdicts come to two values
      obtain ⟨ys, fits⟩ := others
      obtain ⟨ky, _, -, two, rfl⟩ := List.forall₂_cons_left_iff.mp (all_eq_ok both)
      obtain ⟨xy, _, -, none, rfl⟩ := List.forall₂_cons_left_iff.mp two
      obtain rfl := List.forall₂_nil_left_iff.mp none
      exact absurd rfl (strange ky xy fits rest.1 rest.2 rfl)
    all_goals cases h

theorem mem_put {key value : Value} {es : List (Value × Value)} {e : Value × Value}
    (h : e ∈ Value.put key value es) :
    (e.1 = key ∨ ∃ e' ∈ es, e.1 = e'.1) ∧ (e.2 = value ∨ ∃ e' ∈ es, e.2 = e'.2) := by
  induction es with
  | nil =>
    rw [Value.put, List.mem_singleton] at h
    subst h
    exact ⟨Or.inl rfl, Or.inl rfl⟩
  | cons f es ih =>
    obtain ⟨k, x⟩ := f
    rw [Value.put] at h
    split at h
    · rcases List.mem_cons.mp h with rfl | h
      · exact ⟨Or.inr ⟨_, List.mem_cons_self, rfl⟩, Or.inl rfl⟩
      · have member := List.mem_cons_of_mem (k, x) h
        exact ⟨Or.inr ⟨e, member, rfl⟩, Or.inr ⟨e, member, rfl⟩⟩
    · rcases List.mem_cons.mp h with rfl | h
      · exact ⟨Or.inr ⟨_, List.mem_cons_self, rfl⟩, Or.inr ⟨_, List.mem_cons_self, rfl⟩⟩
      · have later {P : Value × Value → Prop} : (∃ e' ∈ es, P e') → ∃ e' ∈ (k, x) :: es, P e' :=
          fun ⟨e', member, h⟩ => ⟨e', List.mem_cons_of_mem _ member, h⟩
        exact (ih h).imp (Or.imp_right later) (Or.imp_right later)

/-- Where later entries replace earlier ones, keys and values are those of some entries. -/
theorem mem_lastEntries {es : List (Value × Value)} {e : Value × Value} (h : e ∈ lastEntries es) :
    (∃ e' ∈ es, e.1 = e'.1) ∧ ∃ e' ∈ es, e.2 = e'.2 := by
  have kept : ∀ (es kept : List (Value × Value)) (e : Value × Value),
      e ∈ es.foldl (fun es e => Value.put e.1 e.2 es) kept →
        (∃ e' ∈ kept ++ es, e.1 = e'.1) ∧ ∃ e' ∈ kept ++ es, e.2 = e'.2 := by
    intro es
    induction es with
    | nil =>
      intro kept e member
      rw [List.append_nil]
      exact ⟨⟨e, member, rfl⟩, e, member, rfl⟩
    | cons f es ih =>
      intro kept e member
      have found {P : Value × Value → Prop} (new : ∀ g, g ∈ Value.put f.1 f.2 kept → P g →
          ∃ g' ∈ kept ++ f :: es, P g') (h : ∃ g ∈ Value.put f.1 f.2 kept ++ es, P g) :
          ∃ g' ∈ kept ++ f :: es, P g' := by
        obtain ⟨g, member, holds⟩ := h
        rcases List.mem_append.mp member with before | after
        · exact new g before holds
        · exact ⟨g, List.mem_append_right _ (List.mem_cons_of_mem _ after), holds⟩
      have here : f ∈ kept ++ f :: es := List.mem_append_right _ List.mem_cons_self
      have before {g : Value × Value} (member : g ∈ kept) : g ∈ kept ++ f :: es :=
        List.mem_append_left _ member
      obtain ⟨key, value⟩ := ih _ e member
      refine ⟨found (fun g member same => ?_) key, found (fun g member same => ?_) value⟩
      · rcases (mem_put member).1 with eq | ⟨g', member, eq⟩
        · exact ⟨f, here, same.trans eq⟩
        · exact ⟨g', before member, same.trans eq⟩
      · rcases (mem_put member).2 with eq | ⟨g', member, eq⟩
        · exact ⟨f, here, same.trans eq⟩
        · exact ⟨g', before member, same.trans eq⟩
  exact kept es [] e h

/-- A map is made of another one, entry by entry; of those with equal keys the last one stays. -/
theorem dictOf_eq_ok (h : dictOf length checkKey checkValue v = .ok a) :
    ∃ es made, v = .dict es ∧
      List.Forall₂ (fun e m => Makes checkKey e.1 m.1 ∧ Makes checkValue e.2 m.2) es made ∧
      a.value = .dict (lastEntries made) := by
  unfold dictOf at h
  split at h
  next es =>
    split at h
    · cases h
    next made fit entered =>
      dsimp only at h
      split at h
      · cases h
      · exact ⟨es, made, rfl, entries_eq_ok entered, congrArg Accepted.value (Except.ok.inj h).symm⟩
  · cases h

/-! ### Unions -/

theorem mem_of_best {found : Option Accepted} {vs : List Verdict} (h : best found vs = some a) :
    found = some a ∨ Except.ok a ∈ vs := by
  fun_induction best found vs with
  | case1 => exact Or.inl h
  | case2 found issues vs ih => exact (ih h).imp_right (List.mem_cons_of_mem _)
  | case3 found b vs perfect =>
    obtain rfl := Option.some.inj h
    exact Or.inr List.mem_cons_self
  | case4 b vs imperfect ih =>
    rcases ih h with same | later
    · obtain rfl := Option.some.inj same
      exact Or.inr List.mem_cons_self
    · exact Or.inr (List.mem_cons_of_mem _ later)
  | case5 b vs imperfect c ih =>
    rcases ih h with same | later
    · split at same
      · obtain rfl := Option.some.inj same
        exact Or.inr List.mem_cons_self
      · exact Or.inl same
    · exact Or.inr (List.mem_cons_of_mem _ later)

/-- A union accepts what one of its members accepts. -/
theorem unionOf_eq_ok {verdicts : List (Text × Verdict)} (h : unionOf verdicts = .ok a) :
    ∃ m ∈ verdicts, m.2 = .ok a := by
  unfold unionOf at h
  dsimp only at h
  split at h
  next best _ =>
    obtain rfl := Except.ok.inj h
    obtain ⟨m, member, accepts⟩ := List.mem_map.mp ((mem_of_best best).resolve_left nofun)
    exact ⟨m, member, accepts⟩
  · cases h

theorem checkMembers_eq_map (self : Value → Verdict) (ss : List Shape) (v : Value) :
    checkMembers self ss v = ss.map fun s => (s.label, s.checkWithin self v) := by
  induction ss with
  | nil => rfl
  | cons s ss ih => rw [checkMembers, ih, List.map_cons]

theorem taggedChecks_eq_map (self : Value → Verdict) (ms : List (Value × Shape)) :
    taggedChecks self ms = ms.map fun m => (m.1, m.2.checkWithin self) := by
  induction ms with
  | nil => rfl
  | cons m ms ih =>
    obtain ⟨tag, s⟩ := m
    rw [taggedChecks, ih, List.map_cons]

/-- A union of classes accepts what the class of the tag accepts. -/
theorem byTag_eq_ok {field : Text} {checks : List (Value × (Value → Verdict))}
    (h : byTag field checks v = .ok a) : ∃ c ∈ checks, c.2 v = .ok a := by
  unfold byTag at h
  dsimp only at h
  split at h
  · cases h
  next tag tagged =>
    split at h
    next t check found =>
      obtain ⟨_, -, found⟩ := Option.bind_eq_some_iff.mp found
      exact ⟨(t, check), List.mem_of_find?_eq_some found, within_eq_ok.mp h⟩
    · split at h <;> cases h

/-! ### Texts, and limits beside a shape -/

theorem limitedText_eq_ok {form : Option (Text × (Text → Bool))} {t : Text} {verdict : Verdict}
    (h : limitedText length form t verdict = .ok a) : verdict = .ok a := by
  have formed (h : limitedText.formed form t verdict = .ok a) : verdict = .ok a := by
    unfold limitedText.formed at h
    split at h
    · split at h
      · exact h
      · cases h
    · exact h
  have rest {least : Option Nat} (h : limitedText.rest form t verdict least = .ok a) :
      verdict = .ok a := by
    unfold limitedText.rest at h
    split at h
    · split at h
      · cases h
      · exact formed h
    · exact formed h
  unfold limitedText at h
  split at h
  · split at h
    · cases h
    · exact rest h
  · exact rest h

theorem textVerdict_eq_ok {form : Option (Text × (Text → Bool))} {t : Text} {verdict : Verdict}
    (h : textVerdict length form t verdict = .ok a) : verdict = .ok a := by
  unfold textVerdict at h
  split at h
  · exact limitedText_eq_ok h
  · cases h

/-- A text is made where a text is asked for. -/
theorem str_eq_ok {form : Option (Text × (Text → Bool))} (h : str length form v = .ok a) :
    ∃ t, a.value = .text t := by
  unfold str at h
  split at h
  · cases textVerdict_eq_ok h
    exact ⟨_, rfl⟩
  · split at h
    · cases limitedText_eq_ok h
      exact ⟨_, rfl⟩
    · cases h
  · cases textVerdict_eq_ok h
    exact ⟨_, rfl⟩
  · cases textVerdict_eq_ok h
    exact ⟨_, rfl⟩
  · cases h

/-- A limit beside a shape lets values pass; a pattern makes a text of a value that stands for one. -/
theorem applied_eq_ok {b : Bound} {kind : Text} {verdict : Verdict} (h : b.applied kind verdict = .ok a) :
    ∃ c, verdict = .ok c ∧ (a = c ∨ ∃ source t, b = .pattern source ∧ a.value = .text t) := by
  unfold Bound.applied at h
  split at h
  · cases h
  next c =>
    refine ⟨c, rfl, ?_⟩
    split at h
    next source =>
      unfold Bound.formVerdict at h
      split at h
      next accepted matched =>
        obtain rfl := Except.ok.inj h
        obtain ⟨t, text⟩ := str_eq_ok matched
        exact Or.inr ⟨source, t, rfl, text⟩
      · split at h <;> cases h
    next =>
      split at h
      · cases h
      · exact Or.inl (Except.ok.inj h).symm

/-! ### Classes -/

/-- A class accepts a map of its fields, or a record that it made. -/
theorem classOf_eq_ok {kind : ClassKind} {name : Text} {extra : Extra}
    {fields : List (Value × Value) → List FieldVerdict} (h : classOf kind name extra fields v = .ok a) :
    (∃ es values fit kept, v = .dict es ∧ fieldValues (fields es) = .ok (values, fit) ∧
      a.value = recordOf kind name values kept ∧ (extra ≠ .allow → kept = [])) ∨
    ∃ recordKind values kept, v = .record recordKind name values kept ∧ a.value = v := by
  unfold classOf at h
  split at h
  next es =>
    obtain ⟨values, fit, kept, found, value, closed⟩ := assemble_eq_ok h
    exact Or.inl ⟨es, values, fit, kept, rfl, found, value, closed⟩
  next v _ =>
    right
    unfold notAMap at h
    split at h
    · split at h
      next same =>
        obtain rfl := Except.ok.inj h
        exact ⟨_, _, _, congrArg (Value.record _ · _ _) same, rfl⟩
      · cases h
    · cases h
    · split at h
      next same =>
        obtain rfl := Except.ok.inj h
        exact ⟨_, _, _, congrArg (Value.record _ · _ _) same, rfl⟩
      · cases h
    · cases h
    · cases h

/-! ### What is accepted -/

section Making

theorem gives_of_eq_ok {verdict : Verdict} {y : Value} (h : ∃ fit, verdict = .ok { value := y, fit }) :
    Gives verdict y := by
  obtain ⟨fit, rfl⟩ := h
  exact ⟨_, rfl, rfl⟩

/-! ### Lists -/

/-- Verdicts that all accept come to what they make. -/
theorem all_of_gives {vs : List Verdict} {ys : List Value} (h : List.Forall₂ Gives vs ys) :
    ∃ fit, Verdict.all vs = .ok (ys, fit) := by
  induction h with
  | nil => exact ⟨_, rfl⟩
  | cons first _ ih =>
    obtain ⟨a, rfl, rfl⟩ := first
    obtain ⟨fit, others⟩ := ih
    refine ⟨a.fit.both fit, ?_⟩
    unfold Verdict.all
    rw [others]

theorem gives_atIndices {xs ys : List Value} (h : List.Forall₂ (Makes check) xs ys) (start : Nat) :
    List.Forall₂ Gives (atIndices check start xs) ys := by
  induction h generalizing start with
  | nil => exact .nil
  | cons first _ ih => exact .cons (gives_within.mpr first) (ih (start + 1))

/-- A list is accepted item by item. -/
theorem gives_sequence {xs ys : List Value} (h : List.Forall₂ (Makes check) xs ys) :
    Gives (sequence {} check (.list xs)) (.list ys) := by
  obtain ⟨fit, made⟩ := all_of_gives (gives_atIndices h 0)
  refine gives_of_eq_ok ⟨(kindFit true).both fit, ?_⟩
  simp only [sequence, itemsOf?, excess, shortOf, made]

/-! ### Maps -/

/-- The entries of a map are accepted one by one, if their keys can be found again. -/
theorem entries_of_makes {es made : List (Value × Value)}
    (h : List.Forall₂ (fun e m => Makes checkKey e.1 m.1 ∧ Makes checkValue e.2 m.2) es made)
    (hashable : ∀ m ∈ made, m.1.unhashable? = Option.none) :
    ∃ fit, entries checkKey checkValue es = .ok (made, fit) := by
  induction h with
  | nil => exact ⟨_, rfl⟩
  | @cons e m es made first _ ih =>
    obtain ⟨k, x⟩ := e
    obtain ⟨⟨a, keyed, key⟩, b, valued, value⟩ := first
    rw [List.forall_mem_cons] at hashable
    obtain ⟨fit, others⟩ := ih hashable.2
    dsimp only at keyed valued
    refine ⟨(a.fit.both (b.fit.both {})).both fit, ?_⟩
    have found : findable (.ok a) = .ok a := by rw [findable, key, hashable.1]
    rw [entries]
    simp only [keyed, valued, others, Verdict.within, Except.mapError, isAccepted, found, if_pos,
      Verdict.all, key, value]

/-- What stands for a key that is not there yet comes to the end. -/
theorem put_of_absent {key value : Value} {es : List (Value × Value)}
    (absent : ∀ e ∈ es, Value.same e.1 key = false) : Value.put key value es = es ++ [(key, value)] := by
  induction es with
  | nil => rfl
  | cons e es ih =>
    rw [List.forall_mem_cons] at absent
    rw [Value.put, if_neg (by rw [absent.1]; exact Bool.false_ne_true), ih absent.2, List.cons_append]

/-- Where keys are distinct texts all entries stay. -/
theorem lastEntries_of_nodup {ms : List (Text × Value)} (nodup : (ms.map (·.1)).Nodup) :
    lastEntries (ms.map fun m => (.text m.1, m.2)) = ms.map fun m => (.text m.1, m.2) := by
  have kept : ∀ (ms kept : List (Text × Value)), ((kept ++ ms).map (·.1)).Nodup →
      (ms.map fun m => ((.text m.1, m.2) : Value × Value)).foldl (fun es e => Value.put e.1 e.2 es)
        (kept.map fun m => (.text m.1, m.2)) = (kept ++ ms).map fun m => (.text m.1, m.2) := by
    intro ms
    induction ms with
    | nil => exact fun kept _ => by rw [List.append_nil]; rfl
    | cons m ms ih =>
      intro kept nodup
      have absent : ∀ e ∈ kept.map fun m => ((.text m.1, m.2) : Value × Value),
          Value.same e.1 (.text m.1) = false := by
        intro e member
        obtain ⟨n, before, rfl⟩ := List.mem_map.mp member
        rw [List.map_append, List.nodup_append] at nodup
        have other := nodup.2.2 n.1 (List.mem_map_of_mem before) m.1 List.mem_cons_self
        simpa [Value.same] using other
      rw [List.map_cons, List.foldl_cons, put_of_absent absent]
      have further := ih (kept ++ [m]) (by rwa [List.append_assoc])
      rw [List.append_assoc, List.map_append] at further
      exact further
  exact kept ms [] nodup

/-- A map without limits keeps the last of the entries with one key. -/
theorem gives_dictOf_entries {es made : List (Value × Value)}
    (h : List.Forall₂ (fun e m => Makes checkKey e.1 m.1 ∧ Makes checkValue e.2 m.2) es made)
    (hashable : ∀ m ∈ made, m.1.unhashable? = Option.none) :
    Gives (dictOf {} checkKey checkValue (.dict es)) (.dict (lastEntries made)) := by
  obtain ⟨fit, entered⟩ := entries_of_makes h hashable
  refine gives_of_eq_ok ⟨fit, ?_⟩
  simp only [dictOf, entered, shortOf, excess]
  rfl

/-- A map whose keys are distinct texts is accepted entry by entry. -/
theorem gives_dictOf {ms made : List (Text × Value)}
    (h : List.Forall₂ (fun m n => Makes checkKey (.text m.1) (.text n.1) ∧ Makes checkValue m.2 n.2) ms made)
    (nodup : (made.map (·.1)).Nodup) :
    Gives (dictOf {} checkKey checkValue (Value.ofMembers ms)) (Value.ofMembers made) := by
  have each : List.Forall₂ (fun e m => Makes checkKey e.1 m.1 ∧ Makes checkValue e.2 m.2)
      (ms.map fun m => (.text m.1, m.2)) (made.map fun m => (.text m.1, m.2)) := by
    rw [List.forall₂_map_left_iff, List.forall₂_map_right_iff]
    exact h
  have kept := gives_dictOf_entries each fun e member => by
    obtain ⟨m, -, rfl⟩ := List.mem_map.mp member
    rfl
  rwa [lastEntries_of_nodup nodup] at kept

/-! ### Classes -/

/-- The fields of a class come to their values if what is given for each of them is accepted. -/
theorem fieldValues_of_gives {fs : List FieldVerdict} {values : List (Text × Value)}
    (h : List.Forall₂ (fun f value => value.1 = f.name ∧ ∃ v, f.verdict = some v ∧ Gives v value.2)
      fs values) : ∃ fit, fieldValues fs = .ok (values, fit) := by
  induction h with
  | nil => exact ⟨_, rfl⟩
  | @cons f value fs values first _ ih =>
    obtain ⟨named, v, verdict, a, rfl, made⟩ := first
    obtain ⟨name, y⟩ := value
    obtain rfl : name = f.name := named
    obtain rfl : a.value = y := made
    obtain ⟨fit, others⟩ := ih
    refine ⟨(a.fit.both { given := some 1 }).both fit, ?_⟩
    rw [fieldValues, verdict, others]
    rfl

/-- A field that was not given comes to its default, if it need not be given. -/
theorem exists_fieldValues {fs : List FieldVerdict}
    (h : ∀ f ∈ fs, (∃ v, f.verdict = some v ∧ ∃ y, Gives v y) ∨ f.verdict = Option.none ∧ f.presence ≠ .required) :
    ∃ values fit, fieldValues fs = .ok (values, fit) := by
  induction fs with
  | nil => exact ⟨_, _, rfl⟩
  | cons f fs ih =>
    rw [List.forall_mem_cons] at h
    obtain ⟨first, others⟩ := h
    obtain ⟨values, fit, found⟩ := ih others
    rcases first with ⟨v, verdict, y, a, rfl, -⟩ | ⟨verdict, presence⟩
    · refine ⟨(f.name, a.value) :: values, (a.fit.both { given := some 1 }).both fit, ?_⟩
      rw [fieldValues, verdict, found]
      rfl
    · rw [fieldValues, verdict, found]
      cases declared : f.presence with
      | required => exact absurd declared presence
      | optional => exact ⟨_, _, rfl⟩
      | default d => exact ⟨_, _, rfl⟩

section Model

variable {options : ModelOptions} {name : Text} {fs : List FieldVerdict} {values : List (Text × Value)}

/-- A model that lets members be that it does not declare accepts what its fields come to. -/
theorem gives_assemble (es : List (Value × Value)) (found : ∃ fit, fieldValues fs = .ok (values, fit)) :
    Gives (assemble (.model options) name .ignore fs es) (.record .model name values []) := by
  obtain ⟨fit, found⟩ := found
  refine gives_of_eq_ok ⟨(madeFit (.model options)).both fit, ?_⟩
  simp only [assemble, ignoresKeys, found, hopeless?]
  rfl

/-- A model that forbids members that it does not declare accepts what its fields come to, if all members
are declared. -/
theorem gives_assemble_forbid (es : List (Text × Value)) (found : ∃ fit, fieldValues fs = .ok (values, fit))
    (declared : ∀ e ∈ es, e.1 ∈ fs.map (·.name) ∧ e.1.isScalar = true) :
    Gives (assemble (.model options) name .forbid fs (es.map fun e => (.text e.1, e.2)))
      (.record .model name values []) := by
  obtain ⟨fit, found⟩ := found
  have members : furtherMembers .forbid (unknownMember (.model options)) (fs.map (·.name))
      (es.map fun e => (.text e.1, e.2)) = ([], []) := by
    clear found
    induction es with
    | nil => rfl
    | cons e es ih =>
      rw [List.forall_mem_cons] at declared
      rw [List.map_cons, furtherMembers, ih declared.2]
      dsimp only
      rw [if_pos (List.contains_iff_mem.mpr declared.1.1)]
  have unicode : (es.map fun e => ((.text e.1, e.2) : Value × Value)).any isForeignKey = false := by
    rw [List.any_map, List.any_eq_false]
    intro e member
    simp [isForeignKey, (declared e member).2]
  refine gives_of_eq_ok ⟨(madeFit (.model options)).both fit, ?_⟩
  simp only [assemble, ignoresKeys, members, found, hopeless?, unicode]
  rfl

end Model

end Making

end GuardedTools.Check
