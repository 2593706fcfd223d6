import GuardedTools.Proofs.Check.Accepting
import GuardedTools.Proofs.Value.Everywhere
import Mathlib.Data.Option.Basic

/-!
# Shapes of finite numbers

Some shapes let through no number that is not finite (`Shape.isFinite`): floating-point numbers and
decimals among their parts must be finite, nothing in them is left unchecked, and what they bring in of
their own is finite.  Whatever such a shape makes of a value without instances holds finite numbers only
(`Shape.check_isFinite`), by recursion on the shape with the scalars as its leaves.
-/

namespace GuardedTools

namespace Shape

mutual

/-- Whether a shape lets only finite numbers through. -/
def isFinite : Shape → Bool
  | any => false
  | complex => false
  | float finite _ => finite
  | decimal finite _ _ => finite
  | list item _ => isFinite item
  | set _ item _ => isFinite item
  | tuple items _ => areFinite items
  | tupleOf item _ => isFinite item
  | dict key value _ => isFinite key && isFinite value
  | nullable inner => isFinite inner
  | union members => areFinite members
  | tagged _ members => areFiniteTagged members
  | literal values => values.all Value.isFinite
  | enum _ members _ => members.all (·.2.isFinite)
  | record _ _ extra fields => extra != .allow && areFiniteFields fields
  | noted _ inner => isFinite inner
  | bounded _ inner => isFinite inner
  | _ => true

def areFinite : List Shape → Bool
  | [] => true
  | s :: ss => isFinite s && areFinite ss

def areFiniteTagged : List (Value × Shape) → Bool
  | [] => true
  | (_, s) :: ms => isFinite s && areFiniteTagged ms

def areFiniteFields : List (Text × Presence × Shape) → Bool
  | [] => true
  | (_, presence, s) :: fs => isFinitePresence presence && isFinite s && areFiniteFields fs

/-- Whether the default of a field is finite, if it has one. -/
def isFinitePresence : Presence → Bool
  | .default v => v.isFinite
  | _ => true

end

end Shape

namespace Check

/-- A check makes values of finite numbers, of values without instances. -/
def MakesFinite (check : Value → Verdict) : Prop :=
  ∀ ⦃x y⦄, x.isBare = true → Gives (check x) y → y.isFinite = true

variable {v y : Value} {a : Accepted} {limits : Limits}

/-! ### Scalars -/

theorem limited_gives {verdict : Verdict} (h : Gives (limited limits verdict) y) : Gives verdict y := by
  obtain ⟨a, accepted, rfl⟩ := h
  unfold limited at accepted
  split at accepted
  · cases accepted
  · split at accepted
    · cases accepted
    · exact ⟨_, rfl, congrArg Accepted.value (Except.ok.inj accepted)⟩

/-- A bare value of an instance's kind is the value itself. -/
theorem bare_of_isBare (bare : v.isBare = true) : v.bare = v := by
  cases v <;> first | rfl | cases bare

theorem not_gives_error {issues : List Issue} : ¬ Gives (.error issues) y := by
  rintro ⟨_, refused, -⟩
  cases refused

/-- What is made of the words of a text or of bytes. -/
theorem worded_gives {read : Text → Verdict} {unreadable otherwise : Problem}
    (h : Gives (worded read unreadable otherwise v) y) : ∃ t, Gives (read t) y := by
  unfold worded at h
  split at h
  · split at h
    · exact ⟨_, h⟩
    · exact absurd h not_gives_error
  · split at h
    · exact ⟨_, h⟩
    · exact absurd h not_gives_error
  · exact absurd h not_gives_error

theorem gives_ok {b : Accepted} : Gives (.ok b) y ↔ b.value = y :=
  ⟨fun ⟨_, same, made⟩ => Except.ok.inj same ▸ made, fun made => ⟨b, rfl, made⟩⟩

theorem int_makesFinite : MakesFinite (int limits) := by
  intro x y bare h
  have h := limited_gives h
  split at h
  · exact gives_ok.mp h ▸ rfl
  · exact gives_ok.mp h ▸ rfl
  · unfold integerOfFloat at h
    split at h
    · exact absurd h not_gives_error
    · split at h
      · split at h
        · exact gives_ok.mp h ▸ rfl
        · exact absurd h not_gives_error
      · exact absurd h not_gives_error
  · unfold integerOfDecimal at h
    split at h
    · exact absurd h not_gives_error
    · split at h
      · exact gives_ok.mp h ▸ rfl
      · exact absurd h not_gives_error
  · cases bare
  · cases bare
  · obtain ⟨t, h⟩ := worded_gives h
    unfold integerOfText at h
    split at h
    · exact gives_ok.mp h ▸ rfl
    · exact absurd h not_gives_error
    · exact absurd h not_gives_error

/-- Where numbers must be finite, what is made is finite. -/
theorem float_makesFinite : MakesFinite (float true limits) := by
  intro x y bare h
  obtain ⟨a, accepted, rfl⟩ := limited_gives h
  -- of the kinds of values that can come here only numbers are asked whether they are finite
  have number : ∀ {v : Verdict}, finiteFloat true v = .ok a → v = .ok a ∧
      ∀ x, a.value = .float x → x.isFinite = true := by
    intro v h
    rw [finiteFloat, if_pos rfl] at h
    unfold Verdict.require at h
    split at h
    · cases h
    next b _ =>
      split at h
      next finite =>
        obtain rfl := Except.ok.inj h
        refine ⟨rfl, fun x same => ?_⟩
        rw [same] at finite
        exact finite
      · cases h
  obtain ⟨accepted, finite⟩ := number accepted
  have made : ∃ x, a.value = .float x := by
    have accepted := gives_value accepted
    split at accepted
    · exact ⟨_, (gives_ok.mp accepted).symm⟩
    · unfold floatOfInt at accepted
      dsimp only at accepted
      split at accepted
      · exact ⟨_, (gives_ok.mp accepted).symm⟩
      · exact absurd accepted not_gives_error
    · exact ⟨_, (gives_ok.mp accepted).symm⟩
    · exact ⟨_, (gives_ok.mp accepted).symm⟩
    · obtain ⟨t, accepted⟩ := worded_gives accepted
      unfold floatOfText at accepted
      split at accepted
      · exact ⟨_, (gives_ok.mp accepted).symm⟩
      · exact absurd accepted not_gives_error
  obtain ⟨x, made⟩ := made
  rw [made]
  exact finite x made

theorem truthOfInt_finite {n : Int} (h : Gives (truthOfInt n) y) : y.isFinite = true := by
  unfold truthOfInt at h
  split at h
  · exact gives_ok.mp h ▸ rfl
  · split at h
    · exact gives_ok.mp h ▸ rfl
    · exact absurd h not_gives_error

theorem truthOfFloat_finite {x : Binary64} (h : Gives (truthOfFloat x) y) : y.isFinite = true := by
  unfold truthOfFloat at h
  split at h
  · split at h
    · exact truthOfInt_finite h
    · exact absurd h not_gives_error
  · exact absurd h not_gives_error

theorem bool_makesFinite : MakesFinite bool := by
  intro x y bare h
  unfold bool at h
  rw [bare_of_isBare bare] at h
  split at h
  · exact gives_ok.mp h ▸ rfl
  · split at h
    · exact truthOfInt_finite h
    · exact absurd h not_gives_error
  · exact truthOfFloat_finite h
  · exact truthOfFloat_finite h
  · obtain ⟨t, h⟩ := worded_gives h
    unfold truthOf at h
    dsimp only at h
    split at h
    · exact gives_ok.mp h ▸ rfl
    · split at h
      · exact gives_ok.mp h ▸ rfl
      · exact absurd h not_gives_error

theorem str_makesFinite {length : LengthLimits} {form : Option (Text × (Text → Bool))} :
    MakesFinite (str length form) := by
  rintro x y bare ⟨a, accepted, rfl⟩
  obtain ⟨t, text⟩ := str_eq_ok accepted
  rw [text]
  rfl

theorem limitedBytes_gives {length : LengthLimits} {bs : List UInt8} {verdict : Verdict}
    (h : Gives (limitedBytes length bs verdict) y) : Gives verdict y := by
  have atLeast (h : Gives (limitedBytes.atLeast length bs verdict) y) : Gives verdict y := by
    unfold limitedBytes.atLeast at h
    split at h
    · split at h
      · exact absurd h not_gives_error
      · exact h
    · exact h
  unfold limitedBytes at h
  split at h
  · split at h
    · exact absurd h not_gives_error
    · exact atLeast h
  · exact atLeast h

theorem bytes_makesFinite {length : LengthLimits} : MakesFinite (bytes length) := by
  intro x y bare h
  unfold bytes at h
  rw [bare_of_isBare bare] at h
  split at h
  · exact gives_ok.mp (limitedBytes_gives h) ▸ rfl
  · unfold bytesOfText at h
    split at h
    · exact gives_ok.mp (limitedBytes_gives h) ▸ rfl
    · exact absurd h not_gives_error
  · exact absurd h not_gives_error

/-- A decimal that must be finite is. -/
theorem digitVerdict_finite {digits : DigitLimits} {d : Decimal} {verdict : Verdict}
    (h : Gives (digitVerdict true digits d verdict) y) : d.ratio?.isSome = true ∧ Gives verdict y := by
  unfold digitVerdict at h
  dsimp only at h
  split at h
  · refine ⟨?_, ?_⟩
    · rw [Decimal.ratio?]
      split <;> rfl
    · split at h
      · exact absurd h not_gives_error
      · exact h
  · rw [Bool.true_or, if_pos rfl] at h
    exact absurd h not_gives_error

theorem decimal_makesFinite {digits : DigitLimits} : MakesFinite (decimal true digits limits) := by
  intro x y bare h
  have h := limited_gives h
  rw [bare_of_isBare bare] at h
  have converted {d? : Option Decimal} (h : Gives (convertedDecimal true digits d?) y) :
      y.isFinite = true := by
    unfold convertedDecimal at h
    split at h
    · obtain ⟨finite, h⟩ := digitVerdict_finite h
      exact gives_ok.mp h ▸ finite
    · exact absurd h not_gives_error
  split at h
  · obtain ⟨finite, h⟩ := digitVerdict_finite h
    exact gives_ok.mp h ▸ finite
  · exact converted h
  · exact converted h
  · exact converted h
  · exact absurd h not_gives_error

/-! ### Calendar values -/

theorem ofReading_finite {α : Type} {problem : Text → Problem} {make : α → Value}
    {reading : CalendarReading α} (finite : ∀ a, (make a).isFinite = true)
    (h : Gives (ofReading problem make reading) y) : y.isFinite = true := by
  unfold ofReading at h
  split at h
  · exact gives_ok.mp h ▸ finite _
  · exact absurd h not_gives_error

theorem inYears_gives {problem : Text → Problem} {verdict : Verdict}
    (h : Gives (inYears problem verdict) y) : Gives verdict y := by
  unfold inYears at h
  dsimp only at h
  split at h
  · split at h
    · split at h
      · exact absurd h not_gives_error
      · exact h
    · split at h
      · exact absurd h not_gives_error
      · exact h
    · exact h
  · exact h

theorem dateOfMoment_finite {d : Date} {t : TimeOfDay} (h : Gives (dateOfMoment d t) y) :
    y.isFinite = true := by
  unfold dateOfMoment at h
  split at h
  · exact gives_ok.mp h ▸ rfl
  · exact absurd h not_gives_error

theorem dateOfReading_finite {reading : CalendarReading (Date × TimeOfDay)}
    (h : Gives (dateOfReading reading) y) : y.isFinite = true := by
  unfold dateOfReading at h
  split at h
  · exact dateOfMoment_finite h
  · exact absurd h not_gives_error

theorem date_makesFinite : MakesFinite (date limits) := by
  intro x y bare h
  have h := limited_gives (inYears_gives h)
  unfold dateOf at h
  split at h
  · exact gives_ok.mp h ▸ rfl
  · exact dateOfMoment_finite h
  · split at h
    · exact absurd h not_gives_error
    · split at h
      · exact gives_ok.mp h ▸ rfl
      · exact dateOfReading_finite h
    · exact dateOfReading_finite h
    · exact absurd h not_gives_error

theorem dateTime_makesFinite : MakesFinite (dateTime limits) := by
  intro x y bare h
  have h := limited_gives (inYears_gives h)
  unfold dateTimeOf at h
  split at h
  · exact gives_ok.mp h ▸ rfl
  · exact gives_ok.mp h ▸ rfl
  · split at h
    · exact absurd h not_gives_error
    · unfold dateTimeOfOctets at h
      split at h
      · exact gives_ok.mp h ▸ rfl
      · exact ofReading_finite (fun _ => rfl) h
    · exact ofReading_finite (fun _ => rfl) h
    · exact absurd h not_gives_error

theorem time_makesFinite : MakesFinite (time limits) := by
  intro x y bare h
  have h := limited_gives h
  unfold timeOf at h
  split at h
  · exact gives_ok.mp h ▸ rfl
  · split at h
    · exact absurd h not_gives_error
    · exact ofReading_finite (fun _ => rfl) h
    · exact ofReading_finite (fun _ => rfl) h
    · exact absurd h not_gives_error

theorem duration_makesFinite : MakesFinite (duration limits) := by
  intro x y bare h
  have h := limited_gives h
  unfold durationOf at h
  split at h
  · exact gives_ok.mp h ▸ rfl
  · exact ofReading_finite (fun _ => rfl) h
  · split at h
    · exact absurd h not_gives_error
    · exact ofReading_finite (fun _ => rfl) h
    · exact ofReading_finite (fun _ => rfl) h
    · exact absurd h not_gives_error

theorem uuid_makesFinite : MakesFinite uuid := by
  intro x y bare h
  unfold uuid at h
  split at h
  · exact gives_ok.mp h ▸ rfl
  · split at h
    · exact absurd h not_gives_error
    · split at h
      · exact gives_ok.mp h ▸ rfl
      · exact absurd h not_gives_error
  · split at h
    · exact gives_ok.mp h ▸ rfl
    · split at h
      · exact gives_ok.mp h ▸ rfl
      · exact absurd h not_gives_error
  · exact absurd h not_gives_error

theorem none_makesFinite : MakesFinite none := by
  intro x y bare h
  unfold none at h
  split at h
  · exact gives_ok.mp h ▸ rfl
  · exact absurd h not_gives_error

/-! ### Given values -/

theorem allowed?_mem {values : List Value} {w : Value} (h : allowed? values v = some w) : w ∈ values := by
  unfold allowed? at h
  rcases (Option.orElse_eq_some _ _ _).mp h with found | ⟨-, found⟩
  · exact List.mem_of_find?_eq_some found
  · split at found
    · cases found
    · exact List.mem_of_find?_eq_some found

theorem literal_makesFinite {values : List Value} (finite : ∀ w ∈ values, w.isFinite = true) :
    MakesFinite (literal values) := by
  intro x y bare h
  unfold literal at h
  split at h
  next w allowed => exact gives_ok.mp h ▸ finite w (allowed?_mem allowed)
  · exact absurd h not_gives_error

theorem enum_makesFinite {name : Text} {members : List (Text × Value)} {base : EnumBase}
    (finite : ∀ m ∈ members, m.2.isFinite = true) : MakesFinite (enum name members base) := by
  intro x y bare h
  have found : ∀ w z, enum.found name members base w = some z → z.isFinite = true := by
    intro w z found
    obtain ⟨m, sought, rfl⟩ := Option.map_eq_some_iff.mp found
    rw [Value.isFinite_member]
    rcases (Option.orElse_eq_some _ _ _).mp sought with sought | ⟨-, sought⟩
    · exact finite m (List.mem_of_find?_eq_some sought)
    · exact finite m (List.mem_of_find?_eq_some sought)
  unfold enum at h
  split at h
  · cases bare
  · unfold enum.byValue at h
    cases made : (enum.found name members base (enum.adapted base x) <|> enum.found name members base x) with
    | none =>
      rw [made] at h
      exact absurd h not_gives_error
    | some z =>
      rw [made] at h
      rw [← gives_ok.mp h]
      rcases (Option.orElse_eq_some _ _ _).mp made with made | ⟨-, made⟩
      · exact found _ _ made
      · exact found _ _ made

end Check

/-! ### Shapes -/

namespace Shape

open Check

theorem areFinite_iff {ss : List Shape} : areFinite ss = true ↔ ∀ s ∈ ss, s.isFinite = true := by
  induction ss with
  | nil => exact iff_of_true rfl (List.forall_mem_nil _)
  | cons s ss ih => rw [areFinite, Bool.and_eq_true, List.forall_mem_cons, ih]

theorem areFiniteTagged_iff {ms : List (Value × Shape)} :
    areFiniteTagged ms = true ↔ ∀ m ∈ ms, m.2.isFinite = true := by
  induction ms with
  | nil => exact iff_of_true rfl (List.forall_mem_nil _)
  | cons m ms ih =>
    obtain ⟨tag, s⟩ := m
    rw [areFiniteTagged, Bool.and_eq_true, List.forall_mem_cons, ih]

theorem areFiniteFields_iff {fs : List (Text × Presence × Shape)} : areFiniteFields fs = true ↔
    ∀ f ∈ fs, isFinitePresence f.2.1 = true ∧ f.2.2.isFinite = true := by
  induction fs with
  | nil => exact iff_of_true rfl (List.forall_mem_nil _)
  | cons f fs ih =>
    obtain ⟨name, presence, s⟩ := f
    rw [areFiniteFields, Bool.and_eq_true, Bool.and_eq_true, List.forall_mem_cons, ih]

variable {self : Value → Verdict}

/-- Items that are made by checks that make finite values are finite. -/
theorem finite_of_makes {check : Value → Verdict} (finite : MakesFinite check) {xs ys : List Value}
    (bare : ∀ x ∈ xs, x.isBare = true) (made : List.Forall₂ (Makes check) xs ys) :
    ∀ y ∈ ys, y.isFinite = true := by
  intro y member
  have made := (List.forall₂_and_left _ _).mpr ⟨bare, made⟩
  obtain ⟨x, -, bare, makes⟩ := exists_left_of_mem made member
  exact finite bare makes

theorem makesFinite_list {item : Shape} (finite : MakesFinite (item.checkWithin self))
    {l : LengthLimits} : MakesFinite ((list item l).checkWithin self) := by
  rintro x y bare ⟨a, accepted, rfl⟩
  obtain ⟨xs, right, ys, items, made, value⟩ := sequence_eq_ok accepted
  rw [value, Value.isFinite_list]
  exact finite_of_makes finite (Value.isBare_of_itemsOf? items bare) made

theorem makesFinite_tupleOf {item : Shape} (finite : MakesFinite (item.checkWithin self))
    {l : LengthLimits} : MakesFinite ((tupleOf item l).checkWithin self) := by
  rintro x y bare ⟨a, accepted, rfl⟩
  rw [checkWithin] at accepted
  split at accepted
  · cases accepted
  next xs right items =>
    obtain ⟨ys, made, value⟩ := tupleOf_eq_ok accepted
    rw [value, Value.isFinite_tuple]
    exact finite_of_makes finite (Value.isBare_of_itemsOf? items bare) (atIndices_gives made)

theorem makesFinite_set {item : Shape} (finite : MakesFinite (item.checkWithin self))
    {frozen : Bool} {l : LengthLimits} : MakesFinite ((set frozen item l).checkWithin self) := by
  rintro x y bare ⟨a, accepted, rfl⟩
  obtain ⟨xs, right, ys, items, made, -, value⟩ := setOf_eq_ok accepted
  rw [value, Value.isFinite_set]
  intro z member
  exact finite_of_makes finite (Value.isBare_of_itemsOf? items bare) made z
    (mem_of_mem_distinct (Value.mem_of_mem_inSetOrder member))

theorem makesFinite_tuple {items : List Shape}
    (finite : ∀ s ∈ items, MakesFinite (s.checkWithin self)) {l : LengthLimits} :
    MakesFinite ((tuple items l).checkWithin self) := by
  rintro x y bare ⟨a, accepted, rfl⟩
  rw [checkWithin] at accepted
  split at accepted
  · cases accepted
  next xs right given =>
    split at accepted
    · cases accepted
    · obtain ⟨ys, made, value⟩ := tupleOf_eq_ok accepted
      rw [value, Value.isFinite_tuple]
      intro z member
      obtain ⟨⟨s, x'⟩, within, makes⟩ := exists_left_of_mem (checkItems_gives made).2 member
      obtain ⟨item, part⟩ := List.of_mem_zip within
      exact finite s item (Value.isBare_of_itemsOf? given bare x' part) makes

theorem makesFinite_dict {key value : Shape} (finiteKey : MakesFinite (key.checkWithin self))
    (finiteValue : MakesFinite (value.checkWithin self)) {l : LengthLimits} :
    MakesFinite ((dict key value l).checkWithin self) := by
  rintro x y bare ⟨a, accepted, rfl⟩
  obtain ⟨es, ms, rfl, made, value⟩ := dictOf_eq_ok accepted
  have bare := Value.isBare_dict.mp bare
  have finite : ∀ m ∈ ms, m.1.isFinite = true ∧ m.2.isFinite = true := by
    intro m member
    have made := (List.forall₂_and_left _ _).mpr ⟨bare, made⟩
    obtain ⟨e, -, ⟨bareKey, bareValue⟩, makesKey, makesValue⟩ := exists_left_of_mem made member
    exact ⟨finiteKey bareKey makesKey, finiteValue bareValue makesValue⟩
  rw [value, Value.isFinite_dict]
  intro e member
  obtain ⟨⟨m, memberKey, sameKey⟩, n, memberValue, sameValue⟩ := mem_lastEntries member
  exact ⟨sameKey ▸ (finite m memberKey).1, sameValue ▸ (finite n memberValue).2⟩

/-- What the fields of a class come to is finite: a value made for a field, or its default. -/
theorem finite_of_fieldValues {fields : List (Text × Presence × Shape)} {es : List (Value × Value)}
    (finite : ∀ f ∈ fields, isFinitePresence f.2.1 = true ∧ MakesFinite (f.2.2.checkWithin self))
    (bare : (Value.dict es).isBare = true) {values : List (Text × Value)} {fit : Fit}
    (made : fieldValues (checkFields self fields es) = .ok (values, fit)) :
    ∀ m ∈ values, m.2.isFinite = true := by
  rintro ⟨name, v⟩ member
  obtain ⟨f, kept, -, yields⟩ := exists_left_of_mem (fieldValues_eq_ok made) member
  have verdicts := List.mem_of_mem_filter kept
  rw [checkFields_eq_map] at verdicts
  obtain ⟨field, declared, rfl⟩ := List.mem_map.mp verdicts
  obtain ⟨finiteDefault, makes⟩ := finite field declared
  dsimp only at yields ⊢
  cases yields with
  | given verdict =>
    obtain ⟨x, found, accepted⟩ := Option.map_eq_some_iff.mp verdict
    exact makes (Value.isBare_of_find? found bare) (gives_value accepted)
  | default absent presence =>
    dsimp only at presence
    rw [presence] at finiteDefault
    exact finiteDefault

/-- A class makes a record of finite values, whatever checks the parts that are of the class itself, if
that makes finite values too. -/
theorem makesFinite_record {kind : ClassKind} {name : Text} {extra : Extra}
    {fields : List (Text × Presence × Shape)} (closed : extra ≠ .allow)
    (finite : ∀ self, MakesFinite self →
      ∀ f ∈ fields, isFinitePresence f.2.1 = true ∧ MakesFinite (f.2.2.checkWithin self)) :
    ∀ n, MakesFinite (nested (fun self => classOf kind name extra (checkFields self fields)) n) := by
  intro n
  induction n with
  | zero => exact fun x y _ made => absurd made not_gives_error
  | succ n ih =>
    rintro x y bare ⟨a, accepted, rfl⟩
    rcases classOf_eq_ok accepted with ⟨es, values, fit, kept, rfl, made, value, none⟩ | instanceOf
    · have finite := finite_of_fieldValues (finite _ ih) bare made
      rw [value, none closed]
      cases kind with
      | model options => exact Value.isFinite_record.mpr ⟨finite, nofun⟩
      | dataclass => exact Value.isFinite_record.mpr ⟨finite, nofun⟩
      | typedDict =>
        rw [recordOf, List.append_nil, Value.ofMembers, Value.isFinite_dict]
        intro e member
        obtain ⟨m, within, rfl⟩ := List.mem_map.mp member
        exact ⟨rfl, finite m within⟩
    · obtain ⟨recordKind, values, kept, rfl, -⟩ := instanceOf
      cases bare

mutual

/-- What a shape of finite numbers makes of values without instances is finite. -/
theorem makesFinite_checkWithin : ∀ (s : Shape) (own : Value → Verdict), MakesFinite own →
    s.isFinite = true → MakesFinite (s.checkWithin own)
  | any, _, _, finite => nomatch finite
  | none, _, _, _ => none_makesFinite
  | bool, _, _, _ => bool_makesFinite
  | str _ _, _, _, _ => str_makesFinite
  | int _, _, _, _ => int_makesFinite
  | float true _, _, _, _ => float_makesFinite
  | float false _, _, _, finite => nomatch finite
  | decimal true _ _, _, _, _ => decimal_makesFinite
  | decimal false _ _, _, _, finite => nomatch finite
  | complex, _, _, finite => nomatch finite
  | bytes _, _, _, _ => bytes_makesFinite
  | date _, _, _, _ => date_makesFinite
  | time _, _, _, _ => time_makesFinite
  | dateTime _, _, _, _ => dateTime_makesFinite
  | duration _, _, _, _ => duration_makesFinite
  | uuid, _, _, _ => uuid_makesFinite
  | callable, _, _, _ => fun _ _ _ made => absurd made not_gives_error
  | instances _, _, _, _ => fun _ _ _ made => absurd made not_gives_error
  | list item _, own, ownFinite, finite =>
    makesFinite_list (makesFinite_checkWithin item own ownFinite finite)
  | tupleOf item _, own, ownFinite, finite =>
    makesFinite_tupleOf (makesFinite_checkWithin item own ownFinite finite)
  | set _ item _, own, ownFinite, finite =>
    makesFinite_set (makesFinite_checkWithin item own ownFinite finite)
  | tuple items _, own, ownFinite, finite =>
    makesFinite_tuple (makesFinite_items items own ownFinite finite)
  | dict key value _, own, ownFinite, finite =>
    have finite := Bool.and_eq_true_iff.mp finite
    makesFinite_dict (makesFinite_checkWithin key own ownFinite finite.1)
      (makesFinite_checkWithin value own ownFinite finite.2)
  | nullable inner, own, ownFinite, finite => by
    intro x y bare made
    unfold checkWithin at made
    split at made
    · exact gives_ok.mp made ▸ rfl
    · exact makesFinite_checkWithin inner own ownFinite finite bare made
  | union members, own, ownFinite, finite => by
    rintro x y bare ⟨a, accepted, rfl⟩
    obtain ⟨m, member, accepts⟩ := unionOf_eq_ok accepted
    rw [checkMembers_eq_map] at member
    obtain ⟨s, within, rfl⟩ := List.mem_map.mp member
    exact makesFinite_items members own ownFinite finite s within bare (gives_value accepts)
  | tagged _ members, own, ownFinite, finite => by
    rintro x y bare ⟨a, accepted, rfl⟩
    obtain ⟨c, member, accepts⟩ := byTag_eq_ok accepted
    rw [taggedChecks_eq_map] at member
    obtain ⟨m, within, rfl⟩ := List.mem_map.mp member
    exact makesFinite_members members own ownFinite finite m within bare (gives_value accepts)
  | literal values, _, _, finite => literal_makesFinite (List.all_eq_true.mp finite)
  | enum _ members _, _, _, finite => enum_makesFinite (List.all_eq_true.mp finite)
  | record kind name extra fields, _, _, finite =>
    have finite := Bool.and_eq_true_iff.mp finite
    makesFinite_record (bne_iff_ne.mp finite.1)
      (fun own ownFinite => makesFinite_fields fields own ownFinite finite.2) _
  | self, _, ownFinite, _ => ownFinite
  | noted _ inner, own, ownFinite, finite => makesFinite_checkWithin inner own ownFinite finite
  | bounded _ inner, own, ownFinite, finite => by
    rintro x y bare ⟨a, accepted, rfl⟩
    obtain ⟨c, accepts, rfl | ⟨_, t, -, text⟩⟩ := applied_eq_ok accepted
    · exact makesFinite_checkWithin inner own ownFinite finite bare (gives_value accepts)
    · rw [text]
      rfl

theorem makesFinite_items : ∀ (ss : List Shape) (own : Value → Verdict), MakesFinite own →
    areFinite ss = true → ∀ s ∈ ss, MakesFinite (s.checkWithin own)
  | [], _, _, _ => nofun
  | s :: ss, own, ownFinite, finite => by
    have finite := Bool.and_eq_true_iff.mp finite
    exact List.forall_mem_cons.mpr ⟨makesFinite_checkWithin s own ownFinite finite.1,
      makesFinite_items ss own ownFinite finite.2⟩

theorem makesFinite_members : ∀ (ms : List (Value × Shape)) (own : Value → Verdict),
    MakesFinite own → areFiniteTagged ms = true → ∀ m ∈ ms, MakesFinite (m.2.checkWithin own)
  | [], _, _, _ => nofun
  | (_, s) :: ms, own, ownFinite, finite => by
    have finite := Bool.and_eq_true_iff.mp finite
    exact List.forall_mem_cons.mpr ⟨makesFinite_checkWithin s own ownFinite finite.1,
      makesFinite_members ms own ownFinite finite.2⟩

theorem makesFinite_fields : ∀ (fs : List (Text × Presence × Shape)) (own : Value → Verdict),
    MakesFinite own → areFiniteFields fs = true →
      ∀ f ∈ fs, isFinitePresence f.2.1 = true ∧ MakesFinite (f.2.2.checkWithin own)
  | [], _, _, _ => nofun
  | (_, presence, s) :: fs, own, ownFinite, finite => by
    have finite := Bool.and_eq_true_iff.mp finite
    have first := Bool.and_eq_true_iff.mp finite.1
    exact List.forall_mem_cons.mpr ⟨⟨first.1, makesFinite_checkWithin s own ownFinite first.2⟩,
      makesFinite_fields fs own ownFinite finite.2⟩

end

end Shape

end GuardedTools
