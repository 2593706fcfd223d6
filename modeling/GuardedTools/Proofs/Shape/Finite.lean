import GuardedTools.Proofs.Check.Finite

/-!
# Types of finite numbers

Which types have shapes that let only finite numbers through, said of the type (`TypeExpr.isFinite`,
`TypeExpr.shape_isFinite`).  Among the arguments of a tool numbers must be finite, and this goes for the
parts of a type, and for the fields of data classes and typed dictionaries; but not for those of a model,
which has settings of its own.  An annotation may allow other numbers, and no annotation besides does.
-/

namespace GuardedTools

namespace Shape

/-! ### Annotations -/

/-- What narrows shapes lets no new numbers through. -/
def KeepsFinite (narrow : Narrowing) : Prop :=
  ∀ s s', narrow s = some (.ok s') → s.isFinite = true → s'.isFinite = true

variable {s s' : Shape}

theorem keepsFinite_narrowLength (narrow : LengthLimits → Nat → LengthLimits) (v : Value) :
    KeepsFinite (narrowLength narrow v) := by
  intro s s' h finite
  cases counted : count v with
  | error detail => cases s <;> simp [narrowLength, counted, Except.map] at h
  | ok n =>
    cases s <;> simp only [narrowLength, counted, Except.map, Option.some.injEq, Except.ok.injEq,
      reduceCtorEq] at h <;> subst h <;> exact finite

theorem keepsFinite_narrowPattern (source : Text) : KeepsFinite (narrowPattern source) := by
  intro s s' h finite
  cases s <;> simp only [narrowPattern, Option.some.injEq, Except.ok.injEq, reduceCtorEq] at h <;>
    subst h <;> exact finite

theorem keepsFinite_narrowOrder (narrow : Limits → Limits) : KeepsFinite (narrowOrder narrow) := by
  intro s s' h finite
  cases s <;> simp only [narrowOrder, Option.some.injEq, Except.ok.injEq, reduceCtorEq] at h <;>
    subst h <;> exact finite

theorem keepsFinite_narrowDigits (narrow : DigitLimits → Nat → DigitLimits) (v : Value) :
    KeepsFinite (narrowDigits narrow v) := by
  intro s s' h finite
  cases counted : count v with
  | error detail => cases s <;> simp [narrowDigits, counted, Except.map] at h
  | ok n =>
    cases s <;> simp only [narrowDigits, counted, Except.map, Option.some.injEq, Except.ok.injEq,
      reduceCtorEq] at h
    subst h
    exact finite

theorem keepsFinite_narrowFinite : KeepsFinite (narrowFinite true) := by
  intro s s' h finite
  cases s <;> simp only [narrowFinite, Option.some.injEq, Except.ok.injEq, reduceCtorEq] at h <;>
    (subst h; rfl)

theorem isFinite_note (key : Text) (value : Json) : (s.note key value).isFinite = s.isFinite := by
  unfold note
  split <;> rfl

theorem isFinite_beside {note? : Shape → Option (Text × Json)} {b : Bound} :
    (beside note? b s).isFinite = s.isFinite := by
  unfold beside
  split
  · rfl
  · exact isFinite_note _ _
  · rfl

theorem limit_isFinite {narrow : Narrowing} {aside : Shape → Except TypeFault Shape}
    (keeps : KeepsFinite narrow)
    (keepsAside : ∀ s s', aside s = .ok s' → s.isFinite = true → s'.isFinite = true)
    (h : s.limit narrow aside = .ok s') (finite : s.isFinite = true) : s'.isFinite = true := by
  fun_induction limit narrow aside s generalizing s' with
  | case1 s ih =>
    obtain ⟨t, inner, h⟩ := bind_eq_ok.mp h
    obtain rfl := pure_eq_ok.mp h
    exact (ih (mapError_eq_ok.mp inner) finite :)
  | case2 notes s narrowed found =>
    obtain ⟨t, rfl, rfl⟩ := WellFormed.made h
    exact (keeps _ _ found finite :)
  | case3 notes s none => exact keepsAside _ _ h finite
  | case4 s _ _ narrowed found =>
    obtain ⟨t, rfl, rfl⟩ := WellFormed.made h
    exact keeps _ _ found finite
  | case5 s _ _ none => exact keepsAside _ _ h finite

theorem settled_isFinite (h : s.settled = .ok s') (finite : s.isFinite = true) :
    s'.isFinite = true := by
  fun_induction settled s generalizing s'
  case case8 => cases h
  case case9 => exact Except.ok.inj h ▸ finite
  case case10 s ih =>
    obtain ⟨t, inner, h⟩ := bind_eq_ok.mp h
    obtain rfl := pure_eq_ok.mp h
    exact (ih (mapError_eq_ok.mp inner) finite :)
  case case11 notes s ih =>
    obtain ⟨t, inner, h⟩ := bind_eq_ok.mp h
    obtain rfl := pure_eq_ok.mp h
    exact (ih inner finite :)
  case case12 p s ih =>
    obtain ⟨t, inner, h⟩ := bind_eq_ok.mp h
    split at h
    · cases h
    · obtain rfl := pure_eq_ok.mp h
      exact (ih (mapError_eq_ok.mp inner) finite :)
  case case13 b s _ ih =>
    obtain ⟨t, inner, h⟩ := bind_eq_ok.mp h
    obtain rfl := pure_eq_ok.mp h
    exact (ih (mapError_eq_ok.mp inner) finite :)
  case case14 => exact Except.ok.inj h ▸ finite
  all_goals
    obtain ⟨_, _, rfl⟩ := WellFormed.made h
    exact finite

theorem tagMembers_isFinite {field : Text} {tagged members : List (Value × Shape)} {ss : List Shape}
    (h : tagMembers field tagged ss = .ok members) (before : ∀ m ∈ tagged, m.2.isFinite = true)
    (finite : ∀ s ∈ ss, s.isFinite = true) : ∀ m ∈ members, m.2.isFinite = true := by
  induction ss generalizing tagged with
  | nil => exact Except.ok.inj h ▸ before
  | cons s ss ih =>
    obtain ⟨tags, -, h⟩ := bind_eq_ok.mp h
    split at h
    · cases h
    refine ih h ?_ fun t member => finite t (List.mem_cons_of_mem _ member)
    intro m member
    rcases List.mem_append.mp member with member | member
    · exact before m member
    · obtain ⟨t, -, rfl⟩ := List.mem_map.mp member
      exact finite s List.mem_cons_self

theorem discriminate_isFinite {field : Text} (h : s.discriminate field = .ok s')
    (finite : s.isFinite = true) : s'.isFinite = true := by
  fun_induction discriminate field s generalizing s' with
  | case1 members =>
    obtain ⟨ms, found, h⟩ := bind_eq_ok.mp h
    obtain rfl := pure_eq_ok.mp h
    exact areFiniteTagged_iff.mpr (tagMembers_isFinite found (List.forall_mem_nil _) (areFinite_iff.mp finite))
  | case2 s ih =>
    obtain ⟨t, inner, h⟩ := bind_eq_ok.mp h
    obtain rfl := pure_eq_ok.mp h
    exact (ih inner finite :)
  | case3 notes s ih =>
    obtain ⟨t, inner, h⟩ := bind_eq_ok.mp h
    obtain rfl := pure_eq_ok.mp h
    exact (ih inner finite :)
  | case4 s =>
    obtain ⟨ms, found, h⟩ := bind_eq_ok.mp h
    obtain rfl := pure_eq_ok.mp h
    exact areFiniteTagged_iff.mpr (tagMembers_isFinite found (List.forall_mem_nil _) (by simpa using finite))

theorem applyLimit_isFinite {name : Text} {v : Value} (h : s.applyLimit name v = .ok s')
    (forbids : name = "allow_inf_nan" → v.isTruthy = false) (finite : s.isFinite = true) :
    s'.isFinite = true := by
  have put {narrow : Narrowing} {key : Shape → Text} {b : Bound} (keeps : KeepsFinite narrow)
      (h : s.limit narrow (fun s => .ok (beside (noteAs key v) b s)) = .ok s') :
      s'.isFinite = true := by
    refine limit_isFinite keeps ?_ h finite
    rintro s _ ⟨⟩ finite
    rw [isFinite_beside, finite]
  unfold applyLimit at h
  split at h
  case h_6 => exact put (keepsFinite_narrowLength _ v) h
  case h_7 => exact put (keepsFinite_narrowLength _ v) h
  case h_8 => exact put (keepsFinite_narrowDigits _ v) h
  case h_9 => exact put (keepsFinite_narrowDigits _ v) h
  case h_10 named =>
    rw [forbids (Text.eq_ofString named)] at h
    refine limit_isFinite keepsFinite_narrowFinite ?_ h finite
    intro s s' h finite
    split at h
    · exact Except.ok.inj h ▸ finite
    · cases h
  case h_11 =>
    split at h
    · refine limit_isFinite (keepsFinite_narrowPattern _) ?_ h finite
      rintro s _ ⟨⟩ finite
      exact finite
    · exact Except.ok.inj h ▸ finite
  case h_12 =>
    split at h
    · exact discriminate_isFinite h finite
    · exact Except.ok.inj h ▸ finite
  case h_13 => exact Except.ok.inj h ▸ finite
  all_goals exact put (keepsFinite_narrowOrder _) h

/-- An annotation that does not allow them lets no numbers through that are not finite. -/
theorem annotate_isFinite {arguments : List (Text × Value)} (h : s.annotate arguments = .ok s')
    (forbids : ∀ v, argument? arguments "allow_inf_nan" = some v → v.isTruthy = false)
    (finite : s.isFinite = true) : s'.isFinite = true := by
  -- what one step keeps, all of them keep
  have limited (step : Shape → Text → Except TypeFault Shape) (keeps : ∀ {name : Text} {s s' : Shape},
      step s name = .ok s' → s.isFinite = true → s'.isFinite = true) : ∀ (names : List Text) {s s' : Shape},
      names.foldlM step s = .ok s' → s.isFinite = true → s'.isFinite = true := by
    intro names
    induction names with
    | nil => exact fun h finite => pure_eq_ok.mp h ▸ finite
    | cons name names ih =>
      intro s s' h finite
      rw [List.foldlM_cons] at h
      obtain ⟨t, first, h⟩ := bind_eq_ok.mp h
      exact ih h (keeps first finite)
  have noted : ∀ (notes : List (Text × Json)) {s : Shape}, s.isFinite = true →
      (notes.foldl (fun s n => s.note n.1 n.2) s).isFinite = true := by
    intro notes
    induction notes with
    | nil => exact fun finite => finite
    | cons n notes ih => exact fun finite => ih ((isFinite_note _ _).trans finite)
  obtain ⟨limitedShape, limits, h⟩ := bind_eq_ok.mp h
  obtain ⟨settledShape, settles, h⟩ := bind_eq_ok.mp h
  obtain rfl := pure_eq_ok.mp h
  refine noted _ (settled_isFinite settles (limited _ (fun {name s s'} first finite => ?_) _ limits finite))
  split at first
  next v given => exact applyLimit_isFinite first (fun named => forbids v (named ▸ given)) finite
  · exact Except.ok.inj first ▸ finite

end Shape

/-! ### Types -/

namespace TypeExpr

/-- Whether the arguments of an annotated type allow numbers that are not finite. -/
def allowsInfinite (arguments : List (Text × Value)) : Bool :=
  (Shape.argument? arguments "allow_inf_nan").any Value.isTruthy

mutual

/-- Whether a type in a context lets only finite numbers through. -/
def isFinite (context : Context) : TypeExpr → Bool
  | atom a => (atomShape context a).isFinite
  | list t => isFinite context t
  | set t => isFinite context t
  | frozenSet t => isFinite context t
  | tuple ts => areFinite context ts
  | tupleOf t => isFinite context t
  | dict k v => isFinite context k && isFinite context v
  | union ts => areFinite context ts
  | literal vs => vs.all Value.isFinite
  | enum _ members base => ((enumMembers base members).toOption.getD []).all (·.2.isFinite)
  | record kind _ fields =>
    (classContext context kind).1 != .allow && areFiniteFields (classContext context kind).2 fields
  | annotated t arguments => !allowsInfinite arguments && isFinite context t
  | forward _ => false
  | _ => true

def areFinite (context : Context) : List TypeExpr → Bool
  | [] => true
  | t :: ts => isFinite context t && areFinite context ts

def areFiniteFields (context : Context) : List (Text × Presence × TypeExpr) → Bool
  | [] => true
  | (_, presence, t) :: fs =>
    Shape.isFinitePresence presence && isFinite context t && areFiniteFields context fs

end

variable {context : Context}

theorem unionShape_isFinite {hasNone : Bool} {members : List Shape}
    (finite : ∀ s ∈ members, s.isFinite = true) : (unionShape hasNone members).isFinite = true := by
  match members, hasNone with
  | [], true => rfl
  | [], false => rfl
  | [s], true => exact finite s List.mem_cons_self
  | [s], false => exact finite s List.mem_cons_self
  | _ :: _ :: _, true => exact Shape.areFinite_iff.mpr finite
  | _ :: _ :: _, false => exact Shape.areFinite_iff.mpr finite

mutual

/-- **Types of finite numbers** have shapes of finite numbers, if they have shapes. -/
theorem shape_isFinite {context : Context} {s : Shape} (t : TypeExpr) (h : t.shape context = .ok s)
    (finite : t.isFinite context = true) : s.isFinite = true := by
  cases t with
  | atom a => exact Except.ok.inj h ▸ finite
  | list t =>
    rw [shape] at h
    obtain ⟨item, found, h⟩ := bind_eq_ok.mp h
    obtain rfl := pure_eq_ok.mp h
    exact (shape_isFinite t (mapError_eq_ok.mp found) finite :)
  | set t =>
    rw [shape] at h
    obtain ⟨item, found, h⟩ := bind_eq_ok.mp h
    obtain rfl := pure_eq_ok.mp h
    exact (shape_isFinite t (mapError_eq_ok.mp found) finite :)
  | frozenSet t =>
    rw [shape] at h
    obtain ⟨item, found, h⟩ := bind_eq_ok.mp h
    obtain rfl := pure_eq_ok.mp h
    exact (shape_isFinite t (mapError_eq_ok.mp found) finite :)
  | tuple ts =>
    rw [shape] at h
    obtain ⟨items, found, h⟩ := bind_eq_ok.mp h
    obtain rfl := pure_eq_ok.mp h
    exact (Shape.areFinite_iff.mpr (shapes_areFinite ts (mapError_eq_ok.mp found) finite) :)
  | tupleOf t =>
    rw [shape] at h
    obtain ⟨item, found, h⟩ := bind_eq_ok.mp h
    obtain rfl := pure_eq_ok.mp h
    exact (shape_isFinite t (mapError_eq_ok.mp found) finite :)
  | dict k v =>
    rw [shape] at h
    obtain ⟨key, foundKey, h⟩ := bind_eq_ok.mp h
    obtain ⟨value, foundValue, h⟩ := bind_eq_ok.mp h
    obtain rfl := pure_eq_ok.mp h
    have finite := Bool.and_eq_true_iff.mp finite
    exact Bool.and_eq_true_iff.mpr ⟨shape_isFinite k (mapError_eq_ok.mp foundKey) finite.1,
      shape_isFinite v (mapError_eq_ok.mp foundValue) finite.2⟩
  | union ts =>
    rw [shape] at h
    obtain ⟨⟨hasNone, members⟩, found, h⟩ := bind_eq_ok.mp h
    exact pure_eq_ok.mp h ▸
      unionShape_isFinite (unionShapes_areFinite ts (mapError_eq_ok.mp found) finite)
  | literal vs =>
    rw [shape] at h
    split at h
    · cases h
    · exact Except.ok.inj h ▸ finite
  | enum n ms b => exact Except.ok.inj h ▸ finite
  | record kind name fields =>
    rw [shape] at h
    obtain ⟨fieldShapes, found, h⟩ := bind_eq_ok.mp h
    obtain rfl := pure_eq_ok.mp h
    have finite := Bool.and_eq_true_iff.mp finite
    exact Bool.and_eq_true_iff.mpr ⟨finite.1, Shape.areFiniteFields_iff.mpr
      (fieldShapes_areFinite fields (insideClass_eq_ok.mp found) finite.2)⟩
  | self =>
    rw [shape] at h
    split at h
    · exact Except.ok.inj h ▸ rfl
    · cases h
  | annotated t as =>
    rw [shape] at h
    obtain ⟨inner, found, h⟩ := bind_eq_ok.mp h
    have finite := Bool.and_eq_true_iff.mp finite
    refine Shape.annotate_isFinite h (fun v given => ?_) (shape_isFinite t found finite.2)
    have forbids := finite.1
    rw [allowsInfinite, given, Option.any_some, Bool.not_eq_true'] at forbids
    exact forbids
  | undeclared shown => cases h
  | instances c => exact Except.ok.inj h ▸ rfl
  | misused detail => cases h
  | forward t => cases finite

theorem shapes_areFinite {context : Context} {ss : List Shape} (ts : List TypeExpr)
    (h : shapes context ts = .ok ss) (finite : areFinite context ts = true) :
    ∀ s ∈ ss, s.isFinite = true := by
  cases ts with
  | nil => exact Except.ok.inj h ▸ nofun
  | cons t ts =>
    rw [shapes] at h
    obtain ⟨s, found, h⟩ := bind_eq_ok.mp h
    obtain ⟨rest, others, h⟩ := bind_eq_ok.mp h
    obtain rfl := pure_eq_ok.mp h
    have finite := Bool.and_eq_true_iff.mp finite
    exact List.forall_mem_cons.mpr
      ⟨shape_isFinite t found finite.1, shapes_areFinite ts others finite.2⟩

theorem unionShapes_areFinite {context : Context} {hasNone : Bool} {ss : List Shape}
    (ts : List TypeExpr) (h : unionShapes context ts = .ok (hasNone, ss))
    (finite : areFinite context ts = true) : ∀ s ∈ ss, s.isFinite = true := by
  cases ts with
  | nil =>
    cases h
    exact nofun
  | cons t ts =>
    rw [unionShapes] at h
    have finite := Bool.and_eq_true_iff.mp finite
    split at h
    · obtain ⟨⟨_, rest⟩, others, h⟩ := bind_eq_ok.mp h
      cases pure_eq_ok.mp h
      exact unionShapes_areFinite ts others finite.2
    · obtain ⟨s, found, h⟩ := bind_eq_ok.mp h
      obtain ⟨⟨_, rest⟩, others, h⟩ := bind_eq_ok.mp h
      cases pure_eq_ok.mp h
      exact List.forall_mem_cons.mpr
        ⟨shape_isFinite t found finite.1, unionShapes_areFinite ts others finite.2⟩

theorem fieldShapes_areFinite {kind : ClassKind} {context : Context}
    {fs : List (Text × Presence × Shape)} (fields : List (Text × Presence × TypeExpr))
    (h : fieldShapes kind context fields = .ok fs) (finite : areFiniteFields context fields = true) :
    ∀ f ∈ fs, Shape.isFinitePresence f.2.1 = true ∧ f.2.2.isFinite = true := by
  match fields with
  | [] => exact Except.ok.inj h ▸ nofun
  | (name, presence, t) :: fields =>
    rw [fieldShapes] at h
    have finite := Bool.and_eq_true_iff.mp finite
    have first := Bool.and_eq_true_iff.mp finite.1
    split at h
    · obtain ⟨s, found, h⟩ := bind_eq_ok.mp h
      obtain ⟨rest, others, h⟩ := bind_eq_ok.mp h
      obtain rfl := pure_eq_ok.mp h
      exact List.forall_mem_cons.mpr ⟨⟨first.1, shape_isFinite t (mapError_eq_ok.mp found) first.2⟩,
        fieldShapes_areFinite fields others finite.2⟩
    · exact fieldShapes_areFinite fields h finite.2

end

end TypeExpr

end GuardedTools
