import GuardedTools.Proofs.Shape.Depth
import GuardedTools.Proofs.Tool.Made
import GuardedTools.Tool.Definition

/-!
# What comes of building a declaration

Building a candidate comes to a descriptor, to a mistake of its author that is told as one, or to another
fault (`Descriptor.build_cases`).  The other faults have few causes (`Candidate.Escapes`): a function that wraps
a class that is built in, a literal without values, an annotation with limits that cannot be put to use, a
reference among published data, and a published schema that is not written or is too deep to have a name.
Texts that stand for types and classes that hold themselves are no such cause.
-/

namespace GuardedTools

/-! ### Faults of types -/

namespace TypeFault

/-- Whether a fault is told as it is, and not as a mistake. -/
def escapes : TypeFault → Bool
  | emptyLiteral => true
  | unusable _ => true
  | misapplied _ _ => true
  | _ => false

/-- What a fault of a part is told as by the types around the part. -/
inductive IsTold (fault : TypeFault) : TypeFault → Prop where
  | self : IsTold fault fault
  | within {told : TypeFault} (kind : Text) (inner : IsTold fault told) : IsTold fault (told.within kind)
  | ofField {told : TypeFault} (name : Text) (inner : IsTold fault told) : IsTold fault (told.ofField name)

variable {fault : TypeFault}

@[simp] theorem escapes_within (fault : TypeFault) (kind : Text) :
    (fault.within kind).escapes = fault.escapes := by
  cases fault <;> rfl

@[simp] theorem escapes_ofField (fault : TypeFault) (name : Text) :
    (fault.ofField name).escapes = fault.escapes := by
  cases fault <;> rfl

end TypeFault

namespace TypeExpr

/-- A type is a part of another one. -/
inductive Within (u : TypeExpr) : TypeExpr → Prop where
  | self : Within u u
  | list {t : TypeExpr} (item : Within u t) : Within u (list t)
  | set {t : TypeExpr} (item : Within u t) : Within u (set t)
  | frozenSet {t : TypeExpr} (item : Within u t) : Within u (frozenSet t)
  | tuple {t : TypeExpr} {ts : List TypeExpr} (member : t ∈ ts) (item : Within u t) : Within u (tuple ts)
  | tupleOf {t : TypeExpr} (item : Within u t) : Within u (tupleOf t)
  | key {k v : TypeExpr} (key : Within u k) : Within u (dict k v)
  | value {k v : TypeExpr} (value : Within u v) : Within u (dict k v)
  | union {t : TypeExpr} {ts : List TypeExpr} (member : t ∈ ts) (item : Within u t) : Within u (union ts)
  | field {kind : ClassKind} {name : Text} {fields : List (Text × Presence × TypeExpr)}
    {f : Text × Presence × TypeExpr} (member : f ∈ fields) (item : Within u f.2.2) :
    Within u (record kind name fields)
  | annotated {t : TypeExpr} {as : List (Text × Value)} (item : Within u t) : Within u (annotated t as)

/-- Whether there is a limit among the arguments of an annotation. -/
def HasLimit (as : List (Text × Value)) : Prop :=
  ∃ name ∈ Shape.limitNames, ∃ v, Shape.argument? as name = some v

/-- Where in a type a fault is from that is told as it is: a literal without values, or an annotation with
limits that cannot be put on what it annotates. -/
inductive Origin (t : TypeExpr) : TypeFault → Prop where
  | literal (part : (literal []).Within t) : Origin t .emptyLiteral
  | limit {u : TypeExpr} {as : List (Text × Value)} {context : Context} {s : Shape} {fault told : TypeFault}
    (part : (annotated u as).Within t) (shaped : u.shape context = .ok s) (limits : HasLimit as)
    (refused : s.annotate as = .error fault) (isTold : fault.IsTold told) : Origin t told

variable {t u : TypeExpr} {fault : TypeFault}

theorem Origin.imp (parts : ∀ v : TypeExpr, v.Within u → v.Within t) (h : Origin u fault) :
    Origin t fault := by
  cases h with
  | literal part => exact .literal (parts _ part)
  | limit part shaped limits refused told => exact .limit (parts _ part) shaped limits refused told

theorem Origin.within (kind : Text) (h : Origin t fault) : Origin t (fault.within kind) := by
  cases h with
  | literal part => exact .literal part
  | limit part shaped limits refused told => exact .limit part shaped limits refused (told.within kind)

theorem Origin.ofField (name : Text) (h : Origin t fault) : Origin t (fault.ofField name) := by
  cases h with
  | literal part => exact .literal part
  | limit part shaped limits refused told => exact .limit part shaped limits refused (told.ofField name)

end TypeExpr

/-! ### Annotations without limits -/

namespace Shape

/-- A shape all limits of which are values of the kinds that they limit. -/
def Settled (s : Shape) : Prop := s.settled = .ok s

theorem settledLimit_again {coerce : Text → Value → Except Text Value} {name : Text} {l l' : Option Limit}
    (h : settledLimit coerce name l = .ok l') : settledLimit coerce name l' = .ok l' := by
  cases l with
  | none => exact Except.ok.inj h ▸ rfl
  | some l =>
    obtain ⟨v, coerced, h⟩ := bind_eq_ok.mp h
    obtain rfl := pure_eq_ok.mp h
    exact bind_eq_ok.mpr ⟨v, coerced, rfl⟩

theorem settledOrder_eq_ok {coerce : Text → Value → Except Text Value} {l l' : Limits} :
    settledOrder coerce l = .ok l' ↔ settledLimit coerce "le" l.atMost = .ok l'.atMost ∧
      settledLimit coerce "lt" l.below = .ok l'.below ∧
      settledLimit coerce "ge" l.atLeast = .ok l'.atLeast ∧
      settledLimit coerce "gt" l.above = .ok l'.above ∧ l'.multipleOf = l.multipleOf := by
  unfold settledOrder
  simp only [bind_eq_ok, pure_eq_ok]
  constructor
  · rintro ⟨atMost, first, below, second, atLeast, third, above, fourth, rfl⟩
    exact ⟨first, second, third, fourth, rfl⟩
  · rintro ⟨first, second, third, fourth, same⟩
    exact ⟨_, first, _, second, _, third, _, fourth, by rw [← same]⟩

theorem settledOrder_again {coerce : Text → Value → Except Text Value} {l l' : Limits}
    (h : settledOrder coerce l = .ok l') : settledOrder coerce l' = .ok l' := by
  obtain ⟨atMost, below, atLeast, above, -⟩ := settledOrder_eq_ok.mp h
  exact settledOrder_eq_ok.mpr ⟨settledLimit_again atMost, settledLimit_again below,
    settledLimit_again atLeast, settledLimit_again above, rfl⟩

theorem settledLimits_again {coerce : Text → Value → Except Text Value} {l l' : Limits}
    (h : settledLimits coerce l = .ok l') : settledLimits coerce l' = .ok l' := by
  obtain ⟨multipleOf, found, h⟩ := bind_eq_ok.mp h
  split at h
  · cases h
  next divisor =>
    obtain ⟨order, ordered, h⟩ := bind_eq_ok.mp h
    obtain rfl := pure_eq_ok.mp h
    refine bind_eq_ok.mpr ⟨multipleOf, settledLimit_again found, ?_⟩
    rw [if_neg divisor]
    refine bind_eq_ok.mpr ⟨{ order with multipleOf }, ?_, rfl⟩
    obtain ⟨atMost, below, atLeast, above, -⟩ := settledOrder_eq_ok.mp ordered
    exact settledOrder_eq_ok.mpr ⟨settledLimit_again atMost, settledLimit_again below,
      settledLimit_again atLeast, settledLimit_again above, rfl⟩

theorem settledDecimal_again {finite : Bool} {digits : DigitLimits} {l l' : Limits}
    (h : settledDecimal finite digits l = .ok l') : settledDecimal finite digits l' = .ok l' := by
  unfold settledDecimal at h ⊢
  split at h
  · cases h
  next allowed =>
    rw [if_neg allowed]
    exact settledLimits_again h

theorem made_again {β : Type} {kind : Text} {make : Limits → β} {settle : Limits → Except Text Limits}
    {l : Limits} {b : β} (again : ∀ {l'}, settle l = .ok l' → settle l' = .ok l')
    (h : made kind make (settle l) = .ok b) : ∃ l', make l' = b ∧ made kind make (settle l') = .ok (make l') := by
  cases done : settle l with
  | error detail =>
    rw [done] at h
    cases h
  | ok l' =>
    rw [done] at h
    refine ⟨l', Except.ok.inj h, ?_⟩
    rw [again done]
    rfl

/-- Limits that were made values of a kind stay what they are. -/
theorem settled_again {s s' : Shape} (h : s.settled = .ok s') : s'.Settled := by
  unfold Settled
  fun_induction settled s generalizing s' with
  | case1 l | case2 f l =>
    obtain ⟨l', rfl, again⟩ := made_again settledLimits_again h
    rw [settled, again]
  | case3 f d l =>
    obtain ⟨l', rfl, again⟩ := made_again settledDecimal_again h
    rw [settled, again]
  | case4 l | case5 l | case6 l | case7 l =>
    obtain ⟨l', rfl, again⟩ := made_again settledOrder_again h
    rw [settled, again]
  | case8 l p fault => cases h
  | case9 l p right =>
    cases h
    rw [settled, right]
  | case10 s ih =>
    obtain ⟨inner, found, h⟩ := bind_eq_ok.mp h
    obtain rfl := pure_eq_ok.mp h
    rw [settled, ih (mapError_eq_ok.mp found)]
    rfl
  | case11 notes s ih =>
    obtain ⟨inner, found, h⟩ := bind_eq_ok.mp h
    obtain rfl := pure_eq_ok.mp h
    rw [settled, ih found]
    rfl
  | case12 p s ih =>
    obtain ⟨inner, found, h⟩ := bind_eq_ok.mp h
    split at h
    · cases h
    next right =>
      obtain rfl := pure_eq_ok.mp h
      rw [settled, ih (mapError_eq_ok.mp found), right]
      rfl
  | case13 b s other ih =>
    obtain ⟨inner, found, h⟩ := bind_eq_ok.mp h
    obtain rfl := pure_eq_ok.mp h
    rw [settled, ih (mapError_eq_ok.mp found)]
    · rfl
    · exact other
  | case14 s =>
    cases h
    rw [settled] <;> assumption

theorem Settled.note {s : Shape} (key : Text) (value : Json) (h : s.Settled) : (s.note key value).Settled := by
  unfold Shape.note
  split
  next notes inner =>
    obtain ⟨_, found, same⟩ := bind_eq_ok.mp h
    cases pure_eq_ok.mp same
    rw [Settled, settled, found]
    rfl
  next =>
    rw [Settled, settled, h]
    rfl

theorem settled_annotate {s s' : Shape} {as : List (Text × Value)} (h : s.annotate as = .ok s') : s'.Settled := by
  obtain ⟨limited, -, h⟩ := bind_eq_ok.mp h
  obtain ⟨settled, found, h⟩ := bind_eq_ok.mp h
  obtain rfl := pure_eq_ok.mp h
  have noted : ∀ (notes : List (Text × Json)) (s : Shape), s.Settled →
      (notes.foldl (fun s n => s.note n.1 n.2) s).Settled := by
    intro notes
    induction notes with
    | nil => exact fun s h => h
    | cons n notes ih => exact fun s h => ih _ (h.note n.1 n.2)
  exact noted _ _ (settled_again found)

/-- Steps that change nothing come to where they began. -/
theorem foldlM_of_forall {step : Shape → Text → Except TypeFault Shape} {s : Shape} {names : List Text}
    (still : ∀ name ∈ names, step s name = .ok s) : names.foldlM step s = .ok s := by
  induction names with
  | nil => rfl
  | cons name names ih =>
    rw [List.forall_mem_cons] at still
    rw [List.foldlM_cons, still.1]
    exact ih still.2

/-- An annotation that fails has a limit. -/
theorem hasLimit_of_annotate {s : Shape} {as : List (Text × Value)} {fault : TypeFault} (settled : s.Settled)
    (h : s.annotate as = .error fault) : TypeExpr.HasLimit as := by
  by_contra none
  have absent : ∀ name ∈ limitNames, argument? as name = Option.none := fun name member =>
    Option.eq_none_iff_forall_not_mem.mpr fun v found => none ⟨name, member, v, found⟩
  rcases bind_eq_error.mp h with h | ⟨_, same, h⟩
  · rw [foldlM_of_forall fun name member => by rw [absent name member]] at h
    cases h
  rw [foldlM_of_forall fun name member => by rw [absent name member]] at same
  obtain rfl := Except.ok.inj same
  rcases bind_eq_error.mp h with h | ⟨_, -, h⟩
  · rw [settled] at h
    cases h
  · cases h

end Shape

/-! ### Where faults are from -/

namespace TypeExpr

theorem settled_atomShape (context : Context) (a : AtomType) : (atomShape context a).Settled := by
  cases a <;> rfl

theorem settled_unionShape {hasNone : Bool} {members : List Shape} (h : ∀ s ∈ members, s.Settled) :
    (unionShape hasNone members).Settled := by
  obtain _ | ⟨s, _ | ⟨s', ss⟩⟩ := members
  · cases hasNone <;> rfl
  · have single : s.settled = .ok s := h s List.mem_cons_self
    cases hasNone with
    | false => exact single
    | true =>
      show (Shape.nullable s).settled = _
      rw [Shape.settled, single]
      rfl
  · cases hasNone <;> rfl

mutual

/-- In the shape of a type all limits are values of the kinds that they limit. -/
theorem settled_of_shape {context : Context} {s : Shape} (t : TypeExpr) (h : t.shape context = .ok s) :
    s.Settled := by
  cases t with
  | atom a => exact Except.ok.inj h ▸ settled_atomShape context a
  | list t | set t | frozenSet t | tuple ts | tupleOf t =>
    rw [shape] at h
    obtain ⟨_, -, h⟩ := bind_eq_ok.mp h
    exact pure_eq_ok.mp h ▸ rfl
  | dict k v =>
    rw [shape] at h
    obtain ⟨_, -, h⟩ := bind_eq_ok.mp h
    obtain ⟨_, -, h⟩ := bind_eq_ok.mp h
    exact pure_eq_ok.mp h ▸ rfl
  | union ts =>
    rw [shape] at h
    obtain ⟨⟨hasNone, members⟩, found, h⟩ := bind_eq_ok.mp h
    exact pure_eq_ok.mp h ▸ settled_unionShape (settled_of_unionShapes ts (mapError_eq_ok.mp found))
  | literal vs =>
    rw [shape] at h
    split at h
    · cases h
    · exact Except.ok.inj h ▸ rfl
  | enum n ms b => exact Except.ok.inj h ▸ rfl
  | record kind name fields =>
    rw [shape] at h
    obtain ⟨_, -, h⟩ := bind_eq_ok.mp h
    exact pure_eq_ok.mp h ▸ rfl
  | self =>
    rw [shape] at h
    split at h
    · exact Except.ok.inj h ▸ rfl
    · cases h
  | annotated t as =>
    rw [shape] at h
    obtain ⟨inner, -, h⟩ := bind_eq_ok.mp h
    exact Shape.settled_annotate h
  | undeclared shown => cases h
  | instances c => exact Except.ok.inj h ▸ rfl
  | misused detail => cases h
  | forward t =>
    rw [shape] at h
    split at h
    · cases h
    · exact Except.ok.inj h ▸ rfl

theorem settled_of_unionShapes {context : Context} {hasNone : Bool} {ss : List Shape} (ts : List TypeExpr)
    (h : unionShapes context ts = .ok (hasNone, ss)) : ∀ s ∈ ss, s.Settled := by
  cases ts with
  | nil =>
    cases h
    exact List.forall_mem_nil _
  | cons t ts =>
    rw [unionShapes] at h
    split at h
    · obtain ⟨⟨_, rest⟩, others, h⟩ := bind_eq_ok.mp h
      cases pure_eq_ok.mp h
      exact settled_of_unionShapes ts others
    · obtain ⟨s, found, h⟩ := bind_eq_ok.mp h
      obtain ⟨⟨_, rest⟩, others, h⟩ := bind_eq_ok.mp h
      cases pure_eq_ok.mp h
      exact List.forall_mem_cons.mpr ⟨settled_of_shape t found, settled_of_unionShapes ts others⟩

end

/-- A fault of parts is from where the fault in the parts is from. -/
theorem origin_inside {α : Type} {kind : Text} {parts : Except TypeFault α}
    (h : inside kind parts = .error fault) (escapes : fault.escapes = true)
    (origin : ∀ {fault}, parts = .error fault → fault.escapes = true → Origin t fault) : Origin t fault := by
  obtain ⟨inner, failed, rfl⟩ := mapError_eq_error.mp h
  rw [TypeFault.escapes_within] at escapes
  exact (origin failed escapes).within kind

theorem origin_insideClass {α : Type} {kind : ClassKind} {fields : Except TypeFault α}
    (h : insideClass kind fields = .error fault) (escapes : fault.escapes = true)
    (origin : ∀ {fault}, fields = .error fault → fault.escapes = true → Origin t fault) : Origin t fault := by
  cases kind with
  | model options => exact origin_inside h escapes fun h escapes => origin_inside h escapes origin
  | dataclass => exact origin_inside h escapes fun h escapes => origin_inside h escapes origin
  | typedDict => exact origin_inside h escapes origin

mutual

/-- A fault that is told as it is is from a literal without values or from limits. -/
theorem origin_of_shape {context : Context} {fault : TypeFault} (t : TypeExpr)
    (h : t.shape context = .error fault) (escapes : fault.escapes = true) : Origin t fault := by
  cases t with
  | atom a | enum n ms b | instances c => cases h
  | undeclared shown | misused detail =>
    cases h
    cases escapes
  | list t =>
    rw [shape] at h
    refine origin_inside (error_of_bind_pure h) escapes fun h escapes => ?_
    exact (origin_of_shape t h escapes).imp fun _ => .list
  | set t =>
    rw [shape] at h
    refine origin_inside (error_of_bind_pure h) escapes fun h escapes => ?_
    exact (origin_of_shape t h escapes).imp fun _ => .set
  | frozenSet t =>
    rw [shape] at h
    refine origin_inside (error_of_bind_pure h) escapes fun h escapes => ?_
    exact (origin_of_shape t h escapes).imp fun _ => .frozenSet
  | tuple ts =>
    rw [shape] at h
    refine origin_inside (error_of_bind_pure h) escapes fun h escapes => ?_
    obtain ⟨t, member, origin⟩ := origin_of_shapes ts h escapes
    exact origin.imp fun _ => .tuple member
  | tupleOf t =>
    rw [shape] at h
    refine origin_inside (error_of_bind_pure h) escapes fun h escapes => ?_
    exact (origin_of_shape t h escapes).imp fun _ => .tupleOf
  | dict k v =>
    rw [shape] at h
    rcases bind_eq_error.mp h with h | ⟨_, -, h⟩
    · refine origin_inside h escapes fun h escapes => ?_
      exact (origin_of_shape k h escapes).imp fun _ => .key
    · refine origin_inside (error_of_bind_pure h) escapes fun h escapes => ?_
      exact (origin_of_shape v h escapes).imp fun _ => .value
  | union ts =>
    rw [shape] at h
    refine origin_inside (error_of_bind_pure h) escapes fun h escapes => ?_
    obtain ⟨t, member, origin⟩ := origin_of_unionShapes ts h escapes
    exact origin.imp fun _ => .union member
  | literal vs =>
    rw [shape] at h
    split at h
    next none =>
      cases h
      rw [List.isEmpty_iff.mp none]
      exact .literal .self
    next => cases h
  | record kind name fields =>
    rw [shape] at h
    refine origin_insideClass (error_of_bind_pure h) escapes fun h escapes => ?_
    obtain ⟨f, member, origin⟩ := origin_of_fieldShapes fields h escapes
    exact origin.imp fun _ => .field member
  | self =>
    rw [shape] at h
    split at h
    · cases h
    · cases h
      cases escapes
  | annotated t as =>
    rw [shape] at h
    rcases bind_eq_error.mp h with h | ⟨s, shaped, h⟩
    · exact (origin_of_shape t h escapes).imp fun _ => .annotated
    · exact .limit .self shaped (Shape.hasLimit_of_annotate (settled_of_shape t shaped) h) h .self
  | forward t =>
    rw [shape] at h
    split at h
    · cases h
      cases escapes
    · cases h

theorem origin_of_shapes {context : Context} {fault : TypeFault} (ts : List TypeExpr)
    (h : shapes context ts = .error fault) (escapes : fault.escapes = true) : ∃ t ∈ ts, Origin t fault := by
  cases ts with
  | nil => cases h
  | cons t ts =>
    rw [shapes] at h
    refine (List.exists_mem_cons_iff _ _ _).mpr ?_
    rcases bind_eq_error.mp h with h | ⟨_, -, h⟩
    · exact Or.inl (origin_of_shape t h escapes)
    · exact Or.inr (origin_of_shapes ts (error_of_bind_pure h) escapes)

theorem origin_of_unionShapes {context : Context} {fault : TypeFault} (ts : List TypeExpr)
    (h : unionShapes context ts = .error fault) (escapes : fault.escapes = true) :
    ∃ t ∈ ts, Origin t fault := by
  cases ts with
  | nil => cases h
  | cons t ts =>
    rw [unionShapes] at h
    refine (List.exists_mem_cons_iff _ _ _).mpr ?_
    split at h
    · exact Or.inr (origin_of_unionShapes ts (error_of_bind_pure h) escapes)
    · rcases bind_eq_error.mp h with h | ⟨_, -, h⟩
      · exact Or.inl (origin_of_shape t h escapes)
      · exact Or.inr (origin_of_unionShapes ts (error_of_bind_pure h) escapes)

theorem origin_of_fieldShapes {kind : ClassKind} {context : Context} {fault : TypeFault}
    (fields : List (Text × Presence × TypeExpr)) (h : fieldShapes kind context fields = .error fault)
    (escapes : fault.escapes = true) : ∃ f ∈ fields, Origin f.2.2 fault := by
  match fields with
  | [] => cases h
  | (name, presence, t) :: fields =>
    rw [fieldShapes] at h
    refine (List.exists_mem_cons_iff _ _ _).mpr ?_
    split at h
    · rcases bind_eq_error.mp h with h | ⟨_, -, h⟩
      · obtain ⟨inner, failed, rfl⟩ := mapError_eq_error.mp h
        rw [TypeFault.escapes_ofField] at escapes
        exact Or.inl ((origin_of_shape t failed escapes).ofField name)
      · exact Or.inr (origin_of_fieldShapes fields (error_of_bind_pure h) escapes)
    · exact Or.inr (origin_of_fieldShapes fields h escapes)

end

end TypeExpr

/-! ### Schemas -/

namespace Shape

variable {reference : Text}

mutual

/-- A shape that is not published has a part without a schema; nothing stands as a reference in it. -/
theorem published_ne_dangling {ds : Definitions} (s : Shape) : published ds s ≠ .error (.dangling reference) := by
  intro h
  cases s with
  | callable | instances c => cases h
  | list s l | set frozen s l | tupleOf s l | noted notes s =>
    rw [published] at h
    exact published_ne_dangling s (error_of_bind_pure h)
  | nullable s =>
    rw [published] at h
    exact published_ne_dangling s (error_of_bind_pure h)
  | tuple ss l =>
    rw [published] at h
    exact publishedAll_ne_dangling ss (error_of_bind_pure h)
  | dict k v l =>
    rw [published] at h
    rcases bind_eq_error.mp h with h | ⟨_, -, h⟩
    · exact published_ne_dangling k h
    · exact published_ne_dangling v (error_of_bind_pure h)
  | enum name ms b =>
    rw [published] at h
    split at h <;> cases h
  | record kind name extra fs =>
    rw [published] at h
    exact publishedFields_ne_dangling fs (error_of_bind_pure h)
  | bounded b s => exact published_ne_dangling s h
  | _ => cases h

theorem publishedAll_ne_dangling {ds : Definitions} (ss : List Shape) :
    publishedAll ds ss ≠ .error (.dangling reference) := by
  intro h
  cases ss with
  | nil => cases h
  | cons s ss =>
    rw [publishedAll] at h
    rcases bind_eq_error.mp h with h | ⟨_, -, h⟩
    · exact published_ne_dangling s h
    · exact publishedAll_ne_dangling ss (error_of_bind_pure h)

theorem publishedFields_ne_dangling {ds : Definitions} (fs : List (Text × Presence × Shape)) :
    publishedFields ds fs ≠ .error (.dangling reference) := by
  intro h
  match fs with
  | [] => cases h
  | (name, presence, s) :: fs =>
    rw [publishedFields] at h
    rcases bind_eq_error.mp h with h | ⟨_, -, h⟩
    · exact published_ne_dangling s h
    · exact publishedFields_ne_dangling fs (error_of_bind_pure h)

end

end Shape

/-! ### Functions -/

namespace Function

/-- A type that a function declares, with the texts in it read. -/
inductive Declares (f : Function) (t : TypeExpr) : Prop where
  | parameter {p : Parameter} {u : TypeExpr} (member : p ∈ f.parameters) (typed : p.type = some u)
    (resolved : u.resolve = .ok t)
  | result {u : TypeExpr} (typed : f.result = some u) (resolved : u.resolve = .ok t)

/-- What is published of a function: its types, and the class of its arguments. -/
inductive Publishes (f : Function) : Shape → Prop where
  | type {t : TypeExpr} {s : Shape} (declared : f.Declares t) (shaped : t.shape .plain = .ok s) :
    Publishes f s
  | arguments {name : Text} {hints : Hints} {s : Shape} (hinted : f.hints = .ok hints)
    (shaped : f.argumentsShape name hints = .ok s) : Publishes f s

/-- What may come of building a function beside a descriptor and a mistake. -/
inductive Escapes (f : Function) : BuildFailure → Prop where
  /-- A class among its types is none. -/
  | noClass {t : TypeExpr} {fault : ClassFault} (declared : f.Declares t) (faulty : t.fault? = some fault) :
    Escapes f (.noClass fault)
  /-- A type has a literal without values or limits that cannot be put to use. -/
  | type {t : TypeExpr} {fault : TypeFault} (declared : f.Declares t) (origin : t.Origin fault) :
    Escapes f (.type fault)
  /-- Something stands as a reference among the data of a type. -/
  | dangling {s : Shape} {j : Json} {reference : Text} (published : f.Publishes s) (data : j ∈ s.publishedData)
    (found : reference ∈ Definitions.referenceTexts j) (here : Shape.leadsAway reference = false) :
    Escapes f (.dangling reference)
  /-- A number in a schema has too many digits to be written. -/
  | tooManyDigits {s : Shape} {doc : Json} {n : Int} (published : f.Publishes s) (schema : s.schema = .ok doc)
    (among : n ∈ doc.integers) (long : Json.isWritten n = false) : Escapes f .tooManyDigits
  /-- A schema is nested too deeply. -/
  | tooDeep {s : Shape} {doc : Json} (published : f.Publishes s) (schema : s.schema = .ok doc)
    (deep : TypeTag.depthLimit ≤ doc.depth) : Escapes f .tooDeep

variable {f : Function}

end Function

/-! ### Descriptors -/

namespace TypeTag

end TypeTag

namespace Descriptor

variable {f : Function} {e : BuildFailure}

end Descriptor

/-! ### Candidates -/

namespace Candidate

/-- A call of a candidate ends in a class that is built in, which does not say what it is called with. -/
inductive EndsIn (name : Text) : Candidate → Prop where
  | classObject : EndsIn name (classObject (some "builtins") name)
  | function {c : Candidate} (f : Function) (mark : Option Mark) (wrapped : EndsIn name c) :
    EndsIn name (function f (some c) mark)
  | staticMethod {c : Candidate} (mark : Option Mark) (member : EndsIn name c) :
    EndsIn name (staticMethod c mark)
  | classMethod {c : Candidate} (member : EndsIn name c) : EndsIn name (classMethod c)
  | partialCall {c : Candidate} (called : EndsIn name c) : EndsIn name (partialCall c)

variable {c : Candidate} {name : Text}

theorem unsigned?_eq_some : c.unsigned? = some name ↔ c.EndsIn name := by
  constructor
  · intro h
    fun_induction unsigned? c with
    | case1 m n builtin =>
      cases h
      rw [eq_of_beq builtin]
      exact .classObject
    | case2 m n other => cases h
    | case3 f c mark ih => exact .function f mark (ih h)
    | case4 c mark ih => exact .staticMethod mark (ih h)
    | case5 c ih => exact .classMethod (ih h)
    | case6 c ih => exact .partialCall (ih h)
    | case7 => cases h
  · intro h
    induction h with
    | classObject => rfl
    | function f mark wrapped ih => exact ih
    | staticMethod mark member ih => exact ih
    | classMethod member ih => exact ih
    | partialCall called ih => exact ih

/-- A candidate is a function of a kind that may be a tool, and a wrapper of a thing that ends in a class
that is built in. -/
def WrapsBuiltin (c : Candidate) (className : Text) : Prop :=
  ∃ f wrapped mark, c.unwrapStatic.1 = .function f (some wrapped) mark ∧
    f.checkKind c.label c.unwrapStatic.2 = .ok () ∧ wrapped.EndsIn className

/-- What may come of building a candidate beside a descriptor and a mistake. -/
inductive Escapes (c : Candidate) : BuildFailure → Prop where
  /-- It is not known what the function is called with. -/
  | noSignature {className : Text} (wraps : c.WrapsBuiltin className) : Escapes c (.noSignature className)
  /-- Something is the matter with the function. -/
  | function {f : Function} {e : BuildFailure} (eligible : c.eligible = .ok f) (escapes : f.Escapes e) :
    Escapes c e

theorem signed_function (f : Function) (wrapped : Option Candidate) (mark : Option Mark) :
    (function f wrapped mark).signed = match wrapped.bind unsigned? with
      | some className => .error (.noSignature className)
      | none => .ok () := by
  cases wrapped <;> rfl

theorem WrapsBuiltin.eligible {className : Text} (h : c.WrapsBuiltin className) :
    c.eligible = .error (.noSignature className) := by
  obtain ⟨f, wrapped, mark, inner, kind, ends⟩ := h
  unfold Candidate.eligible
  dsimp only
  rw [inner]
  dsimp only
  rw [kind, signed_function, Option.bind_some, unsigned?_eq_some.mpr ends]
  rfl

end Candidate

namespace Descriptor

end Descriptor

end GuardedTools
