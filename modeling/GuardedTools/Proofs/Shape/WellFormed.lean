import GuardedTools.Proofs.Basic
import GuardedTools.Proofs.Json.Members
import GuardedTools.Proofs.Text
import GuardedTools.Shape.OfType

/-!
# Shapes of types are well-formed

A shape of a type names the class it is a field of only within a class, and publishes notes only under
the keys that annotations have (`Shape.WellFormed`).  Annotations keep this, each argument at a time
(`Shape.WellFormed.annotate`), and so every type has a well-formed shape (`TypeExpr.shape_wellFormed`), by
recursion on the type.
-/

namespace GuardedTools

/-- A text that is a string is the text of that string. -/
theorem Text.eq_ofString {t : Text} {s : String} (h : t.toString? = some s) :
    t = Text.ofString s := by
  obtain ⟨cs, scalars, rfl⟩ := Option.map_eq_some_iff.mp h
  rw [Text.ofString, String.toList_ofList, Text.eq_ofChars scalars]
  rfl

namespace Shape

/-- The keys of what an annotation publishes beside the shape that it annotates. -/
def noteKeys : List Text :=
  ["title", "description", "examples", "ge", "gt", "le", "lt", "multiple_of", "minItems", "minLength",
    "maxItems", "maxLength", "max_digits", "decimal_places"]

/-- Whether a shape has no parts. -/
def isLeaf : Shape → Bool
  | list _ _ => false
  | set _ _ _ => false
  | tuple _ _ => false
  | tupleOf _ _ => false
  | dict _ _ _ => false
  | nullable _ => false
  | union _ => false
  | tagged _ _ => false
  | record _ _ _ _ => false
  | self => false
  | noted _ _ => false
  | bounded _ _ => false
  | _ => true

/-- A shape names its class only within one, and has notes under the keys of notes only. -/
inductive WellFormed : Bool → Shape → Prop where
  | leaf {inClass : Bool} {s : Shape} (leaf : s.isLeaf) : WellFormed inClass s
  | list {inClass : Bool} {s : Shape} {l : LengthLimits} (item : WellFormed inClass s) :
    WellFormed inClass (list s l)
  | set {inClass frozen : Bool} {s : Shape} {l : LengthLimits} (item : WellFormed inClass s) :
    WellFormed inClass (set frozen s l)
  | tuple {inClass : Bool} {ss : List Shape} {l : LengthLimits}
    (items : ∀ s ∈ ss, WellFormed inClass s) : WellFormed inClass (tuple ss l)
  | tupleOf {inClass : Bool} {s : Shape} {l : LengthLimits} (item : WellFormed inClass s) :
    WellFormed inClass (tupleOf s l)
  | dict {inClass : Bool} {k v : Shape} {l : LengthLimits} (key : WellFormed inClass k)
    (value : WellFormed inClass v) : WellFormed inClass (dict k v l)
  | nullable {inClass : Bool} {s : Shape} (inner : WellFormed inClass s) :
    WellFormed inClass (nullable s)
  | union {inClass : Bool} {ss : List Shape} (members : ∀ s ∈ ss, WellFormed inClass s) :
    WellFormed inClass (union ss)
  | tagged {inClass : Bool} {field : Text} {ms : List (Value × Shape)}
    (members : ∀ m ∈ ms, WellFormed inClass m.2) : WellFormed inClass (tagged field ms)
  | record {inClass : Bool} {kind : ClassKind} {name : Text} {extra : Extra}
    {fs : List (Text × Presence × Shape)} (fields : ∀ f ∈ fs, WellFormed true f.2.2) :
    WellFormed inClass (record kind name extra fs)
  | self : WellFormed true self
  | noted {inClass : Bool} {notes : List (Text × Json)} {s : Shape}
    (keys : ∀ m ∈ notes, m.1 ∈ noteKeys) (inner : WellFormed inClass s) :
    WellFormed inClass (noted notes s)
  | bounded {inClass : Bool} {b : Bound} {s : Shape} (inner : WellFormed inClass s) :
    WellFormed inClass (bounded b s)

namespace WellFormed

variable {inClass : Bool} {s s' : Shape}

theorem of_noted {notes : List (Text × Json)} (h : (Shape.noted notes s).WellFormed inClass) :
    (∀ m ∈ notes, m.1 ∈ noteKeys) ∧ s.WellFormed inClass := by
  cases h with
  | leaf leaf => cases leaf
  | noted keys inner => exact ⟨keys, inner⟩

theorem of_nullable (h : (Shape.nullable s).WellFormed inClass) : s.WellFormed inClass := by
  cases h with
  | leaf leaf => cases leaf
  | nullable inner => exact inner

theorem of_bounded {b : Bound} (h : (Shape.bounded b s).WellFormed inClass) :
    s.WellFormed inClass := by
  cases h with
  | leaf leaf => cases leaf
  | bounded inner => exact inner

theorem of_union {ss : List Shape} (h : (Shape.union ss).WellFormed inClass) :
    ∀ s ∈ ss, s.WellFormed inClass := by
  cases h with
  | leaf leaf => cases leaf
  | union members => exact members

theorem of_list {l : LengthLimits} (h : (Shape.list s l).WellFormed inClass) :
    s.WellFormed inClass := by
  cases h with
  | leaf leaf => cases leaf
  | list item => exact item

theorem of_set {frozen : Bool} {l : LengthLimits} (h : (Shape.set frozen s l).WellFormed inClass) :
    s.WellFormed inClass := by
  cases h with
  | leaf leaf => cases leaf
  | set item => exact item

theorem of_tuple {ss : List Shape} {l : LengthLimits} (h : (Shape.tuple ss l).WellFormed inClass) :
    ∀ s ∈ ss, s.WellFormed inClass := by
  cases h with
  | leaf leaf => cases leaf
  | tuple items => exact items

theorem of_tupleOf {l : LengthLimits} (h : (Shape.tupleOf s l).WellFormed inClass) :
    s.WellFormed inClass := by
  cases h with
  | leaf leaf => cases leaf
  | tupleOf item => exact item

theorem of_dict {k v : Shape} {l : LengthLimits} (h : (Shape.dict k v l).WellFormed inClass) :
    k.WellFormed inClass ∧ v.WellFormed inClass := by
  cases h with
  | leaf leaf => cases leaf
  | dict key value => exact ⟨key, value⟩

theorem of_tagged {field : Text} {ms : List (Value × Shape)}
    (h : (Shape.tagged field ms).WellFormed inClass) : ∀ m ∈ ms, m.2.WellFormed inClass := by
  cases h with
  | leaf leaf => cases leaf
  | tagged members => exact members

theorem of_record {kind : ClassKind} {name : Text} {extra : Extra}
    {fs : List (Text × Presence × Shape)} (h : (Shape.record kind name extra fs).WellFormed inClass) :
    ∀ f ∈ fs, f.2.2.WellFormed true := by
  cases h with
  | leaf leaf => cases leaf
  | record fields => exact fields

theorem of_self (h : Shape.self.WellFormed inClass) : inClass = true := by
  cases h with
  | leaf leaf => cases leaf
  | self => rfl

/-! ### Notes -/

theorem keys_put {key : Text} {value : Json} {notes : List (Text × Json)} (known : key ∈ noteKeys)
    (keys : ∀ m ∈ notes, m.1 ∈ noteKeys) : ∀ m ∈ Json.put key value notes, m.1 ∈ noteKeys := by
  intro m h
  rcases Json.mem_put h with rfl | h
  · exact known
  · exact keys m h

theorem note {key : Text} {value : Json} (known : key ∈ noteKeys) (h : s.WellFormed inClass) :
    (s.note key value).WellFormed inClass := by
  unfold Shape.note
  split
  · obtain ⟨keys, inner⟩ := h.of_noted
    exact .noted (keys_put known keys) inner
  · exact .noted (by simpa using known) h

theorem beside {note? : Shape → Option (Text × Json)} {bound : Bound}
    (known : ∀ s m, note? s = some m → m.1 ∈ noteKeys) (h : s.WellFormed inClass) :
    (Shape.beside note? bound s).WellFormed inClass := by
  unfold Shape.beside
  split
  next notes inner key value noted =>
    obtain ⟨keys, inner⟩ := h.of_noted
    exact .bounded (.noted (keys_put (known _ _ noted) keys) inner)
  next noted => exact .bounded (h.note (known _ _ noted))
  next => exact .bounded h

/-! ### Limits -/

theorem made {α : Type} {kind : Text} {make : α → Shape} {part : Except Text α}
    (h : Shape.made kind make part = .ok s') : ∃ a, part = .ok a ∧ s' = make a := by
  cases part with
  | error detail => cases h
  | ok a => exact ⟨a, rfl, (Except.ok.inj h).symm⟩

/-- What narrows shapes keeps them well-formed. -/
def Keeps (inClass : Bool) (narrow : Narrowing) : Prop :=
  ∀ s s', narrow s = some (.ok s') → s.WellFormed inClass → s'.WellFormed inClass

theorem keeps_narrowLength (narrow : LengthLimits → Nat → LengthLimits) (v : Value) :
    Keeps inClass (narrowLength narrow v) := by
  intro s s' h wellFormed
  cases counted : count v with
  | error detail => cases s <;> simp [narrowLength, counted, Except.map] at h
  | ok n =>
    cases s <;> simp only [narrowLength, counted, Except.map, Option.some.injEq, Except.ok.injEq,
      reduceCtorEq] at h <;> subst h
    case str | bytes => exact .leaf rfl
    all_goals
      cases wellFormed with
      | leaf leaf => cases leaf
      | _ =>
        first
        | exact .list ‹_› | exact .set ‹_› | exact .tuple ‹_› | exact .tupleOf ‹_›
        | exact .dict ‹_› ‹_›

theorem keeps_narrowPattern (source : Text) : Keeps inClass (narrowPattern source) := by
  intro s s' h wellFormed
  cases s <;> simp only [narrowPattern, Option.some.injEq, Except.ok.injEq, reduceCtorEq] at h <;>
    subst h <;> exact .leaf rfl

theorem keeps_narrowOrder (narrow : Limits → Limits) : Keeps inClass (narrowOrder narrow) := by
  intro s s' h wellFormed
  cases s <;> simp only [narrowOrder, Option.some.injEq, Except.ok.injEq, reduceCtorEq] at h <;>
    subst h <;> exact .leaf rfl

theorem keeps_narrowDigits (narrow : DigitLimits → Nat → DigitLimits) (v : Value) :
    Keeps inClass (narrowDigits narrow v) := by
  intro s s' h wellFormed
  cases counted : count v with
  | error detail => cases s <;> simp [narrowDigits, counted, Except.map] at h
  | ok n =>
    cases s <;> simp only [narrowDigits, counted, Except.map, Option.some.injEq, Except.ok.injEq,
      reduceCtorEq] at h <;> subst h <;> exact .leaf rfl

theorem keeps_narrowFinite (finite : Bool) : Keeps inClass (narrowFinite finite) := by
  intro s s' h wellFormed
  cases s <;> simp only [narrowFinite, Option.some.injEq, Except.ok.injEq, reduceCtorEq] at h <;>
    subst h <;> exact .leaf rfl

theorem limit {narrow : Narrowing} {aside : Shape → Except TypeFault Shape}
    (keeps : Keeps inClass narrow)
    (keepsAside : ∀ s s', aside s = .ok s' → s.WellFormed inClass → s'.WellFormed inClass)
    (h : s.limit narrow aside = .ok s') (wellFormed : s.WellFormed inClass) :
    s'.WellFormed inClass := by
  fun_induction Shape.limit narrow aside s generalizing s' with
  | case1 s ih =>
    obtain ⟨t, inner, h⟩ := bind_eq_ok.mp h
    obtain rfl := pure_eq_ok.mp h
    exact .nullable (ih (mapError_eq_ok.mp inner) wellFormed.of_nullable)
  | case2 notes s narrowed found =>
    obtain ⟨keys, inner⟩ := wellFormed.of_noted
    obtain ⟨t, rfl, rfl⟩ := made h
    exact .noted keys (keeps _ _ found inner)
  | case3 notes s none => exact keepsAside _ _ h wellFormed
  | case4 s _ _ narrowed found =>
    obtain ⟨t, rfl, rfl⟩ := made h
    exact keeps _ _ found wellFormed
  | case5 s _ _ none => exact keepsAside _ _ h wellFormed

/-! ### Limits as values -/

theorem settled (h : s.settled = .ok s') (wellFormed : s.WellFormed inClass) :
    s'.WellFormed inClass := by
  fun_induction Shape.settled s generalizing s'
  case case8 => cases h
  case case9 => exact Except.ok.inj h ▸ wellFormed
  case case10 s ih =>
    obtain ⟨t, inner, h⟩ := bind_eq_ok.mp h
    obtain rfl := pure_eq_ok.mp h
    exact .nullable (ih (mapError_eq_ok.mp inner) wellFormed.of_nullable)
  case case11 notes s ih =>
    obtain ⟨t, inner, h⟩ := bind_eq_ok.mp h
    obtain rfl := pure_eq_ok.mp h
    obtain ⟨keys, wellFormed⟩ := wellFormed.of_noted
    exact .noted keys (ih inner wellFormed)
  case case12 p s ih =>
    obtain ⟨t, inner, h⟩ := bind_eq_ok.mp h
    split at h
    · cases h
    · obtain rfl := pure_eq_ok.mp h
      exact .bounded (ih (mapError_eq_ok.mp inner) wellFormed.of_bounded)
  case case13 b s _ ih =>
    obtain ⟨t, inner, h⟩ := bind_eq_ok.mp h
    obtain rfl := pure_eq_ok.mp h
    exact .bounded (ih (mapError_eq_ok.mp inner) wellFormed.of_bounded)
  case case14 => exact Except.ok.inj h ▸ wellFormed
  all_goals
    obtain ⟨_, _, rfl⟩ := made h
    exact .leaf rfl

/-! ### Unions of classes told apart by a field -/

theorem tagMembers {field : Text} {tagged members : List (Value × Shape)} {ss : List Shape}
    (h : Shape.tagMembers field tagged ss = .ok members)
    (before : ∀ m ∈ tagged, m.2.WellFormed inClass) (wellFormed : ∀ s ∈ ss, s.WellFormed inClass) :
    ∀ m ∈ members, m.2.WellFormed inClass := by
  induction ss generalizing tagged with
  | nil => exact Except.ok.inj h ▸ before
  | cons s ss ih =>
    obtain ⟨tags, -, h⟩ := bind_eq_ok.mp h
    split at h
    · cases h
    refine ih h ?_ fun t member => wellFormed t (List.mem_cons_of_mem _ member)
    intro m member
    rcases List.mem_append.mp member with member | member
    · exact before m member
    · obtain ⟨t, -, rfl⟩ := List.mem_map.mp member
      exact wellFormed s List.mem_cons_self

theorem discriminate {field : Text} (h : s.discriminate field = .ok s')
    (wellFormed : s.WellFormed inClass) : s'.WellFormed inClass := by
  fun_induction Shape.discriminate field s generalizing s' with
  | case1 members =>
    obtain ⟨ms, found, h⟩ := bind_eq_ok.mp h
    obtain rfl := pure_eq_ok.mp h
    exact .tagged (tagMembers found nofun wellFormed.of_union)
  | case2 s ih =>
    obtain ⟨t, inner, h⟩ := bind_eq_ok.mp h
    obtain rfl := pure_eq_ok.mp h
    exact .nullable (ih inner wellFormed.of_nullable)
  | case3 notes s ih =>
    obtain ⟨t, inner, h⟩ := bind_eq_ok.mp h
    obtain rfl := pure_eq_ok.mp h
    obtain ⟨keys, wellFormed⟩ := wellFormed.of_noted
    exact .noted keys (ih inner wellFormed)
  | case4 s =>
    obtain ⟨ms, found, h⟩ := bind_eq_ok.mp h
    obtain rfl := pure_eq_ok.mp h
    exact .tagged (tagMembers found nofun (by simpa using wellFormed))

/-! ### Annotations -/

theorem noteAs {key : Shape → Text} {value : Value} (known : ∀ s, key s ∈ noteKeys) (s : Shape)
    (m : Text × Json) (h : Shape.noteAs key value s = some m) : m.1 ∈ noteKeys := by
  cases Option.some.inj h
  exact known s

theorem applyLimit {name : Text} {v : Value} (h : s.applyLimit name v = .ok s')
    (wellFormed : s.WellFormed inClass) : s'.WellFormed inClass := by
  -- A limit is put into the shape or beside it, under the key it is published with.
  have put {narrow : Narrowing} {key : Shape → Text} {b : Bound} (keeps : Keeps inClass narrow)
      (known : ∀ s, key s ∈ noteKeys)
      (h : s.limit narrow (fun s => .ok (Shape.beside (Shape.noteAs key v) b s)) = .ok s') :
      s'.WellFormed inClass := by
    refine limit keeps ?_ h wellFormed
    rintro s _ ⟨⟩ wellFormed
    exact wellFormed.beside (noteAs known)
  have order {narrow : Limits → Limits} {b : Bound} (known : name ∈ noteKeys)
      (h : s.limit (narrowOrder narrow)
        (fun s => .ok (Shape.beside (Shape.noteAs (fun _ => name) v) b s)) = .ok s') :
      s'.WellFormed inClass := put (keeps_narrowOrder narrow) (fun _ => known) h
  unfold Shape.applyLimit at h
  split at h
  case h_1 named => exact order (by rw [Text.eq_ofString named]; decide) h
  case h_2 named => exact order (by rw [Text.eq_ofString named]; decide) h
  case h_3 named => exact order (by rw [Text.eq_ofString named]; decide) h
  case h_4 named => exact order (by rw [Text.eq_ofString named]; decide) h
  case h_5 named => exact order (by rw [Text.eq_ofString named]; decide) h
  case h_6 => exact put (keeps_narrowLength _ v) (fun s => by split <;> decide) h
  case h_7 => exact put (keeps_narrowLength _ v) (fun s => by split <;> decide) h
  case h_8 named =>
    exact put (keeps_narrowDigits _ v) (fun _ => by rw [Text.eq_ofString named]; decide) h
  case h_9 named =>
    exact put (keeps_narrowDigits _ v) (fun _ => by rw [Text.eq_ofString named]; decide) h
  case h_10 =>
    refine limit (keeps_narrowFinite _) ?_ h wellFormed
    intro s s' h wellFormed
    split at h
    · exact Except.ok.inj h ▸ .bounded wellFormed
    · cases h
  case h_11 =>
    split at h
    · refine limit (keeps_narrowPattern _) ?_ h wellFormed
      rintro s _ ⟨⟩ wellFormed
      exact .bounded wellFormed
    · exact Except.ok.inj h ▸ wellFormed
  case h_12 =>
    split at h
    · exact discriminate h wellFormed
    · exact Except.ok.inj h ▸ wellFormed
  case h_13 => exact Except.ok.inj h ▸ wellFormed

theorem foldl_note {notes : List (Text × Json)} (known : ∀ m ∈ notes, m.1 ∈ noteKeys)
    (wellFormed : s.WellFormed inClass) :
    (notes.foldl (fun s n => s.note n.1 n.2) s).WellFormed inClass := by
  induction notes generalizing s with
  | nil => exact wellFormed
  | cons n notes ih =>
    exact ih (fun m member => known m (List.mem_cons_of_mem _ member))
      (wellFormed.note (known n List.mem_cons_self))

theorem foldlM_applyLimit {arguments : List (Text × Value)} {names : List Text}
    (h : names.foldlM (fun s name => match argument? arguments name with
      | some v => s.applyLimit name v
      | Option.none => .ok s) s = .ok s')
    (wellFormed : s.WellFormed inClass) : s'.WellFormed inClass := by
  induction names generalizing s with
  | nil => exact pure_eq_ok.mp h ▸ wellFormed
  | cons name names ih =>
    rw [List.foldlM_cons] at h
    obtain ⟨t, first, h⟩ := bind_eq_ok.mp h
    refine ih h ?_
    split at first
    · exact applyLimit first wellFormed
    · exact Except.ok.inj first ▸ wellFormed

theorem annotate {arguments : List (Text × Value)} (h : s.annotate arguments = .ok s')
    (wellFormed : s.WellFormed inClass) : s'.WellFormed inClass := by
  obtain ⟨limited, limits, h⟩ := bind_eq_ok.mp h
  obtain ⟨settledShape, settles, h⟩ := bind_eq_ok.mp h
  obtain rfl := pure_eq_ok.mp h
  refine foldl_note ?_ (settled settles (foldlM_applyLimit limits wellFormed))
  intro m member
  obtain ⟨name, known, noted⟩ := List.mem_filterMap.mp member
  have named : m.1 = name := by
    obtain ⟨v, -, noted⟩ := Option.bind_eq_some_iff.mp noted
    obtain ⟨j, -, noted⟩ := Option.bind_eq_some_iff.mp noted
    cases Option.some.inj noted
    rfl
  have sub : ∀ n ∈ noteNames, n ∈ noteKeys := by decide
  exact named ▸ sub name known

end WellFormed

end Shape

namespace TypeExpr

open Shape

variable {context : Context}

theorem unionShape_wellFormed {hasNone : Bool} {members : List Shape} {inClass : Bool}
    (wellFormed : ∀ s ∈ members, s.WellFormed inClass) :
    (unionShape hasNone members).WellFormed inClass := by
  match members, hasNone with
  | [], true => exact .leaf rfl
  | [], false => exact .union wellFormed
  | [s], true => exact .nullable (wellFormed s List.mem_cons_self)
  | [s], false => exact wellFormed s List.mem_cons_self
  | _ :: _ :: _, true => exact .nullable (.union wellFormed)
  | _ :: _ :: _, false => exact .union wellFormed

theorem classContext_inClass (context : Context) (kind : ClassKind) :
    (classContext context kind).2.inClass = true := by
  cases kind <;> rfl

theorem insideClass_eq_ok {α : Type} {kind : ClassKind} {fields : Except TypeFault α} {a : α} :
    insideClass kind fields = .ok a ↔ fields = .ok a := by
  cases kind
  case model => exact mapError_eq_ok.trans mapError_eq_ok
  case dataclass => exact mapError_eq_ok.trans mapError_eq_ok
  case typedDict => exact mapError_eq_ok

mutual

/-- Every type has a well-formed shape, if it has one. -/
theorem shape_wellFormed {context : Context} {s : Shape} (t : TypeExpr)
    (h : t.shape context = .ok s) : s.WellFormed context.inClass := by
  cases t with
  | atom a =>
    cases a
    case anyList => exact Except.ok.inj h ▸ .list (.leaf rfl)
    case anyDict => exact Except.ok.inj h ▸ .dict (.leaf rfl) (.leaf rfl)
    case anyTuple => exact Except.ok.inj h ▸ .tupleOf (.leaf rfl)
    case anySet => exact Except.ok.inj h ▸ .set (.leaf rfl)
    all_goals exact Except.ok.inj h ▸ .leaf rfl
  | list t =>
    rw [shape] at h
    obtain ⟨item, found, h⟩ := bind_eq_ok.mp h
    exact pure_eq_ok.mp h ▸ .list (shape_wellFormed t (mapError_eq_ok.mp found))
  | set t =>
    rw [shape] at h
    obtain ⟨item, found, h⟩ := bind_eq_ok.mp h
    exact pure_eq_ok.mp h ▸ .set (shape_wellFormed t (mapError_eq_ok.mp found))
  | frozenSet t =>
    rw [shape] at h
    obtain ⟨item, found, h⟩ := bind_eq_ok.mp h
    exact pure_eq_ok.mp h ▸ .set (shape_wellFormed t (mapError_eq_ok.mp found))
  | tuple ts =>
    rw [shape] at h
    obtain ⟨items, found, h⟩ := bind_eq_ok.mp h
    exact pure_eq_ok.mp h ▸ .tuple (shapes_wellFormed ts (mapError_eq_ok.mp found))
  | tupleOf t =>
    rw [shape] at h
    obtain ⟨item, found, h⟩ := bind_eq_ok.mp h
    exact pure_eq_ok.mp h ▸ .tupleOf (shape_wellFormed t (mapError_eq_ok.mp found))
  | dict k v =>
    rw [shape] at h
    obtain ⟨key, foundKey, h⟩ := bind_eq_ok.mp h
    obtain ⟨value, foundValue, h⟩ := bind_eq_ok.mp h
    exact pure_eq_ok.mp h ▸ .dict (shape_wellFormed k (mapError_eq_ok.mp foundKey))
      (shape_wellFormed v (mapError_eq_ok.mp foundValue))
  | union ts =>
    rw [shape] at h
    obtain ⟨⟨hasNone, members⟩, found, h⟩ := bind_eq_ok.mp h
    exact pure_eq_ok.mp h ▸
      unionShape_wellFormed (unionShapes_wellFormed ts (mapError_eq_ok.mp found))
  | literal vs =>
    rw [shape] at h
    split at h
    · cases h
    · exact Except.ok.inj h ▸ .leaf rfl
  | enum n ms b => exact Except.ok.inj h ▸ .leaf rfl
  | record kind name fields =>
    rw [shape] at h
    obtain ⟨fieldShapes, found, h⟩ := bind_eq_ok.mp h
    refine pure_eq_ok.mp h ▸ .record ?_
    rw [← classContext_inClass context kind]
    exact fieldShapes_wellFormed fields (insideClass_eq_ok.mp found)
  | self =>
    rw [shape] at h
    split at h
    next inClass => exact Except.ok.inj h ▸ inClass ▸ .self
    next => cases h
  | annotated t as =>
    rw [shape] at h
    obtain ⟨inner, found, h⟩ := bind_eq_ok.mp h
    exact (shape_wellFormed t found).annotate h
  | undeclared shown => cases h
  | instances c => exact Except.ok.inj h ▸ .leaf rfl
  | misused detail => cases h
  | forward t =>
    rw [shape] at h
    split at h
    · cases h
    · exact Except.ok.inj h ▸ .leaf rfl

theorem shapes_wellFormed {context : Context} {ss : List Shape} (ts : List TypeExpr)
    (h : shapes context ts = .ok ss) : ∀ s ∈ ss, s.WellFormed context.inClass := by
  cases ts with
  | nil => exact Except.ok.inj h ▸ nofun
  | cons t ts =>
    rw [shapes] at h
    obtain ⟨s, found, h⟩ := bind_eq_ok.mp h
    obtain ⟨rest, others, h⟩ := bind_eq_ok.mp h
    obtain rfl := pure_eq_ok.mp h
    exact List.forall_mem_cons.mpr ⟨shape_wellFormed t found, shapes_wellFormed ts others⟩

theorem unionShapes_wellFormed {context : Context} {hasNone : Bool} {ss : List Shape}
    (ts : List TypeExpr) (h : unionShapes context ts = .ok (hasNone, ss)) :
    ∀ s ∈ ss, s.WellFormed context.inClass := by
  cases ts with
  | nil =>
    cases h
    exact nofun
  | cons t ts =>
    rw [unionShapes] at h
    split at h
    · obtain ⟨⟨_, rest⟩, others, h⟩ := bind_eq_ok.mp h
      cases pure_eq_ok.mp h
      exact unionShapes_wellFormed ts others
    · obtain ⟨s, found, h⟩ := bind_eq_ok.mp h
      obtain ⟨⟨_, rest⟩, others, h⟩ := bind_eq_ok.mp h
      cases pure_eq_ok.mp h
      exact List.forall_mem_cons.mpr ⟨shape_wellFormed t found, unionShapes_wellFormed ts others⟩

theorem fieldShapes_wellFormed {kind : ClassKind} {context : Context}
    {fs : List (Text × Presence × Shape)} (fields : List (Text × Presence × TypeExpr))
    (h : fieldShapes kind context fields = .ok fs) :
    ∀ f ∈ fs, f.2.2.WellFormed context.inClass := by
  match fields with
  | [] => exact Except.ok.inj h ▸ nofun
  | (name, presence, t) :: fields =>
    rw [fieldShapes] at h
    split at h
    · obtain ⟨s, found, h⟩ := bind_eq_ok.mp h
      obtain ⟨rest, others, h⟩ := bind_eq_ok.mp h
      obtain rfl := pure_eq_ok.mp h
      exact List.forall_mem_cons.mpr
        ⟨shape_wellFormed t (mapError_eq_ok.mp found), fieldShapes_wellFormed fields others⟩
    · exact fieldShapes_wellFormed fields h

end

end TypeExpr

end GuardedTools
