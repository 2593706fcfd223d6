import GuardedTools.Proofs.Yaml.Nodes
import GuardedTools.Yaml
import Mathlib.Data.Option.Basic

/-!
# Why there is no value

A text that has no value is malformed, or something in it is to blame (`Yaml.read_eq_error`): its tokens, the
nesting of its nodes, or a scalar that writes no value of its kind (`ScalarFault`).

For the last it is shown that the value of a node is made of those of its parts.  Entries that are merged into
a mapping come from within it (`flatten_settles`), so that they are less deep than the mapping, and the
number that bounds the depth of what is looked at never runs out (`valueAt_refuses`).
-/

namespace GuardedTools.Yaml

/-! ### Parts of nodes -/

namespace Node

/-- A node is within another one, or is that node. -/
inductive IsPart : Node → Node → Prop
  | self (n : Node) : IsPart n n
  | item {m n : Node} {kind : Kind} {items : List Node} (member : n ∈ items) (part : IsPart m n) :
      IsPart m (.sequence kind items)
  | key {m : Node} {kind : Kind} {entries : List (Node × Node)} {e : Node × Node} (member : e ∈ entries)
      (part : IsPart m e.1) : IsPart m (.mapping kind entries)
  | value {m : Node} {kind : Kind} {entries : List (Node × Node)} {e : Node × Node} (member : e ∈ entries)
      (part : IsPart m e.2) : IsPart m (.mapping kind entries)

theorem depth_le_items {n : Node} {ns : List Node} (member : n ∈ ns) : n.depth ≤ depthOfItems ns := by
  induction ns with
  | nil => cases member
  | cons m ns ih =>
    rw [depthOfItems]
    rcases List.mem_cons.mp member with rfl | later
    · exact Nat.le_max_left _ _
    · exact (ih later).trans (Nat.le_max_right _ _)

theorem depth_le_entries {e : Node × Node} {es : List (Node × Node)} (member : e ∈ es) :
    max e.1.depth e.2.depth ≤ depthOfEntries es := by
  induction es with
  | nil => cases member
  | cons d es ih =>
    rw [depthOfEntries]
    rcases List.mem_cons.mp member with rfl | later
    · exact Nat.le_max_left _ _
    · exact (ih later).trans (Nat.le_max_right _ _)

theorem IsPart.depth_le {m n : Node} (h : IsPart m n) : m.depth ≤ n.depth := by
  induction h with
  | self => exact le_rfl
  | item member _ ih =>
    have inside := depth_le_items member
    rw [depth]
    omega
  | key member _ ih =>
    have inside := depth_le_entries member
    rw [depth]
    omega
  | value member _ ih =>
    have inside := depth_le_entries member
    rw [depth]
    omega

theorem IsPart.trans {l m n : Node} (h : IsPart l m) (h' : IsPart m n) : IsPart l n := by
  induction h' with
  | self => exact h
  | item member _ ih => exact .item member ih
  | key member _ ih => exact .key member ih
  | value member _ ih => exact .value member ih

/-- An entry that comes from within a node: so does its value, and its key does too or is made a text. -/
def Gives (n : Node) (e : Node × Node) : Prop :=
  (IsPart e.1 n ∨ ∃ t, e.1 = .scalar .text t) ∧ IsPart e.2 n

theorem Gives.within {m n : Node} {e : Node × Node} (h : Gives m e) (part : IsPart m n) : Gives n e :=
  ⟨h.1.imp_left (·.trans part), h.2.trans part⟩

/-- An entry that comes from within some entries. -/
def GivenBy (es : List (Node × Node)) (e : Node × Node) : Prop :=
  ∃ d ∈ es, (IsPart e.1 d.1 ∨ IsPart e.1 d.2 ∨ ∃ t, e.1 = .scalar .text t) ∧ IsPart e.2 d.2

theorem GivenBy.gives {kind : Kind} {es : List (Node × Node)} {e : Node × Node} (h : GivenBy es e) :
    Gives (.mapping kind es) e := by
  obtain ⟨d, member, key, value⟩ := h
  refine ⟨?_, .value member value⟩
  rcases key with key | key | text
  · exact Or.inl (.key member key)
  · exact Or.inl (.value member key)
  · exact Or.inr text

theorem Gives.givenBy {k v : Node} {es : List (Node × Node)} {e : Node × Node} (h : Gives v e) :
    GivenBy ((k, v) :: es) e := ⟨(k, v), List.mem_cons_self, Or.inr h.1, h.2⟩

theorem GivenBy.later {d e : Node × Node} {es : List (Node × Node)} (h : GivenBy es e) :
    GivenBy (d :: es) e := by
  obtain ⟨c, member, given⟩ := h
  exact ⟨c, List.mem_cons_of_mem _ member, given⟩

end Node

open Node (IsPart Gives GivenBy)

/-! ### Merged entries -/

mutual

/-- What is merged into entries, and what they are themselves, comes from within them. -/
theorem split_settles : ∀ es, Settles (· = .malformed)
    (fun both => ∀ e ∈ both.1 ++ both.2, GivenBy es e) (split es)
  | [] => by
    intro e member
    cases member
  | (k, v) :: es => by
    have rest := split_settles es
    unfold split
    split
    · -- what the value of a merge key gives comes before what later ones give
      refine (merged_settles v).bind fun here each => rest.bind ?_
      rintro ⟨others, own⟩ every e member
      rw [List.append_assoc] at member
      rcases List.mem_append.mp member with among | among
      · exact (each e among).givenBy
      · exact (every e among).later
    · refine rest.bind ?_
      rintro ⟨others, own⟩ every e member
      rcases List.mem_append.mp member with among | among
      · exact (every e (List.mem_append_left _ among)).later
      · rcases List.mem_cons.mp among with rfl | among
        · -- a key that stands for the value of its mapping counts as a text here
          refine ⟨(k, v), List.mem_cons_self, ?_, .self v⟩
          dsimp only
          split
          · exact Or.inr (Or.inr ⟨_, rfl⟩)
          · exact Or.inl (.self k)
        · exact (every e (List.mem_append_right _ among)).later

theorem merged_settles : ∀ n, Settles (· = .malformed) (fun es => ∀ e ∈ es, Gives n e) (merged n)
  | .mapping kind es => by
    unfold merged
    exact (split_settles es).bind fun both every e member => (every e member).gives
  | .sequence kind ns => by
    unfold merged
    refine (mergedItems_settles ns).bind fun ess every e member => ?_
    obtain ⟨es, among, inside⟩ := List.mem_flatten.mp member
    obtain ⟨n, item, gives⟩ := every es (List.mem_reverse.mp among) e inside
    exact gives.within (.item item (.self n))
  | .scalar kind t => rfl
  | .enclosing anchor => rfl

theorem mergedItems_settles : ∀ ns, Settles (· = .malformed)
    (fun ess => ∀ es ∈ ess, ∀ e ∈ es, ∃ n ∈ ns, Gives n e) (mergedItems ns)
  | [] => by
    intro es member
    cases member
  | .mapping kind es :: ns => by
    unfold mergedItems
    refine (split_settles es).bind fun both every => (mergedItems_settles ns).bind fun ess each => ?_
    intro ds member e inside
    rcases List.mem_cons.mp member with rfl | member
    · exact ⟨_, List.mem_cons_self, (every e inside).gives⟩
    · obtain ⟨n, item, gives⟩ := each ds member e inside
      exact ⟨n, List.mem_cons_of_mem _ item, gives⟩
  | .sequence kind ms :: ns => rfl
  | .scalar kind t :: ns => rfl
  | .enclosing anchor :: ns => rfl

end

theorem flatten_settles (es : List (Node × Node)) :
    Settles (· = .malformed) (fun ds => ∀ e ∈ ds, GivenBy es e) (flatten es) := by
  unfold flatten
  exact (split_settles es).bind fun _ every => every

/-! ### Values -/

/-- A fault with the value of a node, and where it is: the node is malformed, or a scalar in it writes no value
of its kind. -/
def ValueFault (n : Node) (e : Nat × Fault) : Prop :=
  e.2 = .malformed ∨ ∃ m t, IsPart m n ∧ m.text? = some t ∧ scalarValue m.kind t = .error e.2

theorem ValueFault.within {m n : Node} {e : Nat × Fault} (part : IsPart m n) (h : ValueFault m e) :
    ValueFault n e := by
  rcases h with refused | ⟨l, t, inner, written, failed⟩
  · exact Or.inl refused
  · exact Or.inr ⟨l, t, inner.trans part, written, failed⟩

namespace Ranked

variable {α β : Type} {refused : Nat × Fault → Prop}

/-- A result whose fault, if it is one, is of some kind. -/
abbrev Refuses (refused : Nat × Fault → Prop) (x : Ranked α) : Prop := Settles refused (fun _ => True) x

theorem both_refuses {x : Ranked α} {y : Ranked β} (h : Refuses refused x) (h' : Refuses refused y) :
    Refuses refused (both x y) := by
  unfold both
  split
  · trivial
  · exact h
  · exact h'
  next f g =>
    dsimp only [Refuses, Settles]
    split
    · exact h'
    · exact h

theorem all_refuses {xs : List (Ranked α)} (h : ∀ x ∈ xs, Refuses refused x) : Refuses refused (all xs) := by
  induction xs with
  | nil => trivial
  | cons x xs ih =>
    rw [List.forall_mem_cons] at h
    exact (both_refuses h.1 (ih h.2)).map fun _ _ => trivial

end Ranked

open Ranked (Refuses both_refuses all_refuses)

section Entries

variable {n : Node} {inner : Node → Ranked Value}

theorem ValueFault.malformed (depth : Nat) : ValueFault n (depth, .malformed) := Or.inl rfl

theorem entry_refuses {e : Node × Node} (depth : Nat) (key : Refuses (ValueFault n) (inner e.1))
    (value : Refuses (ValueFault n) (inner e.2)) :
    Refuses (ValueFault n) (valueAt.entry inner depth e) := by
  refine both_refuses ?_ value
  split
  · split
    · trivial
    · exact .malformed depth
  next f failed =>
    rw [failed] at key
    split
    · exact key
    · exact .malformed depth

/-- The entries of a mapping, if what is within them has no other faults. -/
theorem entries_refuses {es : List (Node × Node)} (depth : Nat)
    (each : ∀ e, GivenBy es e → Refuses (ValueFault n) (inner e.1) ∧ Refuses (ValueFault n) (inner e.2)) :
    Refuses (ValueFault n) (valueAt.entries inner depth es) := by
  have flat := flatten_settles es
  unfold valueAt.entries
  split
  next f failed =>
    rw [failed] at flat
    exact Or.inl flat
  next ds given =>
    rw [given] at flat
    refine all_refuses fun x member => ?_
    obtain ⟨e, among, rfl⟩ := List.mem_map.mp member
    obtain ⟨key, value⟩ := each e (flat e among)
    exact entry_refuses depth key value

theorem pair_refuses {m : Node} (depth : Nat)
    (each : ∀ l, IsPart l m → Refuses (ValueFault n) (inner l)) :
    Refuses (ValueFault n) (valueAt.pair inner depth m) := by
  unfold valueAt.pair
  split
  next kind e =>
    have key := each e.1 (.key List.mem_cons_self (.self _))
    have value := each e.2 (.value List.mem_cons_self (.self _))
    exact (both_refuses key value).map fun _ _ => trivial
  · exact .malformed depth

end Entries

/-- A key that has been made a text has a value. -/
theorem valueAt_text {fuel : Nat} (some : 0 < fuel) (depth : Nat) (t : Text) :
    valueAt fuel depth (.scalar .text t) = .ok (.text t) := by
  obtain ⟨fuel, rfl⟩ := Nat.exists_eq_succ_of_ne_zero some.ne'
  rfl

theorem Node.depth_pos (n : Node) : 0 < n.depth := by
  cases n <;> simp [depth]

/-- A fault with the value of a node is one with a scalar in it, if the node is not malformed. -/
theorem valueAt_refuses (fuel depth : Nat) {n : Node} (deep : n.depth ≤ fuel) :
    Refuses (ValueFault n) (valueAt fuel depth n) := by
  induction fuel generalizing n depth with
  | zero => exact absurd deep (Nat.not_le.mpr n.depth_pos)
  | succ fuel ih =>
    -- what is below an item or an entry is less deep than the node, and its faults are among those of it
    have below {m : Node} (part : IsPart m n) (less : m.depth ≤ fuel) :
        Refuses (ValueFault n) (valueAt fuel (depth + 1) m) :=
      Settles.imp (ih (depth + 1) less) (fun _ => .within part) fun _ h => h
    have items {kind : Kind} {ns : List Node} (same : n = .sequence kind ns) {m l : Node} (member : m ∈ ns)
        (part : IsPart l m) : Refuses (ValueFault n) (valueAt fuel (depth + 1) l) := by
      subst same
      have inside := Node.depth_le_items member
      have less := part.depth_le
      rw [Node.depth] at deep
      exact below (.item member part) (by omega)
    have entries {kind : Kind} {es : List (Node × Node)} (same : n = .mapping kind es) :
        Refuses (ValueFault n) (valueAt.entries (valueAt fuel (depth + 1)) (depth + 1) es) := by
      subst same
      rw [Node.depth] at deep
      refine entries_refuses (depth + 1) fun e given => ?_
      obtain ⟨d, member, key, value⟩ := given
      have inside : max d.1.depth d.2.depth ≤ fuel :=
        (Node.depth_le_entries member).trans (Nat.le_of_succ_le_succ deep)
      have first : d.1.depth ≤ fuel := (Nat.le_max_left _ _).trans inside
      have second : d.2.depth ≤ fuel := (Nat.le_max_right _ _).trans inside
      constructor
      · rcases key with key | key | ⟨t, text⟩
        · exact below (.key member key) (key.depth_le.trans first)
        · exact below (.value member key) (key.depth_le.trans second)
        · have some : 0 < fuel := d.1.depth_pos.trans_le first
          rw [text, valueAt_text some]
          trivial
      · exact below (.value member value) (value.depth_le.trans second)
    have own {t : Text} (written : n.text? = some t) :
        Refuses (ValueFault n) (Ranked.at depth (scalarValue n.kind t)) := by
      cases failed : scalarValue n.kind t with
      | ok v => trivial
      | error f => exact Or.inr ⟨n, t, .self n, written, failed⟩
    unfold valueAt
    dsimp only
    split
    · refine Settles.map (all_refuses fun x member => ?_) fun _ _ => trivial
      obtain ⟨m, among, rfl⟩ := List.mem_map.mp member
      exact items rfl among (.self m)
    · exact (entries rfl).map fun _ _ => trivial
    · exact (entries rfl).map fun _ _ => trivial
    · refine Settles.map (all_refuses fun x member => ?_) fun _ _ => trivial
      obtain ⟨m, among, rfl⟩ := List.mem_map.mp member
      exact pair_refuses (depth + 1) fun l part => items rfl among part
    · refine Settles.map (all_refuses fun x member => ?_) fun _ _ => trivial
      obtain ⟨m, among, rfl⟩ := List.mem_map.mp member
      exact pair_refuses (depth + 1) fun l part => items rfl among part
    · exact .malformed _
    · exact .malformed _
    · exact .malformed _
    · exact .malformed _
    · exact .malformed _
    · split
      next t written => exact own written
      · exact .malformed depth

/-! ### Scalars -/

/-- A moment is of the calendar, and a time of day if it is one. -/
structure Moment.IsOfCalendar (m : Moment) : Prop where
  date : Date.isValid { year := m.year, month := m.month, day := m.day } = true
  clock : ∀ hour minute second microsecond offset,
    m.clock = some (hour, minute, second, microsecond, offset) →
      hour ≤ 23 ∧ minute ≤ 59 ∧ second ≤ 59 ∧ ∀ minutes, offset = some minutes → minutes.natAbs < 1440

/-- A fault with a text as a scalar of a kind, other than that this is malformed: the text looks like
something that it is not, or the tag of the scalar says that it is something else. -/
inductive ScalarFault (t : Text) : Kind → Fault → Prop
  | truth (noWord : ∀ w ∈ truthWords, Text.ofString w.1 ≠ t.lower) : ScalarFault t .truth (.badTruth t.lower)
  | emptyNumber {kind : Kind} (number : kind = .integer ∨ kind = .real) : ScalarFault t kind .emptyNumber
  | integer (base : Nat) (written : Text) : ScalarFault t .integer (.badInteger base written)
  | digits {n : Nat} (many : Text.digitLimit < n) : ScalarFault t .integer (.tooManyDigits n)
  | real (written : Text) : ScalarFault t .real (.badReal written)
  | noMoment (none : Moment.read? t.points = none) : ScalarFault t .moment .badMoment
  | calendar {m : Moment} (some : Moment.read? t.points = some m) (outside : ¬ m.IsOfCalendar)
      (message : Text) : ScalarFault t .moment (.badCalendar message)

theorem ScalarFault.ne_malformed {t : Text} {kind : Kind} {f : Fault} (h : ScalarFault t kind f) :
    f ≠ .malformed := by
  cases h <;> exact Fault.noConfusion

theorem truthValue_eq_error {t : Text} {f : Fault} (h : truthValue t = .error f) :
    ScalarFault t .truth f := by
  unfold truthValue at h
  split at h
  · cases h
  next none =>
    cases h
    refine .truth fun w member same => ?_
    have differs := List.find?_eq_none.mp none w member
    simp [same] at differs

theorem basedInteger_eq_error {base : Nat} {ps : List CodePoint} {t : Text} {f : Fault}
    (h : basedInteger base ps = .error f) : ScalarFault t .integer f := by
  unfold basedInteger at h
  dsimp only at h
  split at h
  · split at h
    next many =>
      cases h
      simp only [Bool.and_eq_true, decide_eq_true_eq] at many
      exact .digits many.2
    · cases h
  · cases h
    exact .integer base _

theorem integerValue_eq_error {t : Text} {f : Fault} (h : integerValue t = .error f) :
    ScalarFault t .integer f := by
  have based {sign : Int} {base : Nat} {ps : List CodePoint}
      (h : (basedInteger base ps >>= fun n => pure (sign * n)) = .error f) : ScalarFault t .integer f :=
    basedInteger_eq_error (error_of_bind_pure h)
  have empty : ScalarFault t .integer .emptyNumber := .emptyNumber (Or.inl rfl)
  unfold integerValue at h
  dsimp only at h
  split at h
  · cases h
    exact empty
  · split at h
    · cases h
    · split at h
      · exact based h
      · split at h
        · exact based h
        · split at h
          · cases h
            exact empty
          · split at h
            · exact based h
            · split at h
              · obtain ⟨part, -, failed⟩ := exists_of_mapM_eq_error (error_of_bind_pure h)
                exact basedInteger_eq_error failed
              · exact based h

theorem realValue_eq_error {t : Text} {f : Fault} (h : realValue t = .error f) :
    ScalarFault t .real f := by
  have part {ps : List CodePoint} (h : realPart ps = .error f) : ScalarFault t .real f := by
    unfold realPart at h
    split at h
    · cases h
    · cases h
      exact .real _
  unfold realValue at h
  dsimp only at h
  split at h
  · cases h
    exact .emptyNumber (Or.inr rfl)
  · split at h
    · cases h
    · split at h
      · cases h
      · split at h
        · obtain ⟨ps, -, failed⟩ := exists_of_mapM_eq_error (error_of_bind_pure h)
          exact part failed
        · exact part (error_of_bind_pure h)

theorem momentValue_eq_error {t : Text} {f : Fault} (h : momentValue t = .error f) :
    ScalarFault t .moment f := by
  have invalid {d : Date} {message : Text} (h : dateFault? d = some message) : ¬ d.isValid = true := by
    intro valid
    have fields := valid
    simp only [Date.isValid, Bool.and_eq_true, decide_eq_true_eq] at fields
    unfold dateFault? at h
    split at h
    · omega
    · split at h
      next outside =>
        simp only [Bool.or_eq_true, decide_eq_true_eq] at outside
        omega
      · cases h
  have outside {hour minute second : Nat} {message : Text}
      (h : clockFault? hour minute second = some message) : ¬ (hour ≤ 23 ∧ minute ≤ 59 ∧ second ≤ 59) := by
    unfold clockFault? at h
    split_ifs at h <;> omega
  have far {minutes : Int} {message : Text} (h : offsetFault? minutes = some message) :
      ¬ minutes.natAbs < 1440 := by
    unfold offsetFault? at h
    split_ifs at h
    assumption
  unfold momentValue at h
  split at h
  next none =>
    cases h
    exact .noMoment none
  next m some =>
    dsimp only at h
    split at h
    · split at h
      next message bad =>
        cases h
        exact .calendar some (fun ofCalendar => invalid bad ofCalendar.date) message
      · cases h
    next hour minute second microsecond offset clock =>
      split at h
      next message bad =>
        cases h
        refine .calendar some (fun ofCalendar => ?_) message
        obtain ⟨hours, minutes, seconds, offsets⟩ := ofCalendar.clock _ _ _ _ _ clock
        rcases (Option.orElse_eq_some _ _ _).mp bad with away | ⟨-, bad⟩
        · obtain ⟨ms, zone, away⟩ := Option.bind_eq_some_iff.mp away
          exact far away (offsets ms zone)
        · rcases (Option.orElse_eq_some _ _ _).mp bad with date | ⟨-, time⟩
          · exact invalid date ofCalendar.date
          · exact outside time ⟨hours, minutes, seconds⟩
      · cases h

/-- A text that has no value of a kind is malformed, or has a fault that is said of the kind. -/
theorem scalarValue_eq_error {kind : Kind} {t : Text} {f : Fault} (h : scalarValue kind t = .error f) :
    f = .malformed ∨ ScalarFault t kind f := by
  have map {α : Type} {x : Except Fault α} {make : α → Value} (h : x.map make = .error f) :
      x = .error f := by
    cases x with
    | ok a => cases h
    | error f' => exact congrArg Except.error (Except.error.inj h)
  unfold scalarValue at h
  split at h
  · cases h
  · exact Or.inr (truthValue_eq_error (map h))
  · exact Or.inr (integerValue_eq_error (map h))
  · exact Or.inr (realValue_eq_error (map h))
  · have failed := map h
    unfold binaryValue at failed
    split at failed
    · split at failed
      · cases failed
      · cases failed
        exact Or.inl rfl
    · cases failed
      exact Or.inl rfl
  · exact Or.inr (momentValue_eq_error h)
  · cases h
  · cases h
    exact Or.inl rfl

/-- What looks like a date need not be one. -/
example : scalarValue .moment "2024-13-45" = .error (.badCalendar "month must be in 1..12") := by rfl

/-! ### Texts -/

/-- What keeps a text from having a value, other than that it is malformed: an escape or a version that is
read too far, more nesting than is read, or a scalar that writes no value of its kind. -/
inductive Hinders (t : Text) : Fault → Prop
  | token {f : Fault} (due : TokenFault t.points f) (other : f ≠ .malformed) : Hinders t f
  | nesting (deep : nestingLimit < nestings (tokens t).1) : Hinders t .tooDeep
  | scalar {n m : Node} {s : Text} {f : Fault} (node : Node.ofText t = .ok (some n)) (part : IsPart m n)
      (written : m.text? = some s) (due : ScalarFault s m.kind f) : Hinders t f

theorem Hinders.ne_malformed {t : Text} {f : Fault} (h : Hinders t f) : f ≠ .malformed := by
  cases h with
  | token _ other => exact other
  | nesting => exact Fault.noConfusion
  | scalar _ _ _ due => exact due.ne_malformed

/-- **Why there is no value**: a text without a value is malformed, or something else is the matter with what
is written in it. -/
theorem read_eq_error {t : Text} {f : Fault} (h : read t = .error f) : f = .malformed ∨ Hinders t f := by
  by_cases same : f = .malformed
  · exact Or.inl same
  refine Or.inr ?_
  rcases bind_eq_error.mp h with unread | ⟨n?, nodes, h⟩
  · rcases Node.ofText_eq_error unread with due | ⟨rfl, deep⟩
    · exact .token due same
    · exact .nesting deep
  · cases n? with
    | none => cases h
    | some n =>
      obtain ⟨⟨depth, f⟩, failed, rfl⟩ := mapError_eq_error.mp h
      have value := valueAt_refuses (n.depth + 1) 0 (Nat.le_succ n.depth)
      rw [failed] at value
      rcases value with refused | ⟨m, s, part, written, failed⟩
      · exact absurd refused same
      · rcases scalarValue_eq_error failed with refused | due
        · exact absurd refused same
        · exact .scalar nodes part written due

end GuardedTools.Yaml
