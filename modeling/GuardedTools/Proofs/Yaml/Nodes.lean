import GuardedTools.Proofs.Yaml.Tokens
import GuardedTools.Yaml.Node.Reader

/-!
# Why there is no node

Reading the node of a document ends in a fault of three kinds (`Yaml.Node.ofText_eq_error`): the tokens are
malformed, they end in a fault themselves, or more than may be nested begins among them.

The readers of nodes call each other with the number of nodes that are around.  What they have in common is
`Reads.Keeps`: of the nodes that are around together with those that the tokens ahead can begin there are no
more than the tokens of the text can begin.  One step of every reader keeps this if the steps after it do
(`ReadersKeep`), so that all of them do for any number of steps.
-/

namespace GuardedTools.Yaml

/-! ### Nesting -/

/-- Tokens that begin something with further nodes in it. -/
def Token.nests : Token → Bool
  | .blockSequenceStart => true
  | .blockMappingStart => true
  | .flowSequenceStart => true
  | .flowMappingStart => true
  | .blockEntry => true
  | .key => true
  | _ => false

/-- How often something begins among tokens that has further nodes in it. -/
def nestings (ts : List Token) : Nat := ts.countP Token.nests

/-- A fault with the nodes of tokens: they are malformed, they end in that fault themselves, or more begins
among them than may be nested. -/
inductive NodeFault (total : Nat) (ending : Option Fault) : Fault → Prop
  | malformed : NodeFault total ending .malformed
  | tokens {f : Fault} (ends : ending = some f) : NodeFault total ending f
  | nesting (deep : nestingLimit < total) : NodeFault total ending .tooDeep

/-- Reading has come to where some nodes are around: with what can still be nested they are not more than
there are in total. -/
structure Reading.Within (total : Nat) (ending : Option Fault) (depth : Nat) (r : Reading) : Prop where
  ending : r.fault = ending
  nested : depth + nestings r.tokens ≤ total

/-! ### Steps -/

namespace Reads

variable {α β : Type} {total depth : Nat} {ending : Option Fault}

/-- From where `before` holds, reading goes on to where `after` holds, or it ends in a fault of the tokens. -/
def Goes (total : Nat) (ending : Option Fault) (before : Reading → Prop) (m : Reads α)
    (after : α → Reading → Prop) : Prop :=
  ∀ r, before r → Settles (NodeFault total ending) (fun a => after a.1 a.2) (m r)

section Goes

variable {before before' : Reading → Prop} {m : Reads α} {after after' : α → Reading → Prop}

theorem Goes.bind {f : α → Reads β} {mid : α → Reading → Prop} {after : β → Reading → Prop}
    (h : Goes total ending before m mid) (next : ∀ a, Goes total ending (mid a) (f a) after) :
    Goes total ending before (m >>= f) after :=
  fun r start => Settles.bind (h r start) fun a there => next a.1 a.2 there

theorem Goes.imp (h : Goes total ending before m after) (starts : ∀ r, before' r → before r)
    (ends : ∀ a r, after a r → after' a r) : Goes total ending before' m after' :=
  fun r start => Settles.imp (h r (starts r start)) (fun _ f => f) fun a => ends a.1 a.2

theorem Goes.pure {a : α} (h : ∀ r, before r → after a r) : Goes total ending before (Pure.pure a) after := h

theorem goes_malformed : Goes total ending before malformed after := fun _ _ => NodeFault.malformed

end Goes

/-- Reading goes on among the same nodes. -/
def Keeps (total : Nat) (ending : Option Fault) (depth : Nat) (m : Reads α) : Prop :=
  Goes total ending (·.Within total ending depth) m fun _ => (·.Within total ending depth)

theorem Keeps.bind {m : Reads α} {f : α → Reads β} (h : Keeps total ending depth m)
    (next : ∀ a, Keeps total ending depth (f a)) : Keeps total ending depth (m >>= f) :=
  Goes.bind h next

theorem Keeps.pure (a : α) : Keeps total ending depth (Pure.pure a) := fun _ within => within

/-- To give up is always allowed. -/
theorem keeps_malformed : Keeps total ending depth (malformed (α := α)) := goes_malformed

/-- Reading further in goes on to where it was. -/
theorem Keeps.inward {m : Reads α} {depth' : Nat} (h : Keeps total ending depth' m) (inner : depth ≤ depth') :
    Goes total ending (·.Within total ending depth') m fun _ => (·.Within total ending depth) :=
  h.imp (fun _ within => within) fun _ _ within =>
    ⟨within.ending, (Nat.add_le_add_right inner _).trans within.nested⟩

theorem get_keeps : Keeps total ending depth (get : Reads Reading) := fun _ within => within

/-- A change of names alone. -/
theorem modify_keeps {f : Reading → Reading} (tokens : ∀ r, (f r).tokens = r.tokens)
    (fault : ∀ r, (f r).fault = r.fault) : Keeps total ending depth (modify f : Reads Unit) := by
  intro r within
  refine ⟨(fault r).trans within.ending, ?_⟩
  show depth + nestings (f r).tokens ≤ total
  rw [tokens]
  exact within.nested

/-- The next token, which is still there. -/
theorem peek_goes : Goes total ending (·.Within total ending depth) peek
    fun t? r => r.Within total ending depth ∧ r.tokens.head? = t? := by
  rintro ⟨tokens, fault, anchors, handles⟩ within
  cases tokens with
  | cons t ts => exact ⟨within, rfl⟩
  | nil =>
    cases fault with
    | some f => exact NodeFault.tokens within.ending.symm
    | none => exact ⟨within, rfl⟩

theorem peek_keeps : Keeps total ending depth peek :=
  peek_goes.imp (fun _ within => within) fun _ _ there => there.1

theorem advance_keeps : Keeps total ending depth advance := by
  intro r within
  have fewer : nestings (r.tokens.drop 1) ≤ nestings r.tokens := (List.drop_sublist 1 r.tokens).countP_le
  exact ⟨within.ending, (Nat.add_le_add_left fewer depth).trans within.nested⟩

/-- To pass over a token that nests leads further in. -/
theorem advance_inward {t : Token} (nests : t.nests = true) :
    Goes total ending (fun r => r.Within total ending depth ∧ r.tokens.head? = some t) advance
      fun _ => (·.Within total ending (depth + 1)) := by
  rintro r ⟨within, first⟩
  obtain ⟨ts, tokens⟩ := List.head?_eq_some_iff.mp first
  have nested := within.nested
  rw [tokens, nestings, List.countP_cons_of_pos nests] at nested
  refine ⟨within.ending, ?_⟩
  show depth + 1 + nestings (r.tokens.drop 1) ≤ total
  rw [tokens, List.drop_one, List.tail_cons, nestings]
  omega

theorem sees_goes (t : Token) : Goes total ending (·.Within total ending depth) (sees [t])
    fun found r => r.Within total ending depth ∧ (found = true → r.tokens.head? = some t) := by
  refine peek_goes.bind fun t? => Goes.pure fun r there => ⟨there.1, fun found => ?_⟩
  cases t? with
  | none => cases found
  | some u =>
    have same : u = t := by simpa using found
    rw [there.2, same]

theorem sees_keeps (ts : List Token) : Keeps total ending depth (sees ts) :=
  peek_keeps.bind fun _ => .pure _

theorem accept_keeps (t : Token) : Keeps total ending depth (accept t) := by
  refine (sees_keeps [t]).bind fun found => ?_
  split
  · exact advance_keeps.bind fun _ => .pure true
  · exact .pure false

/-- A token that nests leads further in if it is accepted. -/
theorem accept_inward {t : Token} (nests : t.nests = true) :
    Goes total ending (·.Within total ending depth) (accept t)
      fun found => (·.Within total ending (if found then depth + 1 else depth)) := by
  refine (sees_goes t).bind fun found => ?_
  cases found with
  | true =>
    have next : Goes total ending (fun r => r.Within total ending depth ∧ r.tokens.head? = some t) advance
        fun _ => (·.Within total ending (depth + 1)) := advance_inward nests
    refine Goes.bind (next.imp (fun _ there => ?_) fun _ _ within => within) fun _ =>
      Goes.pure fun _ within => within
    exact ⟨there.1, there.2 rfl⟩
  | false => exact Goes.pure fun _ there => there.1

theorem expect_keeps (t : Token) : Keeps total ending depth (expect t) := by
  refine (accept_keeps t).bind fun found => ?_
  cases found with
  | true => exact .pure ()
  | false => exact keeps_malformed

theorem bind_keeps (anchor : Option Text) (n : Node) : Keeps total ending depth (Reads.bind anchor n) := by
  cases anchor with
  | none => exact .pure ()
  | some a => exact modify_keeps (fun _ => rfl) fun _ => rfl

theorem complete_keeps (anchor : Text) (n : Node) : Keeps total ending depth (complete anchor n) :=
  modify_keeps (fun _ => rfl) fun _ => rfl

theorem named_keeps (name : Text) : Keeps total ending depth (named name) := by
  refine get_keeps.bind fun r => ?_
  split
  · exact .pure _
  · exact keeps_malformed

theorem anchor?_keeps : Keeps total ending depth anchor? := by
  refine peek_keeps.bind fun t? => ?_
  split
  · exact advance_keeps.bind fun _ => .pure _
  · exact .pure none

theorem tagOf_keeps (w : WrittenTag) : Keeps total ending depth (tagOf w) := by
  unfold tagOf
  split
  · exact .pure _
  · refine get_keeps.bind fun r => ?_
    split
    · exact .pure _
    · exact keeps_malformed

theorem tag?_keeps : Keeps total ending depth tag? := by
  refine peek_keeps.bind fun t? => ?_
  split
  · exact advance_keeps.bind fun _ => (tagOf_keeps _).bind fun _ => .pure _
  · exact .pure none

theorem properties_keeps : Keeps total ending depth properties := by
  refine anchor?_keeps.bind fun a? => ?_
  split
  · exact tag?_keeps.bind fun _ => .pure _
  · refine tag?_keeps.bind fun tag => ?_
    split
    · exact anchor?_keeps.bind fun _ => .pure _
    · exact .pure _

/-- What follows properties of which the anchor is not taken. -/
theorem Keeps.unlessTaken {anchor : Option Text} {next : Reads α} (h : Keeps total ending depth next) :
    Keeps total ending depth (do
      if let some a := anchor then
        if (← get).anchors.any (·.1 == a) then malformed
      next) := by
  split
  · refine get_keeps.bind fun r => ?_
    split
    · exact keeps_malformed.bind fun _ => h
    · exact h
  · exact h

/-- A collection begins with a token that nests, and what is in it is read further in. -/
theorem collection_goes {t : Token} (nests : t.nests = true) (anchor : Option Text) (make : List α → Node)
    {items : Reads (List α)} (inside : Keeps total ending (depth + 1) items) :
    Goes total ending (fun r => r.Within total ending depth ∧ r.tokens.head? = some t)
      (collection anchor make items) fun _ => (·.Within total ending depth) := by
  refine (advance_inward nests).bind fun _ => ?_
  -- an anchor names the collection while it is read, which changes nothing about what is left
  split
  · exact (inside.bind fun _ => .pure _).inward (Nat.le_succ depth)
  next a =>
    have named : Keeps total ending (depth + 1) (Reads.bind (some a) (.enclosing a)) := bind_keeps _ _
    refine (named.bind fun _ => inside.bind fun is => ?_).inward (Nat.le_succ depth)
    exact (complete_keeps a _).bind fun _ => .pure _

end Reads

/-! ### Readers -/

/-- All that reads nodes goes on among the nodes that are around, for as many steps as it has. -/
structure ReadersKeep (total : Nat) (ending : Option Fault) (fuel : Nat) : Prop where
  node : ∀ depth block indentless,
    Reads.Keeps total ending depth (readNode fuel depth block indentless)
  orEmpty : ∀ depth block indentless ends,
    Reads.Keeps total ending depth (readUnless fuel depth block indentless ends)
  blockSequence : ∀ depth, Reads.Keeps total ending depth (readBlockSequence fuel depth)
  indentless : ∀ depth first, Reads.Keeps total ending depth (readIndentless fuel depth first)
  blockMapping : ∀ depth, Reads.Keeps total ending depth (readBlockMapping fuel depth)
  value : ∀ depth block ends, Reads.Keeps total ending depth (readValue fuel depth block ends)
  flowSequence : ∀ depth first, Reads.Keeps total ending depth (readFlowSequence fuel depth first)
  flowMapping : ∀ depth first, Reads.Keeps total ending depth (readFlowMapping fuel depth first)

namespace ReadersKeep

open Reads

variable {total fuel : Nat} {ending : Option Fault} (ih : ReadersKeep total ending fuel)

include ih

theorem readNode_keeps (depth : Nat) (block indentless : Bool) :
    Keeps total ending depth (readNode (fuel + 1) depth block indentless) := by
  rw [readNode]
  split
  next deep =>
    -- there are no more nodes around than are begun by the tokens
    intro r within
    exact NodeFault.nesting (deep.trans_le ((Nat.le_add_right depth _).trans within.nested))
  · refine peek_keeps.bind fun t? => ?_
    split
    · exact advance_keeps.bind fun _ => named_keeps _
    · refine properties_keeps.bind ?_
      rintro ⟨anchor, tag⟩
      dsimp only
      refine Keeps.unlessTaken ?_
      have scalar (kind : Kind) (text : Text) : Keeps total ending depth (do
          Reads.bind anchor (.scalar kind text)
          return Node.scalar kind text) := (bind_keeps anchor _).bind fun _ => .pure _
      have here {n : Reads Node} (h : Keeps total ending depth n) {t? : Option Token} :
          Goes total ending (fun r => r.Within total ending depth ∧ r.tokens.head? = t?) n
            fun _ => (·.Within total ending depth) :=
        h.imp (fun _ there => there.1) fun _ _ within => within
      refine peek_goes.bind fun t? => ?_
      split
      · exact here (advance_keeps.bind fun _ => scalar _ _)
      · exact collection_goes rfl anchor _ (ih.flowSequence _ true)
      · exact collection_goes rfl anchor _ (ih.flowMapping _ true)
      · -- in a block a collection begins only where that is allowed, with the token that is next
        have begins {start : Token} {allowed : Bool} (seen : (allowed && decide (t? = some start)) = true) :
            t? = some start := by
          simp only [Bool.and_eq_true, decide_eq_true_eq] at seen
          exact seen.2
        split
        next seen =>
          rw [begins seen]
          exact collection_goes rfl anchor _ (ih.indentless _ true)
        · split
          next seen =>
            rw [begins seen]
            exact collection_goes rfl anchor _ (ih.blockSequence _)
          · split
            next seen =>
              rw [begins seen]
              exact collection_goes rfl anchor _ (ih.blockMapping _)
            · split
              · exact here (scalar _ _)
              · exact here keeps_malformed

theorem readUnless_keeps (depth : Nat) (block indentless : Bool) (ends : List Token) :
    Keeps total ending depth (readUnless (fuel + 1) depth block indentless ends) := by
  rw [readUnless]
  refine (sees_keeps ends).bind fun found => ?_
  split
  · exact .pure _
  · exact ih.node _ _ _

theorem readBlockSequence_keeps (depth : Nat) :
    Keeps total ending depth (readBlockSequence (fuel + 1) depth) := by
  rw [readBlockSequence]
  refine (accept_keeps _).bind fun found => ?_
  split
  · exact (ih.orEmpty _ _ _ _).bind fun _ => (ih.blockSequence _).bind fun _ => .pure _
  · exact (expect_keeps _).bind fun _ => .pure _

theorem readIndentless_keeps (depth : Nat) (first : Bool) :
    Keeps total ending depth (readIndentless (fuel + 1) depth first) := by
  rw [readIndentless]
  have item (isMarked : Bool) : Keeps total ending depth (do
      if isMarked then
        let n ← readUnless fuel depth true false [.blockEntry, .key, .value, .blockEnd]
        return n :: (← readIndentless fuel depth false)
      return []) := by
    split
    · exact (ih.orEmpty _ _ _ _).bind fun _ => (ih.indentless _ _).bind fun _ => .pure _
    · exact .pure _
  split
  · exact item true
  · exact (accept_keeps _).bind item

theorem readBlockMapping_keeps (depth : Nat) :
    Keeps total ending depth (readBlockMapping (fuel + 1) depth) := by
  rw [readBlockMapping]
  refine (accept_keeps _).bind fun found => ?_
  split
  · refine (ih.orEmpty _ _ _ _).bind fun _ => (ih.value _ _ _).bind fun _ => ?_
    exact (ih.blockMapping _).bind fun _ => .pure _
  · exact (expect_keeps _).bind fun _ => .pure _

theorem readValue_keeps (depth : Nat) (block : Bool) (ends : List Token) :
    Keeps total ending depth (readValue (fuel + 1) depth block ends) := by
  rw [readValue]
  refine (accept_keeps _).bind fun found => ?_
  split
  · exact ih.orEmpty _ _ _ _
  · exact .pure _

theorem readFlowSequence_keeps (depth : Nat) (first : Bool) :
    Keeps total ending depth (readFlowSequence (fuel + 1) depth first) := by
  rw [readFlowSequence]
  -- a key leads further in, as its entry is a mapping of its own, which no bracket begins
  have entry (ends : List Token) : Keeps total ending depth (do
      if ← accept .key then
        let k ← readUnless fuel (depth + 1) false false (.value :: ends)
        let v ← readValue fuel (depth + 1) false ends
        return Node.mapping .mapping [(k, v)] :: (← readFlowSequence fuel depth false)
      if ← accept .flowSequenceEnd then return []
      let n ← readNode fuel depth false false
      return n :: (← readFlowSequence fuel depth false)) := by
    refine (accept_inward rfl).bind fun found => ?_
    cases found with
    | true =>
      refine Goes.bind (ih.orEmpty _ _ _ _) fun k => ?_
      refine ((ih.value _ _ _).inward (Nat.le_succ depth)).bind fun v => ?_
      exact (ih.flowSequence _ _).bind fun _ => .pure _
    | false =>
      have closes : Keeps total ending depth (accept .flowSequenceEnd) := accept_keeps _
      refine closes.bind fun found => ?_
      split
      · exact .pure _
      · exact (ih.node _ _ _).bind fun _ => (ih.flowSequence _ _).bind fun _ => .pure _
  refine (accept_keeps _).bind fun found => ?_
  split
  · exact .pure _
  · dsimp only
    split
    · exact (expect_keeps _).bind fun _ => entry _
    · exact entry _

theorem readFlowMapping_keeps (depth : Nat) (first : Bool) :
    Keeps total ending depth (readFlowMapping (fuel + 1) depth first) := by
  rw [readFlowMapping]
  have entry (ends : List Token) : Keeps total ending depth (do
      if ← accept .key then
        let k ← readUnless fuel depth false false (.value :: ends)
        let v ← readValue fuel depth false ends
        return (k, v) :: (← readFlowMapping fuel depth false)
      if ← accept .flowMappingEnd then return []
      let k ← readNode fuel depth false false
      return (k, emptyNode) :: (← readFlowMapping fuel depth false)) := by
    refine (accept_keeps _).bind fun found => ?_
    split
    · refine (ih.orEmpty _ _ _ _).bind fun _ => (ih.value _ _ _).bind fun _ => ?_
      exact (ih.flowMapping _ _).bind fun _ => .pure _
    · refine (accept_keeps _).bind fun found => ?_
      split
      · exact .pure _
      · exact (ih.node _ _ _).bind fun _ => (ih.flowMapping _ _).bind fun _ => .pure _
  refine (accept_keeps _).bind fun found => ?_
  split
  · exact .pure _
  · dsimp only
    split
    · exact (expect_keeps _).bind fun _ => entry _
    · exact entry _

end ReadersKeep

/-- No reader begins more nodes than the tokens do. -/
theorem readersKeep (total : Nat) (ending : Option Fault) (fuel : Nat) : ReadersKeep total ending fuel := by
  induction fuel with
  | zero =>
    constructor <;> intros
    · rw [readNode]; exact Reads.keeps_malformed
    · rw [readUnless]; exact Reads.keeps_malformed
    · rw [readBlockSequence]; exact Reads.keeps_malformed
    · rw [readIndentless]; exact Reads.keeps_malformed
    · rw [readBlockMapping]; exact Reads.keeps_malformed
    · rw [readValue]; exact Reads.keeps_malformed
    · rw [readFlowSequence]; exact Reads.keeps_malformed
    · rw [readFlowMapping]; exact Reads.keeps_malformed
  | succ fuel ih =>
    exact ⟨ih.readNode_keeps, ih.readUnless_keeps, ih.readBlockSequence_keeps, ih.readIndentless_keeps,
      ih.readBlockMapping_keeps, ih.readValue_keeps, ih.readFlowSequence_keeps, ih.readFlowMapping_keeps⟩

/-! ### Documents -/

section Documents

open Reads

variable {total : Nat} {ending : Option Fault}

theorem readDirectives_keeps (n : Nat) (hasVersion : Bool) (handles : List (Text × Text)) :
    Keeps total ending 0 (readDirectives n hasVersion handles) := by
  induction n generalizing hasVersion handles with
  | zero => exact .pure _
  | succ n ih =>
    unfold readDirectives
    refine peek_keeps.bind fun t? => ?_
    split
    · split
      · exact keeps_malformed.bind fun _ => advance_keeps.bind fun _ => ih _ _
      · exact advance_keeps.bind fun _ => ih _ _
    · split
      · exact keeps_malformed.bind fun _ => advance_keeps.bind fun _ => ih _ _
      · exact advance_keeps.bind fun _ => ih _ _
    · exact advance_keeps.bind fun _ => ih _ _
    · exact .pure _

theorem stepBound_keeps : Keeps total ending 0 stepBound := get_keeps.bind fun _ => .pure _

theorem readDocument_keeps : Keeps total ending 0 readDocument := by
  have whole (fuel : Nat) : Keeps total ending 0 (do return some (← readNode fuel 0 true false)) :=
    ((readersKeep total ending fuel).node 0 true false).bind fun _ => .pure _
  have handled (f : Reading → List (Text × Text)) :
      Keeps total ending 0 (modify fun r => { r with handles := f r } : Reads Unit) :=
    modify_keeps (fun _ => rfl) fun _ => rfl
  unfold readDocument
  refine peek_keeps.bind fun t? => ?_
  split
  · exact .pure none
  · refine stepBound_keeps.bind fun fuel => ?_
    split
    · refine (readDirectives_keeps _ _ _).bind fun given => (handled _).bind fun _ => ?_
      refine (expect_keeps _).bind fun _ => peek_keeps.bind fun t? => ?_
      split
      · exact .pure _
      · split
        · exact .pure _
        · exact whole fuel
    · exact (handled _).bind fun _ => whole fuel

theorem skipEnds_keeps (n : Nat) : Keeps total ending 0 (skipEnds n) := by
  induction n with
  | zero => exact .pure ()
  | succ n ih =>
    refine (accept_keeps _).bind fun found => ?_
    split
    · exact ih
    · exact .pure ()

theorem readOnly_keeps : Keeps total ending 0 readOnly := by
  refine readDocument_keeps.bind fun n => stepBound_keeps.bind fun steps => ?_
  refine (skipEnds_keeps steps).bind fun _ => peek_keeps.bind fun t? => ?_
  split
  · exact keeps_malformed.bind fun _ => .pure _
  · exact .pure _

end Documents

/-- A text of which nodes are not read is malformed or is to blame for it otherwise: for its tokens, or because
too much is begun by them. -/
theorem Node.ofText_eq_error {t : Text} {f : Fault} (h : Node.ofText t = .error f) :
    TokenFault t.points f ∨ f = .tooDeep ∧ nestingLimit < nestings (tokens t).1 := by
  have within : Reading.Within (nestings (tokens t).1) (tokens t).2 0
      { tokens := (tokens t).1, fault := (tokens t).2 } := ⟨rfl, by rw [Nat.zero_add]⟩
  have reads := readOnly_keeps _ within
  have equal : Node.ofText t = (readOnly { tokens := (tokens t).1, fault := (tokens t).2 }).map (·.1) := rfl
  have failed : readOnly { tokens := (tokens t).1, fault := (tokens t).2 } = .error f := by
    rw [equal] at h
    cases result : readOnly { tokens := (tokens t).1, fault := (tokens t).2 } with
    | ok a =>
      rw [result] at h
      cases h
    | error f' =>
      rw [result] at h
      exact congrArg _ (Except.error.inj h)
  rw [failed] at reads
  cases reads with
  | malformed => exact Or.inl .malformed
  | tokens ends => exact Or.inl (tokens_fault ends)
  | nesting deep => exact Or.inr ⟨rfl, deep⟩

end GuardedTools.Yaml
