import GuardedTools.Tool.Descriptor

/-!
# Declarations

A declaration is a candidate with the description and the name it is to be published under.
Marking a candidate as a tool builds its descriptor at once, so that a mistake shows where it was
made; the mark stays on the candidate.  What a mark declares (`Candidate.declared?`) is the very
candidate that was marked, also when the mark was taken over by a wrapper.
-/

namespace GuardedTools

/-- A candidate waiting to be built into a tool. -/
structure Declaration where
  candidate : Candidate
  description : Value
  name : Option Value
deriving Inhabited

namespace Declaration

/-- The descriptor of a declaration. -/
def descriptor (d : Declaration) : Except BuildFailure Descriptor :=
  Descriptor.build d.candidate d.description d.name

/-- The function that a declaration exports. -/
def entryPoint (d : Declaration) : Except BuildFailure Function := d.candidate.eligible

end Declaration

namespace Candidate

/-- A candidate with a mark, if it can carry one. -/
def withMark (mark : Mark) : Candidate → Candidate
  | function f wrapped _ => function f wrapped (some mark)
  | staticMethod of _ => staticMethod of (some mark)
  | c => c

/-- Marks a candidate as a tool, if it can become one. -/
def mark (c : Candidate) (description : Value) (name : Option Value) :
    Except BuildFailure Candidate := do
  let _ ← Descriptor.build c description name
  return c.withMark { description, name }

/-- What the mark of a candidate declares: its own mark the candidate itself, a mark taken over
what it declared before. -/
def declared? : Candidate → Option Declaration
  | function f wrapped (some m) =>
    some { candidate := function f wrapped (some m), description := m.description, name := m.name }
  | function _ (some c) none => declared? c
  | staticMethod of (some m) =>
    some { candidate := staticMethod of (some m), description := m.description, name := m.name }
  | _ => none

end Candidate

end GuardedTools
