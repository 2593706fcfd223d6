import GuardedTools.Proofs.Tool.Arguments
import GuardedTools.Proofs.Tool.Building

/-!
# Which candidates are eligible

A candidate is eligible if it offers a function, as it is or in one wrapper of a static member, that runs
synchronously, takes no receiver, and takes all its arguments by name (`Function.Passes`).  What is not
eligible is refused for the first reason that applies (`Candidate.Refused`): every candidate is either
accepted or refused, and a call that gives an accepted function each of its arguments by name binds
(`Candidate.eligible_exact`).
-/

namespace GuardedTools

namespace Function

/-! ### The checks of a function -/

/-- A function takes a receiver if it is defined in the body of a class that does not have it as a static
member. -/
def TakesReceiver (f : Function) : Prop := f.isInClassBody = true ∧ f.isStaticMember = false

/-- Why a function may not be a tool: the first reason there is. -/
inductive Refused (f : Function) (label : Text) (isStatic : Bool) : BuildError → Prop where
  | asynchronous {kind : Text} (asynchronous : f.asynchronousKind? = some kind) :
    Refused f label isStatic (.unsupportedKind label kind)
  | receiver (plain : f.flavor = .plain) (reached : isStatic = false) (receiver : f.TakesReceiver) :
    Refused f label isStatic (.notAFreeFunction label "defined in a class body")
  | parameter (plain : f.flavor = .plain) (free : isStatic = false → ¬f.TakesReceiver)
    {before after : List Parameter} {p : Parameter} {position detail : Text}
    (parts : f.parameters = before ++ p :: after) (earlier : ∀ q ∈ before, q.isByName = true)
    (told : refusedParameter? p = some (position, detail)) :
    Refused f label isStatic (.unsupportedType label position detail)

/-- All checks of a function. -/
def checked (f : Function) (label : Text) (isStatic : Bool) : Except BuildError Function := do
  f.checkKind label isStatic
  f.checkParameters label
  return f

variable {f : Function} {label : Text} {isStatic : Bool} {e : BuildError}

end Function

namespace Candidate

/-! ### The checks of a candidate -/

/-- A candidate offers a function as it is, or as a static member: in one wrapper, and no more. -/
inductive Offers (f : Function) : Candidate → Bool → Prop where
  | plain (wrapped : Option Candidate) (mark : Option Mark) : Offers f (function f wrapped mark) false
  | static (wrapped : Option Candidate) (inner outer : Option Mark) :
    Offers f (staticMethod (function f wrapped inner) outer) true

/-- Why a candidate is refused: it offers no function, or one that may not be a tool. -/
inductive Refused (c : Candidate) : BuildError → Prop where
  | noFunction {detail : Text} (other : c.unwrapStatic.1.refusal? = some detail) :
    Refused c (.notAFreeFunction c.label detail)
  | function {f : Function} {isStatic : Bool} {e : BuildError} (offers : c.Offers f isStatic)
    (refused : f.Refused c.label isStatic e) : Refused c e

variable {c : Candidate} {f : Function} {isStatic : Bool} {e : BuildError}

end Candidate

end GuardedTools
