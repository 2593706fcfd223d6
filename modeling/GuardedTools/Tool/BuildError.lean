import GuardedTools.Json.Printer
import GuardedTools.Shape
import GuardedTools.TypeExpr.Fault

/-!
# Authoring mistakes

What is wrong with a declaration, detected before anything is served.  Every such error names the
declaration it is about.
-/

namespace GuardedTools

/-- Why a declaration does not become a tool. -/
inductive BuildError where
  /-- The declaration binds a receiver, or is no function at all. -/
  | notAFreeFunction (declaration detail : Text)
  /-- The function does not run synchronously. -/
  | unsupportedKind (declaration kind : Text)
  /-- There is nothing to describe the tool with. -/
  | missingDescription (declaration : Text)
  /-- A parameter or the result cannot be expressed in a call. -/
  | unsupportedType (declaration position detail : Text)
  /-- The name is not the name of a tool. -/
  | invalidName (declaration name : Text)
  /-- The name is taken. -/
  | duplicateName (name : Text)
deriving DecidableEq, Inhabited, Repr

namespace BuildError

/-- The declaration that an error is about. -/
def declaration : BuildError → Text
  | notAFreeFunction d _ => d
  | unsupportedKind d _ => d
  | missingDescription d => d
  | unsupportedType d _ _ => d
  | invalidName d _ => d
  | duplicateName n => n

/-- What is wrong, without the declaration. -/
def reason : BuildError → Text
  | notAFreeFunction _ detail =>
    "tools must be free functions without a self/cls receiver"
      ++ (if detail.isEmpty then Text.empty else " (" ++ detail ++ ")")
  | unsupportedKind _ kind => kind ++ " functions are not supported as tools"
  | missingDescription _ => "a non-empty description is required"
  | unsupportedType _ position detail =>
    "unsupported type for " ++ position
      ++ (if detail.isEmpty then Text.empty else ": " ++ detail)
  | invalidName _ name => "invalid tool name " ++ name.quoted
  | duplicateName _ => "a tool with this name is already registered"

/-- The declaration and what is wrong with it. -/
def message (e : BuildError) : Text := e.declaration ++ ": " ++ e.reason

end BuildError

/-- Why a declaration was not built. -/
inductive BuildFailure where
  /-- The author made a mistake. -/
  | refused (error : BuildError)
  /-- A type is nested too deeply to be published. -/
  | tooDeep
  /-- A number in what is published has too many digits to be written. -/
  | tooManyDigits
  /-- A type is at fault in a way that is told as it is. -/
  | type (fault : TypeFault)
  /-- A class within a type is none. -/
  | noClass (fault : ClassFault)
  /-- A class that is built in does not say what it is called with. -/
  | noSignature (className : Text)
  /-- Among the data of a type something stands as a reference, and leads nowhere. -/
  | dangling (reference : Text)
deriving Inhabited, Repr

namespace BuildFailure

def message : BuildFailure → Text
  | .refused e => e.message
  | .tooDeep => Text.empty
  | .tooManyDigits => Json.WriteFault.message .tooManyDigits
  | .type f => f.message
  | .noClass f => f.message
  | .noSignature c => "no signature found for builtin type <class '" ++ c ++ "'>"
  | .dangling r => r.quoted

/-- What it comes to that what is published of a type is not written. -/
def ofWriteFault : Json.WriteFault → BuildFailure
  | .tooManyDigits => .tooManyDigits
  | .tooDeep => .tooDeep

/-- The mistake of a type at a position of a declaration, of which the first line is told. -/
def unsupported (declaration position detail : Text) : BuildFailure :=
  .refused (.unsupportedType declaration position detail.firstLine)

/-- What a fault of a type at a position of a declaration comes to: a mistake of its author, or a
fault that is told as it is. -/
def ofType (declaration position : Text) (f : TypeFault) : BuildFailure :=
  match f with
  | .emptyLiteral => .type f
  | .unusable _ => .type f
  | .misapplied _ _ => .type f
  | f => .unsupported declaration position f.message

end BuildFailure

end GuardedTools
