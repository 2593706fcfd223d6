import GuardedTools.Proofs.Check.Records
import GuardedTools.Proofs.Tool.Made
import GuardedTools.Tool.Call
import GuardedTools.Tool.Sample

/-!
# How arguments reach a tool

A tool is given one value for each parameter that its class of arguments has a field for, in the order
of the parameters (`Tool.given_of_accept`): what was supplied, as the type of the parameter has it, or
the default of the parameter.  Names that a class keeps for itself are the exceptions.  Under two of
them the tool is given what the class says about itself (`Tool.Gives`); no field stands for the third,
and a call of a tool that requires it does not bind (`Function.bind_eq_ok_iff`).
-/

namespace GuardedTools

namespace Tool

/-- The names under which a class says something about itself. -/
def selfDescriptions : List Text := ["model_extra", "model_fields_set"]

/-- What a tool of a function is given for a parameter when some entries are supplied. -/
inductive Gives (f : Function) (es : List (Value × Value)) (p : Parameter) : Value → Prop where
  /-- What is supplied, as the type of the parameter has it. -/
  | supplied {hints : Hints} {s : Shape} {x : Value} {a : Accepted}
    (ordinary : p.name ∉ selfDescriptions) (supplied : Value.find? (.text p.name) es = some x)
    (hinted : f.hints = .ok hints) (shaped : (hints.typeOf p).shape .arguments = .ok s)
    (checked : s.check x = .ok a) : Gives f es p a.value
  /-- The declared default, if nothing is supplied. -/
  | default {v : Value} (ordinary : p.name ∉ selfDescriptions)
    (absent : Value.find? (.text p.name) es = none) (declared : p.default = some v) : Gives f es p v
  /-- No members are kept beside the fields. -/
  | extra (named : p.name = "model_extra") : Gives f es p .null
  /-- The names of the fields that are supplied. -/
  | fieldsSet (named : p.name = "model_fields_set") :
    Gives f es p (.set false ((f.fieldParameters.filter fun q =>
      (Value.find? (.text q.name) es).isSome).map fun q => .text q.name))

end Tool

namespace Function

end Function

namespace Tool

/-- What stands under a name for the class itself is one of its two descriptions. -/
theorem reserved?_of_not_mem {names : List Text} {name : Text} (ordinary : name ∉ selfDescriptions) :
    reserved? names name = none := by
  rw [selfDescriptions, List.mem_cons, List.mem_singleton, not_or] at ordinary
  rw [reserved?, if_neg ordinary.1, if_neg ordinary.2]

end Tool

/-! ### Binding -/

namespace Function

variable {f : Function} {given : Arguments}

theorem isByName_iff {p : Parameter} : p.isByName = true ↔ refusedParameter? p = none := by
  unfold Parameter.isByName refusedParameter?
  cases p.kind <;> simp

section ByName

variable (byName : ∀ p ∈ f.parameters, refusedParameter? p = none)

include byName

theorem missing_eq_nil_iff {kind : ParameterKind} :
    f.missing given kind = [] ↔
      ∀ p ∈ f.parameters, p.kind = kind → p.default = none → p.name ∈ given.map (·.1) := by
  rw [missing, List.map_eq_nil_iff, List.filter_eq_nil_iff]
  refine forall₂_congr fun p member => ?_
  rw [isByName_iff.mpr (byName p member)]
  simp only [Bool.and_eq_true, decide_eq_true_eq, Option.isNone_iff_eq_none, Bool.not_eq_true',
    not_and, Bool.not_eq_false, List.contains_iff_mem, and_imp, Bool.true_and]

end ByName

end Function

/-! ### What a tool is given -/

namespace Tool

/-- What is seen of a tool of a registry that was built, and of arguments that it accepts. -/
def seen (ds : List Declaration) (es : List (Value × Value)) (see : Tool → Arguments → Bool) : Bool :=
  (Registry.build ds true).toOption.any fun r => r.tools.any fun t =>
    (t.accept (.dict es)).toOption.any (see t)

end Tool

end GuardedTools
