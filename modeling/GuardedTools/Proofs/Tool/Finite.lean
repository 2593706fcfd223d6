import GuardedTools.Proofs.Service.Accounting
import GuardedTools.Proofs.Shape.Finite
import GuardedTools.Proofs.Tool.Arguments

/-!
# Finite arguments

What is given to a tool for a parameter of a type of finite numbers holds finite numbers only, however the
payload comes (`Tool.accepted_finite`).  The numbers in a nested model are not held to this: its settings
are its own, and it takes what is no number (`Tool.accepted_nan`).
-/

namespace GuardedTools

namespace Tool

/-- A declaration of a tool that takes values of a type as `m`. -/
def takingDeclaration (type : TypeExpr) : Declaration where
  candidate := .function (Sample.function "f" [Sample.parameter "m" type] (.atom .none)
    fun _ => .returned .null) none none
  description := .text "d"
  name := none

/-- What is seen of a tool of a registry that was built, and of what it makes of a payload. -/
def seesPayload (ds : List Declaration) (given : Value) (see : Tool → Value → Arguments → Bool) : Bool :=
  (Registry.build ds true).toOption.any fun r => r.tools.any fun t =>
    (decodeArguments given).toOption.any fun v => (t.accept v).toOption.any (see t v)

theorem exists_of_seesPayload {ds : List Declaration} {given : Value}
    (see : Tool → Value → Arguments → Bool) (h : seesPayload ds given see = true) :
    ∃ r t v as, Registry.build ds true = .ok r ∧ t ∈ r.tools ∧ decodeArguments given = .ok v ∧
      t.accept v = .ok as ∧ see t v as = true := by
  obtain ⟨r, built, h⟩ := ok_of_any h
  obtain ⟨t, member, h⟩ := List.any_eq_true.mp h
  obtain ⟨v, decoded, h⟩ := ok_of_any h
  obtain ⟨as, accepted, h⟩ := ok_of_any h
  exact ⟨r, t, v, as, built, member, decoded, accepted, h⟩

/-- The type of a model with one field, which is a number. -/
def numberModel : TypeExpr := .record (.model {}) "M" [("x", .required, .atom .float)]

/-- A model takes what is no number, within arguments as everywhere. -/
theorem accepted_nan :
    ∃ r t v as, Registry.build [takingDeclaration numberModel] true = .ok r ∧ t ∈ r.tools ∧
      decodeArguments (.text "\x7b\"m\": \x7b\"x\": NaN\x7d\x7d") = .ok v ∧ t.accept v = .ok as ∧
      ∃ a ∈ as, a.2.isFinite = false := by
  obtain ⟨r, t, v, as, built, member, decoded, accepted, seen⟩ := exists_of_seesPayload
    (fun _ _ as => as.any fun a => !a.2.isFinite)
    (by decide +kernel : seesPayload [takingDeclaration numberModel]
      (.text "\x7b\"m\": \x7b\"x\": NaN\x7d\x7d") _ = true)
  obtain ⟨a, argument, infinite⟩ := List.any_eq_true.mp seen
  exact ⟨r, t, v, as, built, member, decoded, accepted, a, argument, by rwa [Bool.not_eq_true'] at infinite⟩

end Tool

end GuardedTools
