import GuardedTools.Proofs.Service.Dispatch
import GuardedTools.Proofs.Shape.Canonical
import GuardedTools.Proofs.Tool.Arguments
import Mathlib.Algebra.Group.Int.Defs

/-!
# Calls that come back as they are

A tool that gives back its argument, and whose argument and result are of one type, gives back every value
that is written as the type says: arguments and result are checked by shapes of one type, both of which
carry the value (`TypeExpr.Canonical.isCarried`), and what is written of it is sent if its integers are not
too long (`Dispatcher.dispatch_identity`).
-/

namespace GuardedTools

/-- A function that gives back its argument, of one type in and out. -/
structure Function.IsIdentity (type : TypeExpr) (f : Function) : Prop where
  parameters : f.parameters = [Sample.parameter "x" type]
  result : f.result = some type
  body : ∀ as, f.body as = .returned (Sample.argument as "x")

/-- What an identity is called with. -/
def identityArguments (j : Json) : Value := Value.ofMembers [("x", .ofJson j)]

variable {d : Declaration} {t : Tool} {type type' : TypeExpr} {j : Json}

/-- The types of an identity are what its type is read as. -/
theorem Function.IsIdentity.hints {f : Function} (identity : f.IsIdentity type)
    (read : type.resolve = .ok type') :
    f.hints = .ok { parameters := [("x", type')], result := some type' } := by
  rw [Function.hints, identity.parameters, identity.result]
  simp only [Function.parameterHints, Sample.parameter, Option.mapM_some, read]
  rfl

/-- An identity gives back what it is called with. -/
theorem Function.IsIdentity.call {f : Function} (identity : f.IsIdentity type) (x : Value) :
    f.call [("x", x)] = .returned x := by
  have bound : f.bind [("x", x)] = .ok [("x", x)] := by
    unfold Function.bind Function.surplus Function.takesSurplus Function.missing
    rw [identity.parameters]
    rfl
  rw [Function.call, bound]
  exact identity.body _

/-- A tool with one field for its arguments is given what this field makes of what is supplied. -/
theorem Tool.accept_single {name : Text} {presence : Presence} {s : Shape} {v x : Value}
    (ordinary : name ∉ selfDescriptions) (unicode : name.isScalar = true)
    (arguments : t.arguments
      = .record (.model { extra := .forbid }) t.argumentsClass .forbid [(name, presence, s)])
    (makes : ∀ self, Check.Makes (s.checkWithin self) v x) :
    t.accept (Value.ofMembers [(name, v)]) = .ok [(name, x)] := by
  obtain ⟨self, checked⟩ := Shape.check_record (.model { extra := .forbid }) t.argumentsClass .forbid
    [(name, presence, s)] [(.text name, v)]
  have supplied : Value.find? (.text name) [(.text name, v)] = some v := by
    simp [Value.find?, Value.same]
  have accepted : Check.Gives (t.arguments.check (Value.ofMembers [(name, v)]))
      (.record .model t.argumentsClass [(name, x)] []) := by
    rw [arguments, Value.ofMembers, List.map_singleton, checked]
    have fields : List.Forall₂ (fun f value => value.1 = f.name ∧ ∃ w, f.verdict = some w ∧
        Check.Gives w value.2) (Shape.checkFields self [(name, presence, s)] [(.text name, v)])
        [(name, x)] := by
      rw [Shape.checkFields_eq_map]
      exact .cons ⟨rfl, _, congrArg (Option.map (s.checkWithin self)) supplied, makes self⟩ .nil
    exact Check.gives_assemble_forbid [(name, v)] (Check.fieldValues_of_gives fields)
      (List.forall_mem_singleton.mpr ⟨List.mem_cons_self, unicode⟩)
  obtain ⟨a, accepted, value⟩ := accepted
  rw [Tool.accept, accepted]
  simp only [value, argumentsOf, List.map_singleton, reserved?_of_not_mem ordinary, Option.getD_none]

/-- An identity is called with a value that its shapes carry, and what it gives back is written as that
value. -/
theorem Declaration.Makes.identity (made : d.Makes t) (identity : t.entry.IsIdentity type)
    (read : type.resolve = .ok type') (carried : type'.IsCarried j) :
    ∃ as x written, t.accept (identityArguments j) = .ok as ∧ t.entry.call as = .returned x ∧
      written.sortKeys = j.sortKeys ∧
      t.finish x = if j.isSendable then some written else none := by
  obtain ⟨x, written, alike, -, carries⟩ := carried
  obtain ⟨hints, fields, hinted, arguments, stands⟩ := made.arguments
  obtain ⟨-, -, hints', hinted', -, result⟩ := Tool.make_eq_ok made.made
  have hints_eq := identity.hints read
  obtain rfl := Except.ok.inj (hinted.symm.trans hints_eq)
  obtain rfl := Except.ok.inj (hinted'.symm.trans hints_eq)
  have parameters : t.entry.fieldParameters = [Sample.parameter "x" type] := by
    rw [Function.fieldParameters, identity.parameters]
    rfl
  rw [parameters] at stands
  obtain ⟨⟨_, presence, s⟩, _, ⟨rfl, -, shaped⟩, none, rfl⟩ := List.forall₂_cons_left_iff.mp stands
  obtain rfl := List.forall₂_nil_left_iff.mp none
  have carriedArgument : s.Carries j x written := carries _ _ shaped
  have carriedResult : t.result.Carries j x written := carries _ _ result
  refine ⟨[("x", x)], x, written, ?_, identity.call x, alike, ?_⟩
  · exact Tool.accept_single (by decide) rfl arguments carriedArgument.makes
  · obtain ⟨a, checked, value⟩ := carriedResult.keeps _
    rw [Tool.finish, Shape.check, checked]
    dsimp only
    rw [value, Shape.dump, carriedResult.writes]
    dsimp only
    rw [← Json.isSendable_sortKeys, alike, Json.isSendable_sortKeys]

namespace Dispatcher

variable {κ σ τ : Type} {table : ExtensionTable κ τ} {declarations : List Declaration}
  {configs : List (ExtensionConfig κ)} {policy : Policy} {serviceId : Text} {isTracing : Bool}
  {sink : Option (AuditSink σ)} {s : Service σ τ} {caller : Option Identity} {name : Text}

/-- An allowed call of a tool with arguments that it accepts has the outcome that the tool leads to. -/
theorem dispatch_of_accept {given : Value} {as : Arguments} (found : s.dispatcher.registry.find? name = some t)
    (allowed : s.dispatcher.gate.decide caller name = .allow)
    (decoded : decodeArguments given = .ok given) (accepted : t.accept given = .ok as) (j : Journal σ) :
    (s.dispatcher.dispatch j caller name given).outcome = .ok (conclude t (t.entry.call as)).1 := by
  have accepts : s.dispatcher.Accepts { caller, tool := name, given } { tool := t, arguments := as } :=
    ⟨found, given, decoded, accepted⟩
  rw [dispatch, dispatchIn_of_accepts Entry.pure s.dispatcher j () allowed accepts]
  rfl

/-- What an allowed call of an identity comes to. -/
theorem outcome_identity
    (started : (Service.start table declarations configs policy serviceId isTracing sink).result
      = .ok s) (exact : type.Exact) (canonical : type.Canonical j)
    (found : s.dispatcher.registry.find? name = some t) (identity : t.entry.IsIdentity type)
    (allowed : s.dispatcher.gate.decide caller name = .allow) (journal : Journal σ) :
    ∃ written, written.sortKeys = j.sortKeys ∧
      (s.dispatcher.dispatch journal caller name (identityArguments j)).outcome
        = .ok (if j.isSendable then .result written
            else .toolError t.name "Tool returned an invalid result") := by
  obtain ⟨r, built, rfl⟩ := Service.start_eq_assemble started
  obtain ⟨d, -, made⟩ := Registry.made_of_mem built (List.mem_of_find?_eq_some found)
  obtain ⟨type', read, -⟩ := TypeExpr.exists_resolve exact
  obtain ⟨as, x, written, accepted, called, alike, finished⟩ :=
    made.identity identity read (canonical.isCarried exact read)
  refine ⟨written, alike, ?_⟩
  rw [dispatch_of_accept found allowed rfl accepted, called, conclude, finished]
  by_cases short : j.isSendable = true
  · rw [if_pos short, if_pos short]
  · rw [if_neg short, if_neg short]

/-- **Calls that come back**: an allowed call of a tool that gives back its argument, with a value that is
written as its type says and has no integer that is too long, has that value as its result; only members of
models may come in another order. -/
theorem dispatch_identity
    (started : (Service.start table declarations configs policy serviceId isTracing sink).result
      = .ok s) (exact : type.Exact) (canonical : type.Canonical j) (short : j.isSendable = true)
    (found : s.dispatcher.registry.find? name = some t) (identity : t.entry.IsIdentity type)
    (allowed : s.dispatcher.gate.decide caller name = .allow) (journal : Journal σ) :
    ∃ written, written.sortKeys = j.sortKeys ∧
      (s.dispatcher.dispatch journal caller name (identityArguments j)).outcome = .ok (.result written) := by
  obtain ⟨written, alike, outcome⟩ := outcome_identity started exact canonical found identity allowed journal
  exact ⟨written, alike, by rw [outcome, if_pos short]⟩

end Dispatcher

/-! ### A small service -/

namespace Service

/-- The declaration of an identity. -/
def identityDeclaration (type : TypeExpr) : Declaration where
  candidate := .function (Sample.function "f" [Sample.parameter "x" type] type fun as =>
    .returned (Sample.argument as "x")) none none
  description := .text "Gives back its argument"
  name := none

/-- The start of a service whose only tool is an identity, which everybody may call. -/
def identityStart (type : TypeExpr) : Start (Service Unit Shim) :=
  start standardExtensions [identityDeclaration type] [] { rules := [("f", "use")], anonymous := ["use"] }
    standardId false none

/-- The tool of this service is an identity. -/
theorem exists_identity {s : Service Unit Shim} (started : (identityStart type).result = .ok s)
    (allowed : s.dispatcher.gate.decide none "f" = .allow) :
    ∃ t, s.dispatcher.registry.find? "f" = some t ∧ t.entry.IsIdentity type := by
  obtain ⟨t, found⟩ := s.exists_tool_of_allowed allowed
  obtain ⟨r, built, rfl⟩ := start_eq_assemble started
  obtain ⟨d, declared, made⟩ := Registry.made_of_mem built (List.mem_of_find?_eq_some found)
  obtain rfl := List.mem_singleton.mp declared
  obtain ⟨_, -, entry⟩ := bind_eq_ok.mp made.entryPoint
  obtain ⟨_, -, entry⟩ := bind_eq_ok.mp entry
  obtain ⟨_, -, entry⟩ := bind_eq_ok.mp entry
  exact ⟨t, found, pure_eq_ok.mp entry ▸ ⟨rfl, rfl, fun _ => rfl⟩⟩

end Service

namespace Dispatcher

/-- The fields of a model: a list, and a text that may be missing. -/
def pairFields : List (Text × Presence × TypeExpr) :=
  [("a", .required, .list (.atom .int)), ("b", .default .null, .optional (.atom .str))]

/-- The model of these fields. -/
def pairModel : TypeExpr := .record (.model {}) "M" pairFields

/-- A value of this model, with its members in another order. -/
def pairValue : Json := .object [("b", .text "t"), ("a", .array [.int 1, .int (-2)])]

theorem modelFields_pairFields : TypeExpr.modelFields {} pairFields = pairFields := rfl

theorem exact_pairModel : pairModel.Exact := by
  refine .model rfl (modelFields_pairFields.symm ▸ by decide) ?_
  rw [modelFields_pairFields, pairFields, List.forall_mem_cons, List.forall_mem_singleton]
  exact ⟨.list (.atom (by decide)), .optional (.atom (by decide))⟩

theorem canonical_pairValue : pairModel.Canonical pairValue := by
  refine .model (modelFields_pairFields.symm ▸ List.Perm.swap _ _ _) ?_
  rw [modelFields_pairFields, pairFields, List.forall_mem_cons, List.forall_mem_singleton]
  constructor
  · rw [List.forall_mem_cons, List.forall_mem_singleton]
    refine ⟨fun other => absurd other (by decide), fun _ => .list ?_⟩
    rw [List.forall_mem_cons, List.forall_mem_singleton]
    exact ⟨.int 1, .int (-2)⟩
  · rw [List.forall_mem_cons, List.forall_mem_singleton]
    exact ⟨fun _ => .present (.text rfl), fun other => absurd other (by decide)⟩

/-- A value of a model comes back. -/
theorem dispatch_identity_pair :
    ∃ s, (Service.identityStart pairModel).result = .ok s ∧
      ∃ written, written.sortKeys = pairValue.sortKeys ∧
        (s.dispatcher.dispatch { kept := () } none "f" (identityArguments pairValue)).outcome
          = .ok (.result written) := by
  obtain ⟨s, started, seen⟩ := Service.exists_of_any
    (fun s => s.dispatcher.gate.decide none "f" = .allow)
    (by decide +kernel : (Service.identityStart pairModel).result.toOption.any _ = true)
  have allowed := of_decide_eq_true seen
  obtain ⟨t, found, identity⟩ := Service.exists_identity started allowed
  exact ⟨s, started, dispatch_identity started exact_pairModel canonical_pairValue (by decide +kernel) found
    identity allowed _⟩

/-- An integer with one digit too many does not come back. -/
theorem refused_identity_long :
    ∃ s, (Service.identityStart (.atom .int)).result = .ok s ∧
      s.dispatcher.gate.decide none "f" = .allow ∧
      (TypeExpr.atom .int).Exact ∧ (TypeExpr.atom .int).Canonical (.int (10 ^ 4300)) ∧
      (s.dispatcher.dispatch { kept := () } none "f" (identityArguments (.int (10 ^ 4300)))).outcome
        = .ok (.toolError "f" "Tool returned an invalid result") := by
  obtain ⟨s, started, seen⟩ := Service.exists_of_any
    (fun s => s.dispatcher.gate.decide none "f" = .allow)
    (by decide +kernel : (Service.identityStart (.atom .int)).result.toOption.any _ = true)
  have allowed := of_decide_eq_true seen
  obtain ⟨t, found, identity⟩ := Service.exists_identity started allowed
  have exact : (TypeExpr.atom .int).Exact := .atom (by decide)
  obtain ⟨written, -, outcome⟩ := outcome_identity started exact (.int (10 ^ 4300)) found identity allowed
    { kept := () }
  have long : (Json.int (10 ^ 4300)).isSendable = false := by
    have ten : (10 : Int).natAbs = 10 := rfl
    rw [← Bool.not_eq_true, Json.isSendable_int_iff, Int.natAbs_pow, ten, Text.digitLimit]
    exact Nat.lt_irrefl _
  rw [long, if_neg Bool.false_ne_true, Registry.name_of_find? found] at outcome
  exact ⟨s, started, allowed, exact, .int _, outcome⟩

end Dispatcher

end GuardedTools
