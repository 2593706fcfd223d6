import GuardedTools.Proofs.Service.Discovery
import GuardedTools.Proofs.Service.Dispatch
import GuardedTools.Proofs.Service.Identity
import GuardedTools.Proofs.Shape.Canonical
import GuardedTools.Proofs.Shape.Heeded

/-!
# What the published schema promises

A caller who keeps to the schema that is published of a tool's arguments is not told that they are invalid
(`Dispatcher.dispatch_advertised`).  This is shown for functions whose parameters have types built of texts,
integers, truth values, nothing, lists, maps by texts, options and models (`TypeExpr.Basic`).  What such types
are read as has shapes of which everything that is checked is published (`TypeExpr.Basic.shape`), and so the
class of the arguments takes what is valid under its document (`Declaration.Makes.accepts_of_isValid`).
-/

namespace GuardedTools

/-! ### Types -/

namespace TypeExpr

/-- The types of which everything that is checked is published. -/
inductive Basic : TypeExpr → Prop
  | atom {a : AtomType} (plain : a ∈ [AtomType.str, .int, .bool, .none]) : Basic (atom a)
  | list {t : TypeExpr} (item : Basic t) : Basic (list t)
  | dict {t : TypeExpr} (value : Basic t) : Basic (dict (.atom .str) t)
  | optional {t : TypeExpr} (inner : Basic t) : Basic (union [t, .atom .none])
  /-- A model with its settings as they are by default, whose fields have different names. -/
  | model {options : ModelOptions} {name : Text} {fields : List (Text × Presence × TypeExpr)}
    (settings : options.extra = .ignore) (distinct : ((modelFields options fields).map (·.1)).Nodup)
    (unicode : ∀ f ∈ modelFields options fields, f.1.isScalar = true)
    (types : ∀ f ∈ modelFields options fields, Basic f.2.2) : Basic (record (.model options) name fields)

variable {t t' : TypeExpr} {context : Context} {s : Shape}

/-- These are types that say exactly how their values are written. -/
theorem Basic.exact (basic : Basic t) : Exact t := by
  induction basic with
  | @atom a plain =>
    have among : ∀ a ∈ [AtomType.str, .int, .bool, .none], a ∈ [AtomType.str, .int, .float, .bool, .none] := by
      decide
    exact .atom (among a plain)
  | list _ ih => exact .list ih
  | dict _ ih => exact .dict ih
  | optional _ ih => exact .optional ih
  | model settings distinct _ _ ih => exact .model settings distinct ih

/-- A type has a basic shape, which is that of something present if the type is. -/
structure ShapesBasic (t : TypeExpr) (s : Shape) : Prop where
  basic : s.Basic
  present : t.isSingle = true → s.isPresent = true

/-- An option of a type has a basic shape if the type has. -/
theorem shapesBasic_optional (settled : Settled t) (inner : ∀ s, t.shape context = .ok s → ShapesBasic t s)
    (shaped : (unionOf [t, atom .none]).shape context = .ok s) : ShapesBasic (unionOf [t, atom .none]) s := by
  cases settled with
  | none =>
    cases shaped
    exact ⟨.none, nofun⟩
  | single one =>
    rw [unionOf_single one] at shaped ⊢
    obtain ⟨s', shaped', rfl⟩ := shape_optional one shaped
    have of := inner s' shaped'
    exact ⟨.nullable of.basic (of.present one), nofun⟩
  | optional one =>
    rw [unionOf_optional one] at shaped ⊢
    exact inner s shaped

/-- **Basic types have basic shapes**, in every context. -/
theorem Basic.shape (basic : Basic t) (read : t.resolve = .ok t') (shaped : t'.shape context = .ok s) :
    ShapesBasic t' s := by
  induction basic generalizing t' s context with
  | @atom a plain =>
    obtain rfl := Except.ok.inj read
    obtain rfl := Except.ok.inj shaped
    simp only [List.mem_cons, List.not_mem_nil, or_false] at plain
    rcases plain with rfl | rfl | rfl | rfl
    · exact ⟨.str, fun _ => rfl⟩
    · exact ⟨.int, fun _ => rfl⟩
    · exact ⟨.bool, fun _ => rfl⟩
    · exact ⟨.none, nofun⟩
  | list _ ih =>
    obtain ⟨item, inner, read⟩ := bind_eq_ok.mp read
    obtain rfl := pure_eq_ok.mp read
    rw [TypeExpr.shape] at shaped
    obtain ⟨s, found, shaped⟩ := bind_eq_ok.mp shaped
    obtain rfl := pure_eq_ok.mp shaped
    exact ⟨.list (ih inner (mapError_eq_ok.mp found)).basic, fun _ => rfl⟩
  | dict _ ih =>
    obtain ⟨key, keyRead, read⟩ := bind_eq_ok.mp read
    obtain ⟨value, inner, read⟩ := bind_eq_ok.mp read
    obtain rfl := pure_eq_ok.mp read
    obtain rfl := Except.ok.inj keyRead
    rw [TypeExpr.shape] at shaped
    obtain ⟨k, foundKey, shaped⟩ := bind_eq_ok.mp shaped
    obtain ⟨s, found, shaped⟩ := bind_eq_ok.mp shaped
    obtain rfl := pure_eq_ok.mp shaped
    obtain rfl := Except.ok.inj (mapError_eq_ok.mp foundKey)
    exact ⟨.dict (ih inner (mapError_eq_ok.mp found)).basic, fun _ => rfl⟩
  | optional inner ih =>
    obtain ⟨u, innerRead, settled, rfl⟩ := resolve_optional inner.exact read
    exact shapesBasic_optional settled (fun s shaped => ih innerRead shaped) shaped
  | @model options name fields settings distinct unicode types ih =>
    obtain rfl := Except.ok.inj read
    rw [TypeExpr.shape] at shaped
    obtain ⟨ss, shapes, shaped⟩ := bind_eq_ok.mp shaped
    obtain rfl := pure_eq_ok.mp shaped
    -- The class has the fields of the model, in their order, and each one the shape of its type.
    have fieldwise := fieldShapes_resolveFields (insideClass_eq_ok.mp shapes)
    have names : ss.map (·.1) = (modelFields options fields).map (·.1) :=
      map_eq_of_forall₂ (fun h => h.name) fieldwise
    rw [settings]
    refine ⟨.record ⟨names ▸ distinct, fun field member => ?_⟩ fun field member => ?_, fun _ => rfl⟩
    · obtain ⟨f, declared, shapes⟩ := exists_left_of_mem fieldwise member
      rw [shapes.name]
      exact unicode f declared
    · obtain ⟨f, declared, shapes⟩ := exists_left_of_mem fieldwise member
      obtain ⟨u, inner, -⟩ := exists_resolve (types f declared).exact
      have shaped := shapes.shape
      rw [inner] at shaped
      exact (ih f declared inner shaped).basic

end TypeExpr

/-! ### Arguments -/

/-- A function has parameters with different names, which are Unicode, as those of every function are, and
with basic types. -/
structure Function.IsBasic (f : Function) : Prop where
  distinct : (f.parameters.map (·.name)).Nodup
  unicode : ∀ p ∈ f.parameters, p.name.isScalar = true
  types : ∀ p ∈ f.parameters, ∃ t, p.type = some t ∧ t.Basic

namespace Function

variable {f : Function} {hints : Hints} {p : Parameter}

/-- What is read of a parameter with a type is what its type is read as. -/
theorem mem_parameterHints {ps : List Parameter} {read : List (Text × TypeExpr)} {t : TypeExpr}
    (h : parameterHints ps = .ok read) (member : p ∈ ps) (typed : p.type = some t) :
    ∃ t', t.resolve = .ok t' ∧ (p.name, t') ∈ read := by
  induction ps generalizing read with
  | nil => cases member
  | cons q ps ih =>
    rw [parameterHints] at h
    rcases List.mem_cons.mp member with rfl | member
    · rw [typed] at h
      obtain ⟨t', resolved, h⟩ := bind_eq_ok.mp h
      obtain ⟨rest, -, h⟩ := bind_eq_ok.mp h
      obtain rfl := pure_eq_ok.mp h
      exact ⟨t', resolved, List.mem_cons_self⟩
    · split at h
      · exact ih h member
      · obtain ⟨_, -, h⟩ := bind_eq_ok.mp h
        obtain ⟨rest, others, h⟩ := bind_eq_ok.mp h
        obtain rfl := pure_eq_ok.mp h
        obtain ⟨t', resolved, among⟩ := ih others member
        exact ⟨t', resolved, List.mem_cons_of_mem _ among⟩

/-- Where parameters have types there is one hint for each of them. -/
theorem names_parameterHints {ps : List Parameter} {read : List (Text × TypeExpr)}
    (h : parameterHints ps = .ok read) (typed : ∀ p ∈ ps, ∃ t, p.type = some t) :
    read.map (·.1) = ps.map (·.name) := by
  induction ps generalizing read with
  | nil =>
    cases h
    rfl
  | cons p ps ih =>
    rw [List.forall_mem_cons] at typed
    obtain ⟨⟨t, first⟩, others⟩ := typed
    rw [parameterHints, first] at h
    obtain ⟨t', -, h⟩ := bind_eq_ok.mp h
    obtain ⟨rest, found, h⟩ := bind_eq_ok.mp h
    obtain rfl := pure_eq_ok.mp h
    rw [List.map_cons, List.map_cons, ih found others]

/-- The type of a parameter of a basic function is read from a basic type. -/
theorem IsBasic.typeOf (basic : f.IsBasic) (hinted : f.hints = .ok hints) (member : p ∈ f.parameters) :
    ∃ t : TypeExpr, t.Basic ∧ t.resolve = .ok (hints.typeOf p) := by
  obtain ⟨read, found, hinted⟩ := bind_eq_ok.mp (mapError_eq_ok.mp hinted)
  obtain ⟨result, -, hinted⟩ := bind_eq_ok.mp hinted
  obtain rfl := pure_eq_ok.mp hinted
  obtain ⟨t, typed, basicType⟩ := basic.types p member
  obtain ⟨t', resolved, among⟩ := mem_parameterHints found member typed
  have names := names_parameterHints found fun p member => (basic.types p member).imp fun _ h => h.1
  -- under the name of the parameter there is only its own type
  have one : read.find? (fun q => q.1 == p.name) = some (p.name, t') :=
    find?_of_nodup (a := (p.name, t')) (names ▸ basic.distinct) among
  refine ⟨t, basicType, ?_⟩
  rw [Hints.typeOf, one]
  exact resolved

end Function

/-- The class of the arguments of a basic function accepts what is valid under its document. -/
theorem Declaration.Makes.accepts_of_isValid {d : Declaration} {t : Tool} {ms : List (Text × Json)}
    (made : d.Makes t) (basic : t.entry.IsBasic)
    (valid : (Descriptor.readSchema t.descriptor.inputSchema).IsValid (.object ms))
    (integers : (Json.object ms).writesIntegers = true) : ∃ as, t.accept (.ofJson (.object ms)) = .ok as := by
  obtain ⟨hints, fields, hinted, arguments, stands⟩ := made.arguments
  obtain ⟨schema, -, published, written, -⟩ := made.schemas
  -- Of each field it is known for which parameter it stands.
  have each : ∀ field ∈ fields, ∃ p ∈ t.entry.parameters, Function.StandsFor hints p field := by
    intro field member
    obtain ⟨p, among, stand⟩ := exists_left_of_mem stands member
    exact ⟨p, List.mem_of_mem_filter among, stand⟩
  have names : Shape.HavePlainNames fields := by
    constructor
    · have keys : fields.map (·.1) = t.entry.fieldParameters.map (·.name) :=
        map_eq_of_forall₂ (fun stand => stand.name) stands
      rw [keys]
      exact basic.distinct.sublist (List.filter_sublist.map _)
    · intro field member
      obtain ⟨p, among, stand⟩ := each field member
      exact stand.name ▸ basic.unicode p among
  have shapes : ∀ field ∈ fields, field.2.2.Basic := by
    intro field member
    obtain ⟨p, among, stand⟩ := each field member
    obtain ⟨type, basicType, read⟩ := basic.typeOf hinted among
    exact (basicType.shape read stand.shape).basic
  rw [Descriptor.readSchema_eq written] at valid
  rw [arguments] at published
  have takes := Shape.takes_of_isValid names shapes published valid integers
  obtain ⟨x, a, accepted, -⟩ := takes fun _ => .refused .tooDeep
  refine ⟨Tool.argumentsOf (.ofJson (.object ms)) a.value, ?_⟩
  have checked : t.arguments.check (.ofJson (.object ms)) = .ok a := by
    rw [arguments, Shape.check]
    exact accepted
  rw [Tool.accept, checked]

/-! ### Calls -/

namespace Dispatcher

/-- **The published schema is kept**: what is valid under the schema that is published of the arguments of a
registered tool, whose parameters have basic types, is accepted by the tool, if integers are written as
integers.  So a call of the tool that is allowed, and whose arguments decode to such an object, enters the tool
and is not told that its arguments are invalid. -/
theorem dispatch_advertised {σ : Type} {d : Dispatcher σ} {ds : List Declaration} {frozen : Bool} {name : Text}
    {t : Tool} {ms : List (Text × Json)} (built : Registry.build ds frozen = .ok d.registry)
    (found : d.registry.find? name = some t) (basic : t.entry.IsBasic)
    (valid : (Descriptor.readSchema t.descriptor.inputSchema).IsValid (.object ms))
    (integers : (Json.object ms).writesIntegers = true) :
    ∃ as, t.accept (.ofJson (.object ms)) = .ok as ∧
      ∀ (ω : Type) (enter : Entry ω) (j : Journal σ) (world : ω) (call : Call), call.tool = name →
        d.gate.decide call.caller call.tool = .allow →
        decodeArguments call.given = .ok (.ofJson (.object ms)) →
        ∃ o, (d.answer enter j world call).done.outcome = .ok o ∧
          o.category? ≠ some (Text.ofString "validation_error") ∧
          (d.answer enter j world call).done.entered = some { tool := t, arguments := as } := by
  obtain ⟨declaration, -, made⟩ := Registry.made_of_mem built (List.mem_of_find?_eq_some found)
  obtain ⟨as, accepted⟩ := made.accepts_of_isValid basic valid integers
  refine ⟨as, accepted, fun ω enter j world call called allowed decoded => ?_⟩
  have accepts : d.Accepts call { tool := t, arguments := as } :=
    ⟨called ▸ found, .ofJson (.object ms), decoded, accepted⟩
  rw [answer, dispatchIn_of_accepts enter d j world allowed accepts]
  refine ⟨_, rfl, ?_, rfl⟩
  -- A tool that was entered ends with a result or with an error of its own.
  rcases conclude_isResult_or_toolError t (enter { tool := t, arguments := as } world).1 with result | failed
  · rw [result.category?]
    intro same
    cases same
  · rw [failed, ne_eq, Option.some.injEq, Text.ofString_inj]
    decide

/-! ### An identity of pairs -/

/-- What pairs are checked as. -/
def pairShape : Shape :=
  .record (.model {}) "M" .ignore
    [("a", .required, .list (.int {}) {}), ("b", .default .null, .nullable (.str {} none))]

theorem shape_pairModel : ∃ t, pairModel.resolve = .ok t ∧ t.shape .arguments = .ok pairShape :=
  ⟨_, rfl, rfl⟩

theorem basic_pairModel : pairModel.Basic := by
  have plain : ∀ f ∈ pairFields, f.1.isScalar = true := by decide
  refine .model rfl (modelFields_pairFields.symm ▸ by decide) (modelFields_pairFields.symm ▸ plain) ?_
  rw [modelFields_pairFields, pairFields, List.forall_mem_cons, List.forall_mem_singleton]
  exact ⟨.list (.atom (by decide)), .optional (.atom (by decide))⟩

/-- The members of a pair conform to the shapes of their fields. -/
theorem conforms_pairValue (own : Shape) : Shape.Conforms own pairShape pairValue := by
  have allows (n : Nat) : LengthLimits.Allows {} n := ⟨nofun, nofun⟩
  refine .record (by decide) ?_ nofun
  rw [List.forall_mem_cons, List.forall_mem_singleton]
  constructor <;> rw [List.forall_mem_cons, List.forall_mem_singleton]
  · exact ⟨fun other => absurd other (by decide), fun _ => .nullable (.str (allows _) nofun)⟩
  · refine ⟨fun _ => .list ?_ (allows _), fun other => absurd other (by decide)⟩
    rw [List.forall_mem_cons, List.forall_mem_singleton]
    exact ⟨.int nofun, .int nofun⟩

variable {declaration : Declaration} {t : Tool}

theorem isBasic_of_isIdentity {f : Function} (identity : f.IsIdentity pairModel) : f.IsBasic := by
  constructor <;> rw [identity.parameters]
  · decide
  · decide
  · exact List.forall_mem_singleton.mpr ⟨pairModel, rfl, basic_pairModel⟩

/-- The class of the arguments of an identity of pairs has one field. -/
theorem arguments_of_isIdentity (made : declaration.Makes t) (identity : t.entry.IsIdentity pairModel) :
    ∃ presence, t.arguments
      = .record (.model { extra := .forbid }) t.argumentsClass .forbid [("x", presence, pairShape)] := by
  obtain ⟨hints, fields, hinted, arguments, stands⟩ := made.arguments
  obtain ⟨type, read, shaped⟩ := shape_pairModel
  obtain rfl := Except.ok.inj (hinted.symm.trans (identity.hints read))
  have parameters : t.entry.fieldParameters = [Sample.parameter "x" pairModel] := by
    rw [Function.fieldParameters, identity.parameters]
    rfl
  rw [parameters] at stands
  obtain ⟨⟨_, presence, s⟩, _, ⟨rfl, -, shape⟩, none, rfl⟩ := List.forall₂_cons_left_iff.mp stands
  obtain rfl := List.forall₂_nil_left_iff.mp none
  obtain rfl : s = pairShape := Except.ok.inj (shape.symm.trans shaped)
  exact ⟨presence, arguments⟩

/-- A pair is valid under what is published of the arguments of an identity of pairs. -/
theorem isValid_pairValue (made : declaration.Makes t) (identity : t.entry.IsIdentity pairModel)
    (reread : t.arguments.schema.toOption.any Json.isReread = true) :
    (Descriptor.readSchema t.descriptor.inputSchema).IsValid (.object [("x", pairValue)]) := by
  obtain ⟨schema, -, published, written, -⟩ := made.schemas
  obtain ⟨presence, arguments⟩ := arguments_of_isIdentity made identity
  obtain ⟨type, read, shaped⟩ := shape_pairModel
  have basic : pairShape.Basic := (basic_pairModel.shape read shaped).basic
  -- The object conforms to the class, and the document of the class is read back as it was.
  have conforms : Shape.Conforms t.arguments t.arguments (.object [("x", pairValue)]) := by
    rw [arguments]
    refine .record ?_ ?_ fun _ => ?_
    · exact List.forall_mem_singleton.mpr fun _ => ⟨_, List.mem_singleton_self _, rfl⟩
    · rw [List.forall_mem_singleton, List.forall_mem_singleton]
      exact fun _ => conforms_pairValue _
    · exact List.forall_mem_singleton.mpr ⟨_, List.mem_singleton_self _, rfl⟩
  have wellFormed : t.arguments.WellFormed false := by
    rw [arguments]
    exact .record (List.forall_mem_singleton.mpr (basic.wellFormed true))
  rw [published] at reread
  rw [Descriptor.readSchema_eq written]
  exact Json.isValid_readBack reread (Shape.isValid_of_conforms wellFormed published conforms)

/-- What an identity of pairs is called with is valid under its published schema, and so it is entered. -/
theorem dispatch_advertised_pair :
    ∃ s t, (Service.identityStart pairModel).result = .ok s ∧
      s.dispatcher.registry.find? "f" = some t ∧ t.entry.IsBasic ∧
      (Descriptor.readSchema t.descriptor.inputSchema).IsValid (.object [("x", pairValue)]) ∧
      (Json.object [("x", pairValue)]).writesIntegers = true ∧
      ∃ o as, (s.dispatcher.dispatch { kept := () } none "f" (identityArguments pairValue)).outcome = .ok o ∧
        o.category? ≠ some (Text.ofString "validation_error") ∧
        (s.dispatcher.dispatch { kept := () } none "f" (identityArguments pairValue)).entered
          = some { tool := t, arguments := as } := by
  obtain ⟨s, started, seen⟩ := Service.exists_of_any
    (fun s => decide (s.dispatcher.gate.decide none "f" = .allow) &&
      (s.dispatcher.registry.find? "f").all fun t => t.arguments.schema.toOption.any Json.isReread)
    (by decide +kernel : (Service.identityStart pairModel).result.toOption.any _ = true)
  rw [Bool.and_eq_true, decide_eq_true_eq] at seen
  obtain ⟨allowed, reread⟩ := seen
  obtain ⟨t, found, identity⟩ := Service.exists_identity started allowed
  rw [found] at reread
  obtain ⟨r, built, rfl⟩ := Service.start_eq_assemble started
  obtain ⟨declaration, -, made⟩ := Registry.made_of_mem built (List.mem_of_find?_eq_some found)
  have basic := isBasic_of_isIdentity identity
  have valid := isValid_pairValue made identity reread
  obtain ⟨as, -, answered⟩ := dispatch_advertised (Registry.build_freeze built) found basic valid rfl
  obtain ⟨o, outcome, other, entered⟩ := answered Unit Entry.pure { kept := () } ()
    { caller := none, tool := "f", given := identityArguments pairValue } rfl allowed rfl
  exact ⟨_, t, started, found, basic, valid, rfl, o, as, outcome, other, entered⟩

end Dispatcher

end GuardedTools
