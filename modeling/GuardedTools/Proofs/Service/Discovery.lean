import GuardedTools.Http.App
import GuardedTools.Proofs.Service.Transport
import GuardedTools.Proofs.Shape.Numbers
import GuardedTools.Proofs.Tool.Made

/-!
# Discovery

The tools are listed for a caller exactly if everything that is listed can be sent
(`Http.App.handle_tools`).  A schema is listed as it is read back from its canonical text, and this text
has words for numbers that are not finite, which the transport refuses.  So a tool is listed whose limits,
literals, defaults and notes are finite and whose texts are Unicode (`Declaration.Makes.isListed`), and
with a parameter that is infinite by default there is a descriptor that cannot be sent
(`Descriptor.unlisted_infinite`).
-/

namespace GuardedTools

/-! ### Descriptors -/

namespace Descriptor

/-- A schema that was written is listed as what is read back of it. -/
theorem readSchema_eq {schema : Json} {t : Text} (h : schema.canonicalText = .ok t) :
    readSchema t = schema.sortKeys.readBack := by
  rw [readSchema, Json.read_canonicalText h]
  rfl

/-- The numbers that are listed are those of the schemas. -/
theorem isSendable_toJson (d : Descriptor) :
    d.toJson.isSendable = ((readSchema d.inputSchema).isSendable && (readSchema d.result.schema).isSendable) := by
  have parameters : Json.areSendable (d.parameters.map fun p => Json.record [
      ("name", .text p.name), ("type", .text p.type.name), ("required", .bool p.required)]) = true := by
    rw [Json.areSendable_eq_all, List.all_map]
    exact List.all_eq_true.mpr fun _ _ => rfl
  show (Json.areSendable _ && ((readSchema d.inputSchema).isSendable
    && ((readSchema d.result.schema).isSendable && true && true))) = _
  rw [parameters, Bool.and_true, Bool.and_true, Bool.true_and]

/-- The texts that are listed are the names, the description and those of the schemas. -/
theorem isScalar_toJson {d : Descriptor} (name : d.name.isScalar = true)
    (description : d.description.isScalar = true)
    (parameters : ∀ p ∈ d.parameters, p.name.isScalar = true ∧ p.type.name.isScalar = true)
    (inputSchema : (readSchema d.inputSchema).isScalar = true)
    (result : d.result.name.isScalar = true ∧ (readSchema d.result.schema).isScalar = true)
    (error : d.error = .string) : d.toJson.isScalar = true := by
  have shown : Json.areScalar (d.parameters.map fun p => Json.record [
      ("name", .text p.name), ("type", .text p.type.name), ("required", .bool p.required)]) = true := by
    generalize d.parameters = ps at parameters
    induction ps with
    | nil => rfl
    | cons p ps ih =>
      rw [List.forall_mem_cons] at parameters
      rw [List.map_cons, Json.areScalar, ih parameters.2, Bool.and_true]
      simp [Json.record, Json.members, Json.isScalar, Json.areScalarMembers, parameters.1]
  have errorName : d.error.name.isScalar = true := error ▸ rfl
  simpa [toJson, Json.record, Json.members, Json.isScalar, Json.areScalarMembers, name, description,
    inputSchema, result, errorName] using shown

end Descriptor

/-! ### Tools -/

/-- What discovery lists about a tool is made of finite numbers. -/
def Tool.PublishesFinite (t : Tool) : Prop :=
  Json.areFinite t.arguments.publishedData = true ∧ Json.areFinite t.result.publishedData = true

/-- What discovery lists about a tool is made of Unicode texts. -/
structure Tool.PublishesUnicode (t : Tool) : Prop where
  description : t.descriptor.description.isScalar = true
  parameters : ∀ p ∈ t.descriptor.parameters, p.name.isScalar = true ∧ p.type.name.isScalar = true
  result : t.descriptor.result.name.isScalar = true
  schemas : ∀ s ∈ [t.arguments, t.result], ∀ schema, s.schema = .ok schema → schema.isScalar = true

namespace Declaration.Makes

variable {d : Declaration} {t : Tool}

/-- The texts in a descriptor are those of the schemas of the class of the arguments and of the result. -/
theorem schemas (h : d.Makes t) : ∃ arguments result : Json,
    t.arguments.schema = .ok arguments ∧ arguments.canonicalText = .ok t.descriptor.inputSchema ∧
    t.result.schema = .ok result ∧ result.canonicalText = .ok t.descriptor.result.schema := by
  obtain ⟨-, -, -, hints, type, hinted, annotated, -, tagged, written⟩ :=
    Descriptor.ofFunction_eq_ok h.ofFunction
  obtain ⟨-, -, hints', hinted', arguments, result⟩ := Tool.make_eq_ok h.made
  obtain rfl : hints = hints' := Except.ok.inj (hinted.symm.trans hinted')
  rw [annotated, Option.getD_some] at result
  obtain ⟨shape, shaped, written⟩ := bind_eq_ok.mp written
  obtain ⟨schema, published, canonical⟩ := bind_eq_ok.mp written
  obtain rfl : t.arguments = shape := Except.ok.inj (arguments.symm.trans (mapError_eq_ok.mp shaped))
  obtain ⟨s, schema', shaped, published', -, written'⟩ :=
    TypeTag.ofShape_eq_ok.mp (Descriptor.tagOf_eq_ok.mp tagged).2
  obtain rfl : t.result = s := Except.ok.inj (result.symm.trans shaped)
  exact ⟨schema, schema', mapError_eq_ok.mp published, mapError_eq_ok.mp canonical, published', written'⟩

/-- The numbers that discovery lists about a tool can be sent if those of its data are finite. -/
theorem isSendable (h : d.Makes t) (finite : t.PublishesFinite) : t.descriptor.toJson.isSendable = true := by
  obtain ⟨arguments, result, published, written, published', written'⟩ := h.schemas
  have sent {s : Shape} {schema : Json} {text : Text} (published : s.schema = .ok schema)
      (written : schema.canonicalText = .ok text) (finite : Json.areFinite s.publishedData = true) :
      (Descriptor.readSchema text).isSendable = true := by
    rw [Descriptor.readSchema_eq written]
    exact Json.isSendable_readBack (Json.writeFault?_sortKeys (Json.canonicalText_eq_ok.mp written).1)
      (Json.isFinite_sortKeys (Shape.schema_isFinite published finite))
  rw [Descriptor.isSendable_toJson, sent published written finite.1, sent published' written' finite.2]
  rfl

/-- The texts that discovery lists about a tool are Unicode if those are that it is made of. -/
theorem isScalar (h : d.Makes t) (unicode : t.PublishesUnicode) : t.descriptor.toJson.isScalar = true := by
  obtain ⟨arguments, result, published, written, published', written'⟩ := h.schemas
  have read {schema : Json} {text : Text} (written : schema.canonicalText = .ok text)
      (unicode : schema.isScalar = true) : (Descriptor.readSchema text).isScalar = true := by
    rw [Descriptor.readSchema_eq written]
    exact Json.isScalar_readBack (Json.isScalar_sortKeys unicode)
  have input := unicode.schemas _ List.mem_cons_self arguments published
  have output := unicode.schemas _ (List.mem_cons_of_mem _ List.mem_cons_self) result published'
  exact Descriptor.isScalar_toJson h.isScalar_name unicode.description unicode.parameters
    (read written input) ⟨unicode.result, read written' output⟩
    (Descriptor.ofFunction_eq_ok h.ofFunction).2.2.1

/-- **What is listed**: a tool whose data is finite and whose texts are Unicode. -/
theorem isListed (h : d.Makes t) (finite : t.PublishesFinite) (unicode : t.PublishesUnicode) :
    t.descriptor.toJson.strictBytes?.isSome = true := by
  rw [Json.strictBytes?_isSome, h.isSendable finite, h.isScalar unicode]
  rfl

end Declaration.Makes

/-! ### Answers -/

namespace Http.App

variable {σ : Type} {app : App σ} {r : Request} {caller : Identity}

/-- Whether a caller is shown a tool. -/
def shows (app : App σ) (caller : Identity) (tool : Text) : Bool :=
  !app.filtersDiscovery || (app.service.dispatcher.gate.decide (some caller) tool).isAllowed

/-- What a caller who is known is told of the tools. -/
theorem listTools_eq (known : app.caller r = .ok caller) (serving : app.isServing = true) :
    app.listTools r = Reply.ofJson 200 (Json.record [("tools",
      .array ((app.service.registry.descriptors.filter fun d => app.shows caller d.name).map
        Descriptor.toJson))]) := by
  have decided (tool : Text) : app.service.dispatcher.gate.policy.decide (some caller) tool
      (some app.service.dispatcher.registry.names)
        = app.service.dispatcher.gate.decide (some caller) tool := by
    rw [Gate.decide, app.service.names_eq]
  rw [listTools, known, checkServing, serving]
  simp only [← decided, shows]
  rfl

/-- A list of tools can be sent if every descriptor in it can. -/
theorem isSome_strictBytes?_tools {js : List Json} :
    (Json.record [("tools", .array js)]).strictBytes?.isSome = true ↔
      ∀ j ∈ js, j.strictBytes?.isSome = true := by
  have sendable : (Json.record [("tools", .array js)]).isSendable = (Json.array js).isSendable :=
    Bool.and_true _
  have scalar : (Json.record [("tools", .array js)]).isScalar = (Json.array js).isScalar := by
    simp [Json.record, Json.members, Json.isScalar, Json.areScalarMembers]
  simp only [Json.strictBytes?_isSome, sendable, scalar, Bool.and_eq_true, Json.isSendable_array,
    Json.isScalar_array]
  exact ⟨fun h j member => ⟨h.1 j member, h.2 j member⟩,
    fun h => ⟨fun j member => (h j member).1, fun j member => (h j member).2⟩⟩

/-- The tools are listed if everything that is listed can be sent. -/
theorem listTools_status (known : app.caller r = .ok caller) (serving : app.isServing = true) :
    (concluded (app.listTools r)).1.status = 200 ↔
      ∀ t ∈ app.service.registry.tools, app.shows caller t.name = true →
        t.descriptor.toJson.strictBytes?.isSome = true := by
  rw [listTools_eq known serving]
  set shown := Json.record [("tools", .array ((app.service.registry.descriptors.filter fun d =>
    app.shows caller d.name).map Descriptor.toJson))] with listed
  have replied : (concluded (Reply.ofJson 200 shown)).1.status = 200 ↔ shown.strictBytes?.isSome = true := by
    rw [Reply.ofJson, Json.strictBytes?_isSome]
    split
    next sendable => exact iff_of_true rfl sendable
    next unsendable => exact iff_of_false (by decide) unsendable
  rw [replied, listed, isSome_strictBytes?_tools]
  rw [List.forall_mem_map]
  simp only [Registry.descriptors, List.mem_filter, List.mem_map]
  constructor
  · exact fun h t member seen => h t.descriptor ⟨⟨t, member, rfl⟩, seen⟩
  · rintro h _ ⟨⟨t, member, rfl⟩, seen⟩
    exact h t member seen

/-- A request for the tools is answered as listing them says. -/
theorem handle_tools_status (asks : r.method = "GET") (path : r.target.path = "/tools") (j : Journal σ) :
    (app.handle j r).1.status = (concluded (app.listTools r)).1.status := by
  have route : app.route? r.target.path = some .tools := by
    rw [path]
    rfl
  have method : Route.tools.method = r.method := asks.symm
  rw [handle, route]
  show (app.handleAt j .tools r).1.status = _
  rw [handleAt, if_pos method]
  rfl

variable {κ : Type} {table : ExtensionTable κ Shim} {declarations : List Declaration}
  {configs : List (ExtensionConfig κ)} {policy : Policy} {serviceId : Text} {isTracing : Bool}
  {sink : Option (AuditSink σ)}

variable (app r) in
/-- **Discovery**: a caller who asks a service that was started for its tools gets them exactly if
everything that is listed of the tools that the caller is shown can be sent.  The numbers of a tool whose
limits, literals, defaults and notes are finite can be, and all that is listed of it if its texts are Unicode
besides. -/
theorem handle_tools
    (started : (Service.start table declarations configs policy serviceId isTracing sink).result
      = .ok app.service)
    (asks : r.method = "GET") (path : r.target.path = "/tools") (known : app.caller r = .ok caller)
    (serving : app.isServing = true) (j : Journal σ) :
    ((app.handle j r).1.status = 200 ↔
      ∀ t ∈ app.service.registry.tools, app.shows caller t.name = true →
        t.descriptor.toJson.strictBytes?.isSome = true) ∧
    ∀ t ∈ app.service.registry.tools, t.PublishesFinite →
      t.descriptor.toJson.isSendable = true ∧
      (t.PublishesUnicode → t.descriptor.toJson.strictBytes?.isSome = true) := by
  refine ⟨?_, fun t member finite => ?_⟩
  · rw [handle_tools_status asks path]
    exact listTools_status known serving
  · obtain ⟨registry, built, assembled⟩ := Service.start_eq_assemble started
    have among : t ∈ registry.tools := by
      rw [assembled] at member
      exact member
    obtain ⟨d, -, made⟩ := Registry.made_of_mem built among
    exact ⟨made.isSendable finite, made.isListed finite⟩

/-- An application in front of a service, which shows a caller the tools that the caller may call. -/
def filtering (s : Service Unit Shim) : App Unit where
  service := s
  filtersDiscovery := true
  hasAudit := false
  hasMetrics := false
  keys := none
  now := 0
  trail := fun _ => .empty
  moment := fun _ => ""

/-- A request for the tools, without a token. -/
def toolsRequest : Request where
  method := "GET"
  target := { path := "/tools" }

/-- Everybody gets the echo. -/
theorem handle_tools_echo :
    ∃ s, (Service.echoStart Service.echoPolicy).result = .ok s ∧
      ((filtering s).handle { kept := () } toolsRequest).1.status = 200 ∧
      ∃ t ∈ s.registry.tools, (filtering s).shows .anonymous t.name = true := by
  obtain ⟨s, started, seen⟩ := Service.exists_of_any
    (fun s => s.registry.tools.any (fun t => (filtering s).shows .anonymous t.name) &&
      s.registry.tools.all fun t =>
        Json.areFinite t.arguments.publishedData && Json.areFinite t.result.publishedData &&
        t.descriptor.description.isScalar &&
        t.descriptor.parameters.all (fun p => p.name.isScalar && p.type.name.isScalar) &&
        t.descriptor.result.name.isScalar &&
        [t.arguments, t.result].all fun s => s.schema.toOption.all Json.isScalar)
    (by decide +kernel : (Service.echoStart Service.echoPolicy).result.toOption.any _ = true)
  rw [Bool.and_eq_true, List.any_eq_true, List.all_eq_true] at seen
  obtain ⟨answers, data⟩ := handle_tools (filtering s) toolsRequest started rfl rfl rfl rfl
    { kept := () }
  refine ⟨s, started, answers.mpr fun t member _ => ?_, seen.1⟩
  have listed := seen.2 t member
  simp only [Bool.and_eq_true, List.all_eq_true] at listed
  obtain ⟨⟨⟨⟨⟨arguments, result⟩, description⟩, parameters⟩, resultName⟩, schemas⟩ := listed
  refine (data t member ⟨arguments, result⟩).2 ⟨description, parameters, resultName, ?_⟩
  intro s among schema made
  have unicode := schemas s among
  rw [made] at unicode
  exact unicode

end Http.App

/-- The declaration of a tool that takes a number, which is infinite by default. -/
def infiniteDeclaration : Declaration where
  candidate := .function (Sample.function "f"
    [{ Sample.parameter "a" (.atom .float) with default := some (.float (.infinity false)) }]
    (.atom .float) fun _ => .returned .null) none none
  description := .text "d"
  name := none

/-- A tool that takes an infinite number by default is registered, and cannot be listed. -/
theorem Descriptor.unlisted_infinite :
    ∃ r t, Registry.build [infiniteDeclaration] true = .ok r ∧ t ∈ r.tools ∧
      t.descriptor.toJson.strictBytes? = none := by
  obtain ⟨r, built, seen⟩ := ok_of_any
    (by decide +kernel : (Registry.build [infiniteDeclaration] true).toOption.any (fun r =>
      r.tools.any fun t => t.arguments.schema.toOption.any
        (Json.isInfiniteAt ["properties", "a", "default"])) = true)
  obtain ⟨t, member, seen⟩ := List.any_eq_true.mp seen
  obtain ⟨schema, published, infinite⟩ := ok_of_any seen
  obtain ⟨d, -, made⟩ := Registry.made_of_mem built member
  obtain ⟨arguments, result, published', written, -⟩ := made.schemas
  obtain rfl : schema = arguments := Except.ok.inj (published.symm.trans published')
  refine ⟨r, t, built, member, ?_⟩
  have unsendable := Json.not_isSendable_of_isInfiniteAt infinite
  rw [← Option.not_isSome_iff_eq_none, Json.strictBytes?_isSome, isSendable_toJson, readSchema_eq written,
    Bool.eq_false_iff.mpr unsendable]
  nofun

end GuardedTools
