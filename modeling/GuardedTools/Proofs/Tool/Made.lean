import GuardedTools.Proofs.Basic
import GuardedTools.Tool.Registry
import GuardedTools.Tool.Sample

/-!
# What a registered tool is

A registry is built of declarations just when a tool is made of each, under names that differ
(`Registry.build_eq_ok`).  So a tool in it is made of one of its declarations
(`Registry.made_of_mem`).

A tool is made of whatever has a descriptor (`Declaration.exists_makes`), so a registry is built just
when each declaration has one, under names that differ, and it is otherwise the first declaration
without a descriptor or a new name that ends the build (`Registry.build_exact`).
-/

namespace GuardedTools

/-- A tool is made of a declaration: of its descriptor and of the function that it exports. -/
structure Declaration.Makes (d : Declaration) (t : Tool) : Prop where
  descriptor : d.descriptor = .ok t.descriptor
  entryPoint : d.entryPoint = .ok t.entry
  made : Tool.make t.descriptor t.entry = .ok t

namespace Tool

theorem map_name (ts : List Tool) : (ts.map Tool.descriptor).map Descriptor.name = ts.map Tool.name :=
  List.map_map

theorem make_eq_ok {d : Descriptor} {f : Function} {t : Tool} (h : make d f = .ok t) :
    t.descriptor = d ∧ t.entry = f ∧ ∃ hints, f.hints = .ok hints ∧
      f.argumentsShape d.name hints = .ok t.arguments ∧
      (hints.result.getD (.atom .any)).shape .plain = .ok t.result := by
  obtain ⟨hints, hinted, h⟩ := bind_eq_ok.mp h
  obtain ⟨arguments, shaped, h⟩ := bind_eq_ok.mp h
  obtain ⟨result, resulting, h⟩ := bind_eq_ok.mp h
  obtain rfl := pure_eq_ok.mp h
  exact ⟨rfl, rfl, hints, mapError_eq_ok.mp hinted, mapError_eq_ok.mp shaped,
    mapError_eq_ok.mp resulting⟩

end Tool

/-! ### Descriptors -/

/-- The tag of a type is made of its schema: its name is found in it, and its text is that of it. -/
theorem TypeTag.ofShape_eq_ok {shape : Except TypeFault Shape} {tag : TypeTag} :
    ofShape shape = .ok tag ↔ ∃ s schema, shape = .ok s ∧ s.schema = .ok schema ∧
      nameOfDocument schema = .ok tag.name ∧ schema.canonicalText = .ok tag.schema := by
  simp only [ofShape, bind_eq_ok, mapError_eq_ok, pure_eq_ok]
  constructor
  · rintro ⟨s, shaped, schema, published, name, named, text, written, rfl⟩
    exact ⟨s, schema, shaped, published, named, written⟩
  · rintro ⟨s, schema, shaped, published, named, written⟩
    exact ⟨s, shaped, schema, published, tag.name, named, tag.schema, written, rfl⟩

/-- A type in a declaration has the tag of its shape, unless a class within it is none. -/
theorem Descriptor.tagOf_eq_ok {declaration position : Text} {t : TypeExpr}
    {shape : Except TypeFault Shape} {tag : TypeTag} :
    tagOf declaration position t shape = .ok tag ↔ t.fault? = none ∧ TypeTag.ofShape shape = .ok tag := by
  unfold tagOf
  cases t.fault? with
  | some fault => simp
  | none =>
    cases TypeTag.ofShape shape with
    | ok tag' => simp
    | error fault =>
      refine iff_of_false (fun h => ?_) (fun h => by cases h.2)
      split at h <;> simp_all only [reduceCtorEq]

/-- What the parts of a descriptor are made of. -/
theorem Descriptor.ofFunction_eq_ok {f : Function} {description : Value} {name : Option Value}
    {d : Descriptor} (h : ofFunction f description name = .ok d) :
    nameOf f name = .ok d.name ∧ descriptionOf f description = .ok d.description ∧
      d.error = .string ∧ ∃ hints t, f.hints = .ok hints ∧ hints.result = some t ∧
        parameterSpecs f.label hints f.parameters = .ok d.parameters ∧
        hintTag f.label "result" t = .ok d.result ∧
        inputSchemaOf d.name f hints = .ok d.inputSchema := by
  obtain ⟨toolName, named, h⟩ := bind_eq_ok.mp h
  obtain ⟨shown, described, h⟩ := bind_eq_ok.mp h
  obtain ⟨hints, hinted, h⟩ := bind_eq_ok.mp h
  obtain ⟨parameters, published, h⟩ := bind_eq_ok.mp h
  split at h
  · cases h
  · next t annotated =>
    obtain ⟨result, tagged, h⟩ := bind_eq_ok.mp h
    obtain ⟨inputSchema, schema, h⟩ := bind_eq_ok.mp h
    obtain rfl := pure_eq_ok.mp h
    exact ⟨mapError_eq_ok.mp named, mapError_eq_ok.mp described, rfl, hints, t,
      mapError_eq_ok.mp hinted, annotated, published, tagged, schema⟩

/-- The descriptor of a tool is that of the function that is entered. -/
theorem Declaration.Makes.ofFunction {d : Declaration} {t : Tool} (h : d.Makes t) :
    Descriptor.ofFunction t.entry d.description d.name = .ok t.descriptor := by
  obtain ⟨f, eligible, built⟩ := bind_eq_ok.mp h.descriptor
  obtain rfl : t.entry = f := Except.ok.inj (h.entryPoint.symm.trans eligible)
  exact built

/-- Whatever has a descriptor becomes a tool: all that a tool is made of is needed for its descriptor. -/
theorem Declaration.exists_makes {d : Declaration} {descriptor : Descriptor}
    (described : d.descriptor = .ok descriptor) : ∃ t, d.Makes t ∧ t.descriptor = descriptor := by
  obtain ⟨f, eligible, built⟩ := bind_eq_ok.mp described
  obtain ⟨-, -, -, hints, type, hinted, annotated, -, tagged, written⟩ :=
    Descriptor.ofFunction_eq_ok built
  -- the shapes of a tool are those that its schema and the tag of its result were made of
  obtain ⟨arguments, shaped, -⟩ := bind_eq_ok.mp written
  obtain ⟨result, -, resulting, -⟩ := TypeTag.ofShape_eq_ok.mp (Descriptor.tagOf_eq_ok.mp tagged).2
  let t : Tool := { descriptor, entry := f, arguments, result }
  have returned : (hints.result.getD (.atom .any)).shape .plain = .ok result := by
    rw [annotated, Option.getD_some, resulting]
  have made : Tool.make descriptor f = .ok t :=
    bind_eq_ok.mpr ⟨hints, mapError_eq_ok.mpr hinted, bind_eq_ok.mpr ⟨arguments,
      mapError_eq_ok.mpr (mapError_eq_ok.mp shaped), bind_eq_ok.mpr ⟨result,
        mapError_eq_ok.mpr returned, rfl⟩⟩⟩
  exact ⟨t, ⟨described, eligible, made⟩, rfl⟩

/-- What is eligible is a function, once it is taken out of the wrapper of a static member. -/
theorem Candidate.unwrapStatic_of_eligible {c : Candidate} {f : Function} (h : c.eligible = .ok f) :
    ∃ wrapped mark, c.unwrapStatic.1 = .function f wrapped mark := by
  unfold eligible at h
  dsimp only at h
  split at h
  next g wrapped mark offered =>
    obtain ⟨-, -, h⟩ := bind_eq_ok.mp h
    obtain ⟨-, -, h⟩ := bind_eq_ok.mp h
    obtain ⟨-, -, h⟩ := bind_eq_ok.mp h
    obtain rfl := pure_eq_ok.mp h
    exact ⟨wrapped, mark, offered⟩
  next => cases h

namespace Registry

/-! ### Looking up tools -/

theorem name_of_find? {r : Registry} {name : Text} {t : Tool} (h : r.find? name = some t) :
    t.name = name := by
  rw [find?] at h
  have named := List.find?_some h
  exact eq_of_beq named

theorem mem_names_iff (r : Registry) (name : Text) : name ∈ r.names ↔ ∃ t, r.find? name = some t := by
  rw [names, find?, List.mem_map]
  constructor
  · rintro ⟨t, ht, rfl⟩
    exact Option.isSome_iff_exists.mp (List.find?_isSome.mpr ⟨t, ht, BEq.rfl⟩)
  · rintro ⟨t, ht⟩
    exact ⟨t, List.mem_of_find?_eq_some ht, name_of_find? ht⟩

theorem contains_iff {r : Registry} {name : Text} : r.contains name = true ↔ name ∈ r.names := by
  rw [contains, Option.isSome_iff_exists, mem_names_iff]

/-! ### Registering -/

/-- A tool is registered while the registry is open, under a new name, and comes last. -/
theorem register_eq_ok {r r' : Registry} {d : Descriptor} {f : Function} :
    r.register d f = .ok r' ↔ r.isFrozen = false ∧ d.name ∉ r.names ∧
      ∃ t, Tool.make d f = .ok t ∧ r' = { r with tools := r.tools ++ [t] } := by
  rw [register, ← contains_iff]
  cases r.isFrozen with
  | true => simp
  | false =>
    cases r.contains d.name with
    | true => simp
    | false =>
      cases Tool.make d f with
      | error e => simp
      | ok t => simp [eq_comm]

/-- Nothing is registered once the registry is frozen, whatever the name. -/
theorem register_of_isFrozen {r : Registry} (frozen : r.isFrozen = true) (d : Descriptor)
    (f : Function) : r.register d f = .error (.frozen d.name) := by
  rw [register, if_pos frozen]

/-- A tool has a new name among tools whose names differ. -/
theorem nodup_names_concat {r : Registry} {t : Tool} :
    (names { r with tools := r.tools ++ [t] }).Nodup ↔ t.name ∉ r.names ∧ r.names.Nodup := by
  rw [names, List.map_append, List.map_singleton, (List.perm_append_singleton _ _).nodup_iff]
  exact List.nodup_cons

/-- A declaration adds the tool that is made of it. -/
theorem declare_eq_ok {r r' : Registry} {d : Declaration} :
    r.declare d = .ok r' ↔ r.isFrozen = false ∧
      ∃ t, d.Makes t ∧ t.name ∉ r.names ∧ r' = { r with tools := r.tools ++ [t] } := by
  simp only [declare, bind_eq_ok, mapError_eq_ok, register_eq_ok]
  constructor
  · rintro ⟨descriptor, described, f, exported, unfrozen, new, t, made, rfl⟩
    obtain ⟨rfl, rfl, -⟩ := Tool.make_eq_ok made
    exact ⟨unfrozen, t, ⟨described, exported, made⟩, new, rfl⟩
  · rintro ⟨unfrozen, t, makes, new, rfl⟩
    exact ⟨t.descriptor, makes.descriptor, t.entry, makes.entryPoint, unfrozen, new, t, makes.made, rfl⟩

/-- Declarations add the tools that are made of them if all names differ. -/
theorem declareAll_eq_ok {r r' : Registry} {ds : List Declaration} (unfrozen : r.isFrozen = false)
    (nodup : r.names.Nodup) :
    r.declareAll ds = .ok r' ↔ ∃ ts, List.Forall₂ Declaration.Makes ds ts ∧
      ((r.tools ++ ts).map Tool.name).Nodup ∧ r' = { r with tools := r.tools ++ ts } := by
  induction ds generalizing r r' with
  | nil =>
    rw [declareAll]
    constructor
    · rintro ⟨⟩
      exact ⟨[], .nil, by rwa [List.append_nil], by rw [List.append_nil]⟩
    · rintro ⟨ts, made, -, rfl⟩
      cases made
      rw [List.append_nil]
  | cons d ds ih =>
    rw [declareAll, bind_eq_ok]
    constructor
    · rintro ⟨r₁, declared, further⟩
      obtain ⟨-, t, makes, new, rfl⟩ := declare_eq_ok.mp declared
      have nodup' := nodup_names_concat.mpr ⟨new, nodup⟩
      obtain ⟨ts, made, distinct, rfl⟩ := (@ih { r with tools := r.tools ++ [t] } _ unfrozen nodup').mp further
      rw [← List.append_cons] at distinct ⊢
      exact ⟨t :: ts, .cons makes made, distinct, rfl⟩
    · rintro ⟨ts, made, distinct, rfl⟩
      cases made with
      | @cons _ t _ ts makes made =>
        rw [List.append_cons] at distinct ⊢
        have before : (names { r with tools := r.tools ++ [t] }).Nodup := by
          rw [List.map_append] at distinct
          exact (List.nodup_append.mp distinct).1
        have new := (nodup_names_concat.mp before).1
        exact ⟨_, declare_eq_ok.mpr ⟨unfrozen, t, makes, new, rfl⟩,
          (@ih { r with tools := r.tools ++ [t] } _ unfrozen before).mpr ⟨ts, made, distinct, rfl⟩⟩

/-- Declarations add to an empty registry the tools that are made of them, under names that differ. -/
theorem declareAll_empty_eq_ok {ds : List Declaration} {r : Registry} :
    empty.declareAll ds = .ok r ↔ ∃ ts, List.Forall₂ Declaration.Makes ds ts ∧
      (ts.map Tool.name).Nodup ∧ r = { tools := ts } :=
  declareAll_eq_ok rfl List.nodup_nil

/-- A registry is built of declarations just when a tool is made of each, under names that differ. -/
theorem build_eq_ok {ds : List Declaration} {frozen : Bool} {r : Registry} :
    build ds frozen = .ok r ↔ ∃ ts, List.Forall₂ Declaration.Makes ds ts ∧
      (ts.map Tool.name).Nodup ∧ r = { tools := ts, isFrozen := frozen } := by
  simp only [build, bind_eq_ok, pure_eq_ok, declareAll_empty_eq_ok]
  constructor
  · rintro ⟨_, ⟨ts, made, distinct, rfl⟩, rfl⟩
    exact ⟨ts, made, distinct, by cases frozen <;> rfl⟩
  · rintro ⟨ts, made, distinct, rfl⟩
    exact ⟨_, ⟨ts, made, distinct, rfl⟩, by cases frozen <;> rfl⟩

/-- A registry that is frozen afterwards is what is built frozen. -/
theorem build_freeze {ds : List Declaration} {r : Registry} (built : build ds false = .ok r) :
    build ds true = .ok r.freeze := by
  obtain ⟨ts, made, distinct, rfl⟩ := build_eq_ok.mp built
  exact build_eq_ok.mpr ⟨ts, made, distinct, rfl⟩

/-- A tool in a registry that was built is made of one of the declarations. -/
theorem made_of_mem {ds : List Declaration} {frozen : Bool} {r : Registry} {t : Tool}
    (built : build ds frozen = .ok r) (member : t ∈ r.tools) : ∃ d ∈ ds, d.Makes t := by
  obtain ⟨ts, made, -, rfl⟩ := build_eq_ok.mp built
  exact exists_left_of_mem made member

end Registry

/-! ### Building as a whole -/

/-- A list of descriptors is made of declarations one by one. -/
abbrev Declaration.Described : List Declaration → List Descriptor → Prop :=
  List.Forall₂ fun d descriptor => d.descriptor = .ok descriptor

/-- Tools are made of declarations that have descriptors, and of no others. -/
theorem Declaration.described_iff {ds : List Declaration} {descriptors : List Descriptor} :
    Described ds descriptors ↔
      ∃ ts, List.Forall₂ Makes ds ts ∧ ts.map Tool.descriptor = descriptors := by
  constructor
  · intro described
    induction described with
    | nil => exact ⟨[], .nil, rfl⟩
    | cons first _ ih =>
      obtain ⟨t, makes, rfl⟩ := exists_makes first
      obtain ⟨ts, made, rfl⟩ := ih
      exact ⟨t :: ts, .cons makes made, rfl⟩
  · rintro ⟨ts, made, rfl⟩
    exact List.forall₂_map_right_iff.mpr (made.imp fun _ _ => Makes.descriptor)

namespace Registry

/-- What ends the building of a registry: the first declaration that has no descriptor, or has one under
the name of an earlier one. -/
inductive Stopped (ds : List Declaration) : RegisterError → Prop where
  | undescribed {before after : List Declaration} {d : Declaration} {descriptors : List Descriptor}
    {failure : BuildFailure} (parts : ds = before ++ d :: after)
    (earlier : Declaration.Described before descriptors) (distinct : (descriptors.map Descriptor.name).Nodup)
    (failed : d.descriptor = .error failure) : Stopped ds (.build failure)
  | repeated {before after : List Declaration} {d : Declaration} {descriptors : List Descriptor}
    {descriptor : Descriptor} (parts : ds = before ++ d :: after)
    (earlier : Declaration.Described before descriptors) (distinct : (descriptors.map Descriptor.name).Nodup)
    (described : d.descriptor = .ok descriptor) (taken : descriptor.name ∈ descriptors.map Descriptor.name) :
    Stopped ds (.build (.refused (.duplicateName descriptor.name)))

/-- A declaration adds nothing to an open registry if it has no descriptor, or one whose name is taken. -/
theorem declare_eq_error {r : Registry} {d : Declaration} {e : RegisterError}
    (unfrozen : r.isFrozen = false) :
    r.declare d = .error e ↔ (∃ failure, d.descriptor = .error failure ∧ e = .build failure) ∨
      ∃ descriptor, d.descriptor = .ok descriptor ∧ descriptor.name ∈ r.names ∧
        e = .build (.refused (.duplicateName descriptor.name)) := by
  cases described : d.descriptor with
  | error failure =>
    have refused : r.declare d = .error (.build failure) := by
      rw [declare, described]
      rfl
    simp [refused, eq_comm]
  | ok descriptor =>
    obtain ⟨t, makes, rfl⟩ := Declaration.exists_makes described
    by_cases taken : t.descriptor.name ∈ r.names
    · have refused : r.declare d = .error (.build (.refused (.duplicateName t.descriptor.name))) := by
        rw [declare, described, makes.entryPoint]
        show r.register t.descriptor t.entry = _
        rw [register, unfrozen, if_neg Bool.false_ne_true, if_pos (contains_iff.mpr taken)]
      simp [refused, taken, eq_comm]
    · have added := declare_eq_ok.mpr ⟨unfrozen, t, makes, taken, rfl⟩
      simp [added, taken]

/-- Declarations end in the error of the first one that adds nothing to what those before it added. -/
theorem declareAll_eq_error {r : Registry} {ds : List Declaration} {e : RegisterError} :
    r.declareAll ds = .error e ↔ ∃ before d after r', ds = before ++ d :: after ∧
      r.declareAll before = .ok r' ∧ r'.declare d = .error e := by
  induction ds generalizing r with
  | nil =>
    refine iff_of_false (fun h => by cases h) ?_
    rintro ⟨before, d, after, -, parts, -⟩
    cases before <;> cases parts
  | cons d ds ih =>
    rw [declareAll, bind_eq_error]
    constructor
    · rintro (failed | ⟨r₁, declared, later⟩)
      · exact ⟨[], d, ds, r, rfl, rfl, failed⟩
      · obtain ⟨before, d', after, r', rfl, earlier, failed⟩ := ih.mp later
        exact ⟨d :: before, d', after, r', rfl, bind_eq_ok.mpr ⟨r₁, declared, earlier⟩, failed⟩
    · rintro ⟨before, d', after, r', parts, earlier, failed⟩
      cases before with
      | nil =>
        cases parts
        cases earlier
        exact .inl failed
      | cons b before =>
        cases parts
        obtain ⟨r₁, declared, earlier⟩ := bind_eq_ok.mp earlier
        exact .inr ⟨r₁, declared, ih.mpr ⟨before, d', after, r', rfl, earlier, failed⟩⟩

/-- Building ends in an error just when a declaration stops it. -/
theorem build_eq_error {ds : List Declaration} {frozen : Bool} {e : RegisterError} :
    build ds frozen = .error e ↔ Stopped ds e := by
  have ends : build ds frozen = .error e ↔ empty.declareAll ds = .error e :=
    ⟨error_of_bind_pure, fun h => bind_eq_error.mpr (.inl h)⟩
  rw [ends, declareAll_eq_error]
  constructor
  · rintro ⟨before, d, after, r, parts, earlier, refused⟩
    obtain ⟨ts, made, distinct, rfl⟩ := declareAll_empty_eq_ok.mp earlier
    have described := Declaration.described_iff.mpr ⟨ts, made, rfl⟩
    rw [← Tool.map_name] at distinct
    rcases (declare_eq_error rfl).mp refused with ⟨failure, failed, rfl⟩ | ⟨descriptor, ok, taken, rfl⟩
    · exact .undescribed parts described distinct failed
    · exact .repeated parts described distinct ok ((Tool.map_name ts).symm ▸ taken)
  · intro stopped
    cases stopped with
    | @undescribed before after d descriptors failure parts earlier distinct failed =>
      obtain ⟨ts, made, rfl⟩ := Declaration.described_iff.mp earlier
      rw [Tool.map_name] at distinct
      exact ⟨before, d, after, _, parts, declareAll_empty_eq_ok.mpr ⟨ts, made, distinct, rfl⟩,
        (declare_eq_error rfl).mpr (.inl ⟨failure, failed, rfl⟩)⟩
    | @repeated before after d descriptors descriptor parts earlier distinct described taken =>
      obtain ⟨ts, made, rfl⟩ := Declaration.described_iff.mp earlier
      rw [Tool.map_name] at distinct taken
      exact ⟨before, d, after, _, parts, declareAll_empty_eq_ok.mpr ⟨ts, made, distinct, rfl⟩,
        (declare_eq_error rfl).mpr (.inr ⟨descriptor, described, taken, rfl⟩)⟩

/-- Under each name a registry that was built finds the tool of that name. -/
theorem find?_of_mem {ds : List Declaration} {frozen : Bool} {r : Registry} {t : Tool}
    (built : build ds frozen = .ok r) (member : t ∈ r.tools) : r.find? t.name = some t := by
  obtain ⟨ts, -, distinct, rfl⟩ := build_eq_ok.mp built
  exact find?_of_nodup distinct member

/-- **Building a registry** is all or nothing.  It is built just when every declaration has a descriptor,
under names that differ.  It then lists these descriptors in the order of the declarations, and finds
under the name of each the tool whose function is that of this declaration.  It is otherwise the first
declaration without a descriptor or a new name that ends the build, with its error. -/
theorem build_exact (ds : List Declaration) (frozen : Bool) :
    ((∃ r, build ds frozen = .ok r) ↔
      ∃ descriptors, Declaration.Described ds descriptors ∧ (descriptors.map Descriptor.name).Nodup) ∧
    (∀ r, build ds frozen = .ok r → r.isFrozen = frozen ∧
      List.Forall₂ (fun d descriptor => d.descriptor = .ok descriptor ∧
        ∃ t, r.find? descriptor.name = some t ∧ t.descriptor = descriptor ∧
          ∃ wrapped mark, d.candidate.unwrapStatic.1 = .function t.entry wrapped mark)
        ds r.descriptors) ∧
    ∀ e, build ds frozen = .error e ↔ Stopped ds e := by
  refine ⟨⟨?_, ?_⟩, ?_, fun e => build_eq_error⟩
  · rintro ⟨r, built⟩
    obtain ⟨ts, made, distinct, -⟩ := build_eq_ok.mp built
    exact ⟨_, Declaration.described_iff.mpr ⟨ts, made, rfl⟩, (Tool.map_name ts).symm ▸ distinct⟩
  · rintro ⟨descriptors, described, distinct⟩
    obtain ⟨ts, made, rfl⟩ := Declaration.described_iff.mp described
    exact ⟨_, build_eq_ok.mpr ⟨ts, made, Tool.map_name ts ▸ distinct, rfl⟩⟩
  · intro r built
    have found : ∀ t ∈ r.tools, r.find? t.name = some t := fun t => find?_of_mem built
    obtain ⟨ts, made, -, rfl⟩ := build_eq_ok.mp built
    refine ⟨rfl, List.forall₂_map_right_iff.mpr ((forall₂_and_right made found).imp ?_)⟩
    rintro d t ⟨makes, under⟩
    exact ⟨makes.descriptor, t, under, rfl, Candidate.unwrapStatic_of_eligible makes.entryPoint⟩

end Registry

/-! ### The class of the arguments -/

namespace Function

/-- The parameters for which the class of the arguments has fields. -/
def fieldParameters (f : Function) : List Parameter :=
  f.parameters.filter (·.name ≠ reservedName)

/-- A field stands for a parameter: under its name, with its default, as its type says. -/
structure StandsFor (hints : Hints) (p : Parameter) (field : Text × Presence × Shape) : Prop where
  name : field.1 = p.name
  presence : field.2.1 = Function.presence p
  shape : (hints.typeOf p).shape .arguments = .ok field.2.2

theorem argumentFields_eq_ok {hints : Hints} {ps : List Parameter}
    {fields : List (Text × Presence × Shape)} (h : argumentFields hints ps = .ok fields) :
    List.Forall₂ (StandsFor hints) (ps.filter (·.name ≠ reservedName)) fields := by
  induction ps generalizing fields with
  | nil => exact Except.ok.inj h ▸ .nil
  | cons p ps ih =>
    rw [argumentFields] at h
    split at h
    next reserved =>
      rw [List.filter_cons_of_neg (by simpa using reserved)]
      exact ih h
    next ordinary =>
      obtain ⟨s, shaped, h⟩ := bind_eq_ok.mp h
      obtain ⟨rest, others, h⟩ := bind_eq_ok.mp h
      obtain rfl := pure_eq_ok.mp h
      rw [List.filter_cons_of_pos (by simpa using ordinary)]
      exact .cons ⟨rfl, rfl, shaped⟩ (ih others)

end Function

/-- What a tool checks its arguments as. -/
theorem Declaration.Makes.arguments {d : Declaration} {t : Tool} (h : d.Makes t) :
    ∃ hints fields, t.entry.hints = .ok hints ∧
      t.arguments = .record (.model { extra := .forbid }) t.argumentsClass .forbid fields ∧
      List.Forall₂ (Function.StandsFor hints) t.entry.fieldParameters fields := by
  obtain ⟨-, -, hints, hinted, shaped, -⟩ := Tool.make_eq_ok h.made
  obtain ⟨fields, found, shaped⟩ := bind_eq_ok.mp shaped
  exact ⟨hints, fields, hinted, (pure_eq_ok.mp shaped).symm, Function.argumentFields_eq_ok found⟩

end GuardedTools
