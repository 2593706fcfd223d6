import GuardedTools.Proofs.Tool.Made

/-!
# Names of tools

A name (`ToolName.IsName`) is an ASCII letter or an underscore, followed by ASCII letters, digits,
underscores, dots and hyphens, with sixty-four characters at most.  What is accepted as the name of a tool is
a name, or a name with one line break after it (`ToolName.isValid_iff`).

Whether a declaration has such a name is asked once its function is known to be eligible and before anything
else is.  A descriptor is made under the name that was asked about, and whatever is not accepted is told as
an invalid name; nothing else is (`Descriptor.build_named`).  So there are tools with a line break in their
names (`Descriptor.build_broken`).
-/

namespace GuardedTools

namespace ToolName

/-! ### The grammar -/

/-- The characters that a name starts with. -/
def Starts (c : Char) : Prop := 'A' ≤ c ∧ c ≤ 'Z' ∨ 'a' ≤ c ∧ c ≤ 'z' ∨ c = '_'

/-- The characters that a name goes on with. -/
def Continues (c : Char) : Prop := Starts c ∨ '0' ≤ c ∧ c ≤ '9' ∨ c = '.' ∨ c = '-'

/-- The names that tools are to have. -/
inductive IsName : Text → Prop where
  | intro {c : Char} {cs : List Char} (starts : Starts c) (continues : ∀ d ∈ cs, Continues d)
    (short : (c :: cs).length ≤ 64) : IsName (.ofChars (c :: cs))

/-- A name, perhaps with a line break after it. -/
def IsAccepted (t : Text) : Prop := IsName t ∨ ∃ n, IsName n ∧ t = n ++ "\n"

/-! ### What is accepted -/

theorem between_scalar {c low high : Char} :
    (CodePoint.scalar c).between low.toNat high.toNat = true ↔ low ≤ c ∧ c ≤ high := by
  rw [CodePoint.between, Bool.and_eq_true, decide_eq_true_eq, decide_eq_true_eq]
  rfl

theorem is_scalar {c d : Char} : (CodePoint.scalar c).is d = true ↔ c = d := by
  rw [CodePoint.is, beq_iff_eq, CodePoint.scalar.injEq]

theorem isStart_scalar {c : Char} : isStart (.scalar c) = true ↔ Starts c := by
  rw [isStart, CodePoint.isLetter, Bool.or_eq_true, Bool.or_eq_true, or_assoc, is_scalar]
  exact or_congr (@between_scalar c 'A' 'Z') (or_congr_left (@between_scalar c 'a' 'z'))

theorem isPart_scalar {c : Char} : isPart (.scalar c) = true ↔ Continues c := by
  rw [isPart, CodePoint.isDigit, Bool.or_eq_true, Bool.or_eq_true, Bool.or_eq_true, or_assoc, or_assoc,
    isStart_scalar, is_scalar, is_scalar]
  exact or_congr_right (or_congr_left (@between_scalar c '0' '9'))

/-- A surrogate is neither a letter nor a digit: these have small numbers. -/
theorem isPart_surrogate (offset : Fin 2048) : isPart (.surrogate offset) = false := by
  have far : 128 < (CodePoint.surrogate offset).toNat := by rw [CodePoint.toNat]; omega
  have apart {low high : Nat} (small : high ≤ 128) :
      (CodePoint.surrogate offset).between low high = false := by
    rw [CodePoint.between, Bool.and_eq_false_iff, decide_eq_false_iff_not, decide_eq_false_iff_not]
    omega
  rw [isPart, isStart, CodePoint.isLetter, CodePoint.isDigit, apart (by decide), apart (by decide),
    apart (by decide)]
  rfl

theorem all_isPart_iff {ps : List CodePoint} :
    ps.all isPart = true ↔ ∃ cs : List Char, ps = cs.map .scalar ∧ ∀ c ∈ cs, Continues c := by
  induction ps with
  | nil => exact iff_of_true rfl ⟨[], rfl, fun _ member => by cases member⟩
  | cons p ps ih =>
    rw [List.all_cons, Bool.and_eq_true, ih]
    constructor
    · rintro ⟨part, cs, rfl, parts⟩
      cases p with
      | surrogate offset => cases (isPart_surrogate offset).symm.trans part
      | scalar c => exact ⟨c :: cs, rfl, List.forall_mem_cons.mpr ⟨isPart_scalar.mp part, parts⟩⟩
    · rintro ⟨cs, points, parts⟩
      cases cs with
      | nil => cases points
      | cons c cs =>
        cases points
        obtain ⟨part, parts⟩ := List.forall_mem_cons.mp parts
        exact ⟨isPart_scalar.mpr part, cs, rfl, parts⟩

theorem isPart_of_isStart {p : CodePoint} (h : isStart p = true) : isPart p = true := by
  rw [isPart, h, Bool.true_or, Bool.true_or, Bool.true_or]

theorem isBody_iff {ps : List CodePoint} : isBody ps = true ↔ IsName ⟨ps⟩ := by
  constructor
  · intro body
    cases ps with
    | nil => cases body
    | cons p ps =>
      rw [isBody, Bool.and_eq_true, Bool.and_eq_true, decide_eq_true_eq] at body
      obtain ⟨⟨start, parts⟩, short⟩ := body
      obtain ⟨cs, rfl, continues⟩ := all_isPart_iff.mp parts
      cases p with
      | surrogate offset => cases (isPart_surrogate offset).symm.trans (isPart_of_isStart start)
      | scalar c =>
        rw [List.length_map] at short
        exact .intro (isStart_scalar.mp start) continues short
  · rintro ⟨starts, continues, short⟩
    rw [List.map_cons, isBody, isStart_scalar.mpr starts, all_isPart_iff.mpr ⟨_, rfl, continues⟩,
      List.length_map]
    exact decide_eq_true short

/-- What is accepted as the name of a tool is a name, or a name before a line break. -/
theorem isValid_iff {t : Text} : isValid t = true ↔ IsAccepted t := by
  obtain ⟨ps⟩ := t
  rw [isValid, Bool.or_eq_true, isBody_iff]
  -- otherwise the last code point is a line break, and the name is what stands before it
  refine or_congr_right ?_
  constructor
  · intro broken
    split at broken
    next p qs reversed =>
      obtain ⟨is, body⟩ := Bool.and_eq_true_iff.mp broken
      have parts : ps = qs.reverse ++ [p] := by
        rw [← List.reverse_reverse ps, reversed, List.reverse_cons]
      refine ⟨⟨qs.reverse⟩, isBody_iff.mp body, ?_⟩
      rw [parts, eq_of_beq is]
      rfl
    next => cases broken
  · rintro ⟨⟨qs⟩, named, same⟩
    obtain rfl : ps = qs ++ [.scalar '\n'] := congrArg Text.points same
    rw [List.reverse_append]
    show ((CodePoint.scalar '\n').is '\n' && isBody qs.reverse.reverse) = true
    rw [List.reverse_reverse, isBody_iff.mpr named]
    rfl

/-! ### What names are made of -/

theorem IsName.isEmpty {t : Text} (h : IsName t) : t.isEmpty = false := by
  cases h
  rfl

/-- A name is made of code points that names may go on with. -/
theorem IsName.isPart {t : Text} (h : IsName t) : ∀ p ∈ t.points, ToolName.isPart p = true := by
  obtain ⟨starts, continues, -⟩ := h
  refine List.forall_mem_cons.mpr ⟨isPart_of_isStart (isStart_scalar.mpr starts), ?_⟩
  exact List.all_eq_true.mp (all_isPart_iff.mpr ⟨_, rfl, continues⟩)

/-- What is accepted is made of code points that names may go on with, up to a line break at its end. -/
theorem isPart_of_isValid {t : Text} (valid : isValid t = true) :
    t.isEmpty = false ∧ ∀ p ∈ t.points, isPart p = true ∨ p.is '\n' = true := by
  rcases isValid_iff.mp valid with named | ⟨⟨ps⟩, named, rfl⟩
  · exact ⟨named.isEmpty, fun p member => Or.inl (named.isPart p member)⟩
  · have some : (ps ++ [CodePoint.scalar '\n']).isEmpty = false := by simp
    refine ⟨some, fun p member => ?_⟩
    rcases List.mem_append.mp member with inside | last
    · exact Or.inl (named.isPart p inside)
    · exact Or.inr (List.mem_singleton.mp last ▸ rfl)

/-- There is no slash in a name. -/
theorem slash_not_mem {t : Text} (valid : isValid t = true) : ∀ p ∈ t.points, p.is '/' = false := by
  intro p member
  by_contra slash
  obtain rfl : p = .scalar '/' := eq_of_beq (Bool.not_eq_false _ ▸ slash)
  rcases (isPart_of_isValid valid).2 _ member with part | newline
  · exact absurd part (by decide)
  · exact absurd newline (by decide)

/-- A name of a tool is Unicode. -/
theorem isScalar_of_isValid {t : Text} (valid : isValid t = true) : t.isScalar = true := by
  rw [Text.isScalar, List.all_eq_true]
  intro p member
  cases p with
  | scalar c => rfl
  | surrogate offset =>
    rcases (isPart_of_isValid valid).2 _ member with part | newline
    · cases (isPart_surrogate offset).symm.trans part
    · cases newline

end ToolName

/-! ### Names of declarations -/

/-- A declaration was refused for its name. -/
def BuildFailure.IsOfName : BuildFailure → Prop
  | .refused (.invalidName _ _) => True
  | _ => False

theorem BuildFailure.not_isOfName_ofType (label position : Text) (fault : TypeFault) :
    ¬(ofType label position fault).IsOfName := by
  unfold ofType
  split <;> exact id

theorem BuildFailure.not_isOfName_ofWriteFault (fault : Json.WriteFault) :
    ¬(ofWriteFault fault).IsOfName := by
  cases fault <;> exact id

/-- A candidate is not refused for a name before it is found to be eligible. -/
theorem Candidate.not_isOfName_of_eligible {c : Candidate} {e : BuildFailure} (h : c.eligible = .error e) :
    ¬e.IsOfName := by
  unfold eligible at h
  dsimp only at h
  split at h
  next f wrapped mark offered =>
    rcases bind_eq_error.mp h with failed | ⟨-, -, h⟩
    · obtain ⟨e, failed, rfl⟩ := mapError_eq_error.mp failed
      unfold Function.checkKind at failed
      split at failed
      · cases failed
        exact id
      · split at failed <;> cases failed
        exact id
    rcases bind_eq_error.mp h with failed | ⟨-, -, h⟩
    · unfold signed at failed
      split at failed <;> cases failed
      exact id
    · obtain ⟨e, failed, rfl⟩ := mapError_eq_error.mp (error_of_bind_pure h)
      unfold Function.checkParameters at failed
      split at failed <;> cases failed
      exact id
  next =>
    cases h
    exact id

namespace Descriptor

variable {f : Function} {given : Option Value}

/-- What a tool is to be called: what is given, or the name of its function. -/
def proposedName (f : Function) (given : Option Value) : Value := given.getD (.text f.name)

/-- A tool is called as proposed if that is a text and an accepted one. -/
theorem nameOf_eq_ok {name : Text} :
    nameOf f given = .ok name ↔ proposedName f given = .text name ∧ ToolName.isValid name = true := by
  have text (t : Text) (e : BuildError) :
      (if ToolName.isValid t then Except.ok t else Except.error e) = Except.ok name ↔
        Value.text t = .text name ∧ ToolName.isValid name = true := by
    by_cases valid : ToolName.isValid t = true
    · rw [if_pos valid]
      refine ⟨fun h => ?_, fun h => ?_⟩
      · cases h
        exact ⟨rfl, valid⟩
      · cases h.1
        rfl
    · rw [if_neg valid]
      refine iff_of_false (fun h => by cases h) fun h => valid ?_
      cases h.1
      exact h.2
  unfold nameOf proposedName
  split
  · exact text f.name _
  · exact text _ _
  next v other => exact iff_of_false (fun h => by cases h) fun h => other _ h.1

/-- What is not accepted is told as it displays itself. -/
theorem nameOf_eq_error {e : BuildError} :
    nameOf f given = .error e ↔ (∀ t, proposedName f given = .text t → ToolName.isValid t = false) ∧
      e = .invalidName f.label (proposedName f given).plain := by
  cases named : nameOf f given with
  | ok name =>
    obtain ⟨proposed, valid⟩ := nameOf_eq_ok.mp named
    refine iff_of_false (fun h => by cases h) fun h => ?_
    cases valid.symm.trans (h.1 name proposed)
  | error e' =>
    have told : e' = .invalidName f.label (proposedName f given).plain := by
      unfold nameOf at named
      split at named
      · split at named <;> cases named
        rfl
      · split at named <;> cases named
        rfl
      · cases named
        rfl
    have refused (t : Text) (proposed : proposedName f given = .text t) : ToolName.isValid t = false := by
      by_contra valid
      cases named.symm.trans (nameOf_eq_ok.mpr ⟨proposed, Bool.not_eq_false _ ▸ valid⟩)
    exact ⟨fun h => ⟨refused, Except.error.inj h ▸ told⟩, fun h => congrArg _ (told.trans h.2.symm)⟩

/-- The name that a tool is given is one that tools may have. -/
theorem isValid_of_nameOf {name : Text} (h : nameOf f given = .ok name) : ToolName.isValid name = true :=
  (nameOf_eq_ok.mp h).2

/-! ### What comes after the name -/

theorem not_isOfName_of_tagOf {label position : Text} {t : TypeExpr} {shape : Except TypeFault Shape}
    {e : BuildFailure} (h : tagOf label position t shape = .error e) : ¬e.IsOfName := by
  unfold tagOf at h
  split at h <;> cases h
  case h_5 => exact BuildFailure.not_isOfName_ofWriteFault _
  case h_6 => exact BuildFailure.not_isOfName_ofType _ _ _
  all_goals exact id

theorem not_isOfName_of_parameterSpecs {label : Text} {hints : Hints} {ps : List Parameter}
    {e : BuildFailure} (h : parameterSpecs label hints ps = .error e) : ¬e.IsOfName := by
  induction ps with
  | nil => cases h
  | cons p ps ih =>
    rw [parameterSpecs] at h
    dsimp only at h
    split at h
    · cases h
      exact id
    split at h
    · cases h
      exact id
    · rcases bind_eq_error.mp h with failed | ⟨_, -, h⟩
      · exact not_isOfName_of_tagOf failed
      · exact ih (error_of_bind_pure h)

theorem not_isOfName_of_inputSchemaOf {name : Text} {hints : Hints} {e : BuildFailure}
    (h : inputSchemaOf name f hints = .error e) : ¬e.IsOfName := by
  rcases bind_eq_error.mp h with failed | ⟨_, -, h⟩
  · obtain ⟨fault, -, rfl⟩ := mapError_eq_error.mp failed
    exact BuildFailure.not_isOfName_ofType _ _ _
  rcases bind_eq_error.mp h with failed | ⟨_, -, h⟩
  · obtain ⟨fault, -, rfl⟩ := mapError_eq_error.mp failed
    cases fault <;> exact id
  · obtain ⟨fault, -, rfl⟩ := mapError_eq_error.mp h
    exact BuildFailure.not_isOfName_ofWriteFault _

/-- The making of the descriptor of a function is refused for a name where its name is not accepted, and
for nothing else. -/
theorem ofFunction_isOfName {description : Value} {e : BuildFailure} (named : e.IsOfName) :
    ofFunction f description given = .error e ↔ ∃ b, nameOf f given = .error b ∧ .refused b = e := by
  refine ⟨fun h => ?_, fun h => bind_eq_error.mpr (.inl (mapError_eq_error.mpr h))⟩
  rcases bind_eq_error.mp h with failed | ⟨_, -, h⟩
  · exact mapError_eq_error.mp failed
  refine absurd named ?_
  rcases bind_eq_error.mp h with failed | ⟨_, -, h⟩
  · obtain ⟨b, failed, rfl⟩ := mapError_eq_error.mp failed
    unfold descriptionOf at failed
    split at failed
    · split at failed <;> cases failed
      exact id
    · cases failed
      exact id
  rcases bind_eq_error.mp h with failed | ⟨hints, -, h⟩
  · obtain ⟨b, unread, rfl⟩ := mapError_eq_error.mp failed
    obtain ⟨fault, -, rfl⟩ := mapError_eq_error.mp unread
    exact id
  rcases bind_eq_error.mp h with failed | ⟨_, -, h⟩
  · exact not_isOfName_of_parameterSpecs failed
  split at h
  · cases h
    exact id
  · rcases bind_eq_error.mp h with failed | ⟨_, -, h⟩
    · exact not_isOfName_of_tagOf failed
    · exact not_isOfName_of_inputSchemaOf (error_of_bind_pure h)

/-! ### Building under a name -/

/-- **Names of tools**: a descriptor is made under the proposed name, which is a name that was accepted; and
a candidate is refused for its name just when it is eligible and the proposed name is no such text. -/
theorem build_named (c : Candidate) (description : Value) (given : Option Value) :
    (∀ d, build c description given = .ok d → ∃ f, c.eligible = .ok f ∧
      proposedName f given = .text d.name ∧ ToolName.IsAccepted d.name) ∧
    ∀ label shown, build c description given = .error (.refused (.invalidName label shown)) ↔
      ∃ f, c.eligible = .ok f ∧ label = f.label ∧ shown = (proposedName f given).plain ∧
        ∀ t, proposedName f given = .text t → ¬ToolName.IsAccepted t := by
  constructor
  · intro d built
    obtain ⟨f, eligible, built⟩ := bind_eq_ok.mp built
    obtain ⟨proposed, valid⟩ := nameOf_eq_ok.mp (ofFunction_eq_ok built).1
    exact ⟨f, eligible, proposed, ToolName.isValid_iff.mp valid⟩
  · intro label shown
    have refused (f : Function) : nameOf f given = .error (.invalidName label shown) ↔
        label = f.label ∧ shown = (proposedName f given).plain ∧
          ∀ t, proposedName f given = .text t → ¬ToolName.IsAccepted t := by
      simp only [nameOf_eq_error, ← ToolName.isValid_iff, Bool.not_eq_true, BuildError.invalidName.injEq]
      tauto
    have ofName : BuildFailure.IsOfName (.refused (.invalidName label shown)) := trivial
    rw [build, bind_eq_error]
    constructor
    · rintro (failed | ⟨f, eligible, failed⟩)
      · exact absurd ofName (Candidate.not_isOfName_of_eligible failed)
      · obtain ⟨b, failed, same⟩ := (ofFunction_isOfName ofName).mp failed
        cases same
        exact ⟨f, eligible, (refused f).mp failed⟩
    · rintro ⟨f, eligible, told⟩
      exact .inr ⟨f, eligible, (ofFunction_isOfName ofName).mpr ⟨_, (refused f).mpr told, rfl⟩⟩

/-- A name with a line break after it is accepted, and is no name. -/
theorem build_broken :
    ∃ d, build (.function Sample.echo none none) (.text "Echoes input") (some (.text "echo\n")) = .ok d ∧
      d.name = ("echo\n" : Text) ∧ ¬ToolName.IsName d.name := by
  have built : ((build (.function Sample.echo none none) (.text "Echoes input")
      (some (.text "echo\n"))).toOption.any fun d => d.name = ("echo\n" : Text)) = true := by
    decide +kernel
  obtain ⟨d, built, named⟩ := ok_of_any built
  have name : d.name = ("echo\n" : Text) := of_decide_eq_true named
  have broken : ToolName.isBody ("echo\n" : Text).points = false := by decide
  refine ⟨d, built, name, fun plain => ?_⟩
  rw [name] at plain
  cases broken.symm.trans (ToolName.isBody_iff.mpr plain)

end Descriptor

/-- The name of a tool is Unicode. -/
theorem Declaration.Makes.isScalar_name {d : Declaration} {t : Tool} (h : d.Makes t) :
    t.name.isScalar = true :=
  ToolName.isScalar_of_isValid
    (Descriptor.isValid_of_nameOf (Descriptor.ofFunction_eq_ok h.ofFunction).1)

end GuardedTools
