import GuardedTools.Command
import GuardedTools.Proofs.Access.Document
import GuardedTools.Proofs.Yaml.Values

/-!
# Loading a policy

A policy is loaded from a file exactly if the file can be read as a text, the text writes a document, and the
document is accepted; it is then the policy of the tables that the document writes
(`PolicyFile.load_eq_ok_iff`).  Otherwise the fault is either told as one with the policy file, or it is what
`PolicyFile.Hinders` says: a path that names nothing, bytes that are no text, or a text that is kept from
having a value by something other than its form.  A command that asks for the policy ends with the fault
(`Command.run_of_load_error`).  The main result is `PolicyFile.load_exact`.
-/

namespace GuardedTools

namespace Command

/-- The path of the policy that a command asks for, as it is written. -/
def policy? : Command → Option Text
  | build _ _ => none
  | checkPolicy policy _ => some policy
  | authorize policy _ _ _ _ => some policy

/-- A command ends with the fault of the policy that it asks for: nothing else is looked at before. -/
theorem run_of_load_error {s : CommandScene} {ws : List Text} {c : Command} {written : Text}
    {fault : PolicyFileFault} (understood : ofWords ws = .ok c) (asks : c.policy? = some written)
    (failed : PolicyFile.load s.files (Path.ofText written) = .error fault) :
    run s ws = (s.files, if PolicyFile.isReported fault then
      .failed (PolicyFile.report (Path.ofText written) fault)
      else .crashed (.policy (Path.ofText written) fault)) := by
  have refused : policyOf s written = .error (.policy (Path.ofText written) fault) := by
    rw [policyOf, failed]
    rfl
  have unanswered : answer s c = .error (.policy (Path.ofText written) fault) := by
    cases c with
    | build modules out => cases asks
    | checkPolicy policy modules =>
      cases asks
      rw [answer, refused]
      rfl
    | authorize policy modules principal roles tool =>
      cases asks
      rw [answer, refused]
      rfl
  -- nothing has been written by then
  have performed : perform s c = (s.files, .error (.policy (Path.ofText written) fault)) := by
    rw [perform, unanswered]
  rw [run, understood]
  dsimp only
  rw [performed]
  rfl

end Command

namespace PolicyFile

/-- The entries of a document: those of a mapping, and none where nothing is written. -/
def entriesOf : Value → Option (List (Value × Value))
  | .null => some []
  | .dict es => some es
  | _ => none

/-- What is filled from entries gives the policy of the tables that they write. -/
theorem policy_of_entries {es : List (Value × Value)} {p : Policy} :
    ((form.fill es).mapError PolicyFileFault.invalid >>= fun values => pure (policyOf values)) = .ok p ↔
      ∃ values, form.fill es = .ok values ∧ p = (tables es).trimmed.policy := by
  rw [bind_eq_ok]
  constructor
  · rintro ⟨values, accepted, made⟩
    have filled := mapError_eq_ok.mp accepted
    exact ⟨values, filled, (pure_eq_ok.mp made).symm.trans (policyOf_eq filled)⟩
  · rintro ⟨values, filled, rfl⟩
    exact ⟨values, mapError_eq_ok.mpr filled, pure_eq_ok.mpr (policyOf_eq filled)⟩

theorem read_eq_ok_iff {t : Text} {p : Policy} :
    PolicyFile.read t = .ok p ↔ ∃ v es values, Yaml.read t = .ok v ∧ entriesOf v = some es ∧
      form.fill es = .ok values ∧ p = (tables es).trimmed.policy := by
  constructor
  · intro made
    obtain ⟨v, written, made⟩ := bind_eq_ok.mp made
    have value := mapError_eq_ok.mp written
    split at made
    · obtain ⟨values, filled, policy⟩ := policy_of_entries.mp made
      exact ⟨.null, [], values, value, rfl, filled, policy⟩
    next es =>
      obtain ⟨values, filled, policy⟩ := policy_of_entries.mp made
      exact ⟨.dict es, es, values, value, rfl, filled, policy⟩
    · cases made
  · rintro ⟨v, es, values, value, entries, filled, policy⟩
    refine bind_eq_ok.mpr ⟨v, mapError_eq_ok.mpr value, ?_⟩
    unfold entriesOf at entries
    split at entries
    · cases entries
      exact policy_of_entries.mpr ⟨values, filled, policy⟩
    · cases entries
      exact policy_of_entries.mpr ⟨values, filled, policy⟩
    · cases entries

/-- A fault with a text is told as one with the policy, or the text is kept from having a value. -/
theorem read_eq_error {t : Text} {fault : PolicyFileFault} (h : PolicyFile.read t = .error fault) :
    isReported fault = true ∨ ∃ f, Yaml.Hinders t f ∧ fault = .notYaml f := by
  have invalid {es : List (Value × Value)}
      (h : ((form.fill es).mapError PolicyFileFault.invalid >>= fun values => pure (policyOf values)) =
        .error fault) : isReported fault = true := by
    obtain ⟨issues, -, rfl⟩ := mapError_eq_error.mp (error_of_bind_pure h)
    rfl
  rcases bind_eq_error.mp h with failed | ⟨v, -, failed⟩
  · obtain ⟨f, unwritten, rfl⟩ := mapError_eq_error.mp failed
    rcases Yaml.read_eq_error unwritten with rfl | hinders
    · exact Or.inl rfl
    · exact Or.inr ⟨f, hinders, rfl⟩
  · refine Or.inl ?_
    split at failed
    · exact invalid failed
    · exact invalid failed
    · cases failed
      rfl

/-- What keeps a policy from being loaded and is not told as a fault with the policy file. -/
inductive Hinders (fs : Files) (path : Path) : PolicyFileFault → Prop
  /-- The path is the name of nothing that there may be. -/
  | path {fault : PathFault} (bad : path.fault? = some fault) : Hinders fs path (.badPath fault)
  /-- The bytes of the file are no text. -/
  | bytes {bytes : List UInt8} {fault : Utf8.Fault} (usable : path.fault? = none)
      (found : fs.read path = .ok bytes) (broken : Utf8.decode bytes = .error fault) :
      Hinders fs path (.notUtf8 fault)
  /-- Something written in the text is kept from having a value. -/
  | text {t : Text} {fault : Yaml.Fault} (usable : path.fault? = none) (found : fs.readText path = .ok t)
      (hinders : Yaml.Hinders t fault) : Hinders fs path (.notYaml fault)

variable {fs : Files} {path : Path}

/-- What hinders is told as what it is. -/
theorem Hinders.not_isReported {fault : PolicyFileFault} (h : Hinders fs path fault) :
    isReported fault = false := by
  cases h with
  | path => rfl
  | bytes => rfl
  | text _ _ hinders => exact beq_eq_false_iff_ne.mpr hinders.ne_malformed

theorem load_eq_ok_iff {p : Policy} :
    load fs path = .ok p ↔ ∃ t v es values, path.fault? = none ∧ fs.readText path = .ok t ∧
      Yaml.read t = .ok v ∧ entriesOf v = some es ∧ form.fill es = .ok values ∧
      p = (tables es).trimmed.policy := by
  constructor
  · intro loaded
    unfold load at loaded
    split at loaded
    · cases loaded
    · cases loaded
    · cases loaded
    next t usable found =>
      obtain ⟨v, es, values, made⟩ := read_eq_ok_iff.mp loaded
      exact ⟨t, v, es, values, usable, found, made⟩
  · rintro ⟨t, v, es, values, usable, found, made⟩
    rw [load, usable, found]
    exact read_eq_ok_iff.mpr ⟨v, es, values, made⟩

/-- The bytes of a file of which the text is broken. -/
theorem decode_of_readText {fault : Utf8.Fault} (h : fs.readText path = .error (.notUtf8 fault)) :
    ∃ bytes, fs.read path = .ok bytes ∧ Utf8.decode bytes = .error fault := by
  unfold Files.readText at h
  split at h
  · cases h
  next bytes found =>
    split at h
    next broken =>
      cases h
      exact ⟨bytes, found, broken⟩
    · cases h

theorem load_eq_error {fault : PolicyFileFault} (h : load fs path = .error fault) :
    isReported fault = true ∨ Hinders fs path fault := by
  unfold load at h
  split at h
  next bad =>
    cases h
    exact Or.inr (.path bad)
  · cases h
    exact Or.inl rfl
  next usable unread =>
    cases h
    obtain ⟨bytes, found, broken⟩ := decode_of_readText unread
    exact Or.inr (.bytes usable found broken)
  next t usable found =>
    rcases read_eq_error h with told | ⟨f, hinders, rfl⟩
    · exact Or.inl told
    · exact Or.inr (.text usable found hinders)

/-- **What loading a policy comes to.**  It gives the policy of the tables that an accepted document writes,
and no other.  A fault is told as one with the policy file, except for what hinders loading otherwise.  A
command that asks for the policy ends with code 1 in both cases, but it tells the operator only of a fault of
the first kind. -/
theorem load_exact (fs : Files) (path : Path) :
    (∀ p, load fs path = .ok p ↔ ∃ t v es values, path.fault? = none ∧ fs.readText path = .ok t ∧
      Yaml.read t = .ok v ∧ entriesOf v = some es ∧ form.fill es = .ok values ∧
      p = (tables es).trimmed.policy) ∧
    (∀ fault, load fs path = .error fault → (isReported fault = false ↔ Hinders fs path fault)) ∧
    ∀ (s : CommandScene) (ws : List Text) (c : Command) (written : Text) (fault : PolicyFileFault),
      s.files = fs → Path.ofText written = path → Command.ofWords ws = .ok c →
      c.policy? = some written → load fs path = .error fault →
        (Command.run s ws).1 = fs ∧ (Command.run s ws).2.code = 1 ∧
        (Command.run s ws).2.errors =
          if isReported fault then "ERROR: " ++ report path fault ++ "\n" else "" := by
  refine ⟨fun p => load_eq_ok_iff, fun fault failed => ⟨fun untold => ?_, Hinders.not_isReported⟩, ?_⟩
  · rcases load_eq_error failed with told | hinders
    · rw [untold] at told
      cases told
    · exact hinders
  · -- the policy is the first thing that the command looks at
    rintro s ws c written fault rfl rfl understood asks failed
    rw [Command.run_of_load_error understood asks failed]
    cases isReported fault with
    | true => exact ⟨rfl, rfl, rfl⟩
    | false => exact ⟨rfl, rfl, rfl⟩

/-- A scene with some bytes in the policy file, or without one. -/
def sceneOf (bytes : Option (List UInt8)) : CommandScene where
  files := { nodes := match bytes with
    | some bs => [(["p.yaml"], .file bs)]
    | none => [] }
  modules := { sources := [], loaded := [] }
  environment := []

theorem understood_check :
    Command.ofWords ["check-policy", "--policy", "p.yaml"] = .ok (.checkPolicy "p.yaml" []) := by rfl

/-- An empty file writes a document without tables, and a missing one is told to the operator. -/
theorem load_exact_plain :
    load (sceneOf (some [])).files (Path.ofText "p.yaml") = .ok (tables []).trimmed.policy ∧
      (Command.run (sceneOf none) ["check-policy", "--policy", "p.yaml"]).2.errors =
        "ERROR: cannot read policy file p.yaml: [Errno 2] No such file or directory: 'p.yaml'\n" := by
  obtain ⟨values, accepted⟩ : ∃ values, form.fill [] = .ok values := ⟨_, rfl⟩
  have empty := (load_exact (sceneOf (some [])).files (Path.ofText "p.yaml")).1 (tables []).trimmed.policy
  have missing : load (sceneOf none).files (Path.ofText "p.yaml") = .error (.unreadable .notFound) := rfl
  have told := (load_exact (sceneOf none).files (Path.ofText "p.yaml")).2.2 (sceneOf none)
    ["check-policy", "--policy", "p.yaml"] _ "p.yaml" _ rfl rfl understood_check rfl missing
  have message : "ERROR: " ++ report (Path.ofText "p.yaml") (.unreadable .notFound) ++ "\n" =
      ("ERROR: cannot read policy file p.yaml: [Errno 2] No such file or directory: 'p.yaml'\n" : Text) := by
    decide +kernel
  exact ⟨empty.mpr ⟨"", .null, [], values, rfl, rfl, rfl, rfl, accepted, rfl⟩, told.2.2.trans message⟩

/-- A file with a byte that is in no text keeps a policy from being loaded and is not told as a fault with the
policy file, and the command that asks for the policy tells the operator nothing. -/
theorem unreported :
    load (sceneOf (some [0xFF])).files (Path.ofText "p.yaml") = .error (.notUtf8 (.badStart 0xFF 0)) ∧
      isReported (.notUtf8 (.badStart 0xFF 0)) = false ∧
      (Command.run (sceneOf (some [0xFF])) ["check-policy", "--policy", "p.yaml"]).2.errors = "" := by
  have failed : load (sceneOf (some [0xFF])).files (Path.ofText "p.yaml") =
      .error (.notUtf8 (.badStart 0xFF 0)) := rfl
  refine ⟨failed, rfl, ?_⟩
  rw [Command.run_of_load_error understood_check rfl failed]
  rfl

end PolicyFile

end GuardedTools
