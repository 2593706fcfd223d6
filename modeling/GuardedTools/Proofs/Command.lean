import GuardedTools.Proofs.Access.Loading
import GuardedTools.Proofs.Access.Roles
import GuardedTools.Proofs.Json.Members
import GuardedTools.Proofs.Json.Validity
import GuardedTools.Proofs.Service.Accounting

/-!
# What operators are told

An operator may ask for the decision on a call, with its reason, or for a report on a policy.  A command finds
a policy and the names of tools for itself (`Command.Finds`), and makes the caller of a name and roles, not of
the claims of a token.  It decides as a service does that is started from the same declarations and the same
policy: a call is told to be allowed exactly if the service does not deny it, and otherwise with the reason
that stands in the audit trail (`Command.answer_authorize`).

A report on a policy divides the tools into those that a rule covers and those without a rule, and names the
rules for tools that there are not.  It says of the service which tools nobody may call for want of a rule,
whoever calls, and which ones are never refused for that reason (`Command.answer_checkPolicy`).
-/

namespace GuardedTools

namespace Command

/-! ### What a command is about -/

/-- The modules that a command is about: those that are named, or where none are those of the settings. -/
inductive About (s : CommandScene) : List Text → List Text → Prop where
  | named {names : List Text} (some : names ≠ []) : About s names names
  | settings {settings : Settings} (loaded : Settings.load s.files s.environment [] = .ok settings) :
    About s [] settings.toolModules

/-- What a command finds that asks for a policy and some modules: a policy that is loaded, and declarations
that can be built. -/
structure Finds (s : CommandScene) (written : Text) (modules : List Text) (p : Policy)
    (ds : List Declaration) : Prop where
  policy : PolicyFile.load s.files (Path.ofText written) = .ok p
  declared : ∃ names, About s modules names ∧ (s.modules.load names).2 = .ok ds
  built : ∃ r, Registry.build ds true = .ok r

variable {s : CommandScene} {written : Text} {modules names : List Text} {p : Policy} {ds : List Declaration}

theorem registryOf_of_about (about : About s modules names) :
    registryOf s modules = (s.modules.load names).2.mapError .imports >>= fun ds =>
      (Registry.build ds true).mapError .registration := by
  cases about with
  | named some =>
    rw [registryOf, if_neg (by simpa using some)]
    rfl
  | settings loaded =>
    rw [registryOf, loaded]
    rfl

namespace Finds

variable {σ κ τ : Type} {table : ExtensionTable κ τ} {configs : List (ExtensionConfig κ)} {serviceId : Text}
  {isTracing : Bool} {sink : Option (AuditSink σ)} {service : Service σ τ}

theorem policyOf_eq (finds : Finds s written modules p ds) : policyOf s written = .ok p := by
  rw [policyOf, finds.policy]
  rfl

/-- The names that a command decides on are those of any service of the same declarations. -/
theorem registryOf_eq (finds : Finds s written modules p ds)
    (started : (Service.start table ds configs p serviceId isTracing sink).result = .ok service) :
    ∃ r, registryOf s modules = .ok r ∧ r.names = service.registry.names := by
  obtain ⟨names, about, declared⟩ := finds.declared
  obtain ⟨r, built, rfl⟩ := Service.start_eq_assemble started
  refine ⟨r.freeze, ?_, rfl⟩
  rw [registryOf_of_about about, declared]
  show (Registry.build ds true).mapError _ = _
  rw [Registry.build_freeze built]
  rfl

end Finds

/-! ### Callers -/

/-- The claims that name a principal and its roles. -/
def claimsOf (principal : Text) (roles : List Text) : Value :=
  .ofMembers [("sub", .text principal), ("roles", .list (roles.map .text))]

/-- The callers that a principal with roles stands for: the one that the claims name, or the anonymous one, who
may also present nothing. -/
inductive StandsFor (roles : List Text) : Option Text → Option Identity → Prop where
  | principal {t : Text} {i : Identity} (claimed : Identity.ofClaims (claimsOf t roles) = .ok i) :
    StandsFor roles (some t) (some i)
  | nobody : StandsFor roles none none
  | anonymous : StandsFor roles none (some .anonymous)

/-- A name that a principal can have: there is something in it, and nothing blank around it. -/
def IsName (t : Text) : Prop := t.isBlank = false ∧ t.trim = t

variable {σ κ τ ω : Type} {table : ExtensionTable κ τ} {configs : List (ExtensionConfig κ)} {serviceId : Text}
  {isTracing : Bool} {sink : Option (AuditSink σ)} {service : Service σ τ}

/-- The policy that lets one principal call the echo and a tool that there is not, and nobody else anything. -/
def echoGrant : Policy := { rules := [("echo", "use"), ("print", "use")], grants := [("a", ["use"])] }

/-- The echo, marked as a tool. -/
def markedEcho : Candidate := .function Sample.echo none (some { description := .text "Echoes input", name := none })

/-- A scene with a file of a policy and a module that binds the echo. -/
def echoScene : CommandScene where
  files := { nodes := [(["p.yaml"],
    .file ((Utf8.encode "rules:\n  echo: use\n  print: use\ngrants:\n  a: [use]\n").getD []))] }
  modules := { sources := [], loaded := [(Sample.moduleName, [("echo", markedEcho)])] }
  environment := []

/-- The declaration of the module. -/
def echoDeclared : Declaration := { candidate := markedEcho, description := .text "Echoes input", name := none }

theorem finds_echoScene : Finds echoScene "p.yaml" [Sample.moduleName] echoGrant [echoDeclared] where
  policy := by
    obtain ⟨p, loaded, same⟩ := ok_of_any (p := (· == echoGrant))
      (by decide +kernel : (PolicyFile.load echoScene.files (Path.ofText "p.yaml")).toOption.any _ = true)
    rw [loaded, eq_of_beq same]
  declared := ⟨_, .named (List.cons_ne_nil _ _), rfl⟩
  built := by
    obtain ⟨r, built, -⟩ := ok_of_any (p := fun _ => true)
      (by decide +kernel : (Registry.build [echoDeclared] true).toOption.any _ = true)
    exact ⟨r, built⟩

theorem exists_start_echoScene : ∃ service : Service Unit Shim,
    (Service.start Service.standardExtensions [echoDeclared] [] echoGrant Service.standardId false
      none).result = .ok service := by
  obtain ⟨service, started, -⟩ := Service.exists_of_any (fun _ => true) (by decide +kernel :
    (Service.start (σ := Unit) Service.standardExtensions [echoDeclared] [] echoGrant Service.standardId false
      none).result.toOption.any _ = true)
  exact ⟨service, started⟩

end Command

/-! ### Sorted texts -/

/-- Texts in ascending order, none of them twice. -/
def Ascending (ts : List Text) : Prop := ts.Pairwise fun s t => s.lt t = true

namespace Text

theorem mem_sort {t : Text} {ts : List Text} : t ∈ sort ts ↔ t ∈ ts := List.mem_mergeSort

theorem lt_of_le_of_ne {s t : Text} (h : s.le t = true) (other : s ≠ t) : s.lt t = true := by
  by_contra incomparable
  have back : t.le s = true := by
    rw [le, Bool.not_eq_true', Bool.eq_false_iff]
    exact incomparable
  exact other (le_antisymm h back)

theorem ascending_sort {ts : List Text} (distinct : ts.Nodup) : Ascending (sort ts) := by
  have sorted : (sort ts).Pairwise fun s t => s.le t = true :=
    @List.pairwise_mergeSort _ le (fun _ _ _ => le_trans) le_total ts
  have apart : (sort ts).Nodup := (List.mergeSort_perm ts le).nodup_iff.mpr distinct
  exact (sorted.and apart).imp fun h => lt_of_le_of_ne h.1 h.2

end Text

/-! ### Rules -/

/-- The names of the rules of a policy that is loaded are distinct. -/
theorem PolicyFile.rules_nodup_of_load {fs : Files} {path : Path} {p : Policy} (loaded : load fs path = .ok p) :
    (p.rules.map (·.1)).Nodup := by
  obtain ⟨_, _, es, _, -, -, -, -, -, rfl⟩ := load_eq_ok_iff.mp loaded
  show ((tables es).trimmed.rules.map (·.1)).Nodup
  rw [Written.trimmed, List.map_map]
  exact tables_rules_nodup es

namespace Command

theorem isCovered_iff {p : Policy} {tool : Text} :
    isCovered p tool = true ↔ ∃ permission, p.Requires tool permission := by
  rw [isCovered, Option.any_eq_true]
  refine exists_congr fun permission => and_congr_right fun _ => ?_
  rw [Bool.not_eq_true']
  rfl

variable {p : Policy} {tool : Text} {names : List Text}

/-- Where a rule covers a tool, nobody is refused for want of a rule. -/
theorem decide_ne_of_isCovered (covered : isCovered p tool = true) (member : tool ∈ names)
    (caller : Option Identity) : p.decide caller tool (some names) ≠ .deny .noPolicyForTool := by
  obtain ⟨permission, rule⟩ := isCovered_iff.mp covered
  have known : PolicyOf.Known (some names) tool := by
    intro ns same
    cases same
    exact member
  rw [PolicyOf.decide_of_requires caller known rule]
  split <;> nofun

/-- Where no rule covers a tool, everybody is. -/
theorem decide_of_not_isCovered (uncovered : isCovered p tool = false) (caller : Option Identity) :
    p.decide caller tool (some names) = .deny .noPolicyForTool := by
  refine PolicyOf.decide_of_not_requires caller fun rule => ?_
  rw [isCovered_iff.mpr rule] at uncovered
  cases uncovered

/-! ### The report -/

/-- What three lists of a report say about a gate and the names of a registry. -/
structure Coverage {σ : Type} (p : Policy) (gate : Gate σ) (names covered uncovered unknown : List Text) :
    Prop where
  coveredAscending : Ascending covered
  uncoveredAscending : Ascending uncovered
  unknownAscending : Ascending unknown
  disjoint : ∀ t ∈ covered, t ∉ uncovered
  together : ∀ t, t ∈ covered ∨ t ∈ uncovered ↔ t ∈ names
  /-- A tool without a rule is one that nobody may call for want of a rule. -/
  uncovered_iff : ∀ t ∈ names,
    t ∈ uncovered ↔ ∀ caller, gate.decide caller t = .deny .noPolicyForTool
  /-- A covered tool is one that nobody is refused for want of a rule. -/
  covered_iff : ∀ t ∈ names,
    t ∈ covered ↔ ∀ caller, gate.decide caller t ≠ .deny .noPolicyForTool
  unknown_iff : ∀ t, t ∈ unknown ↔ t ∈ p.rules.map (·.1) ∧ t ∉ names

variable {s : CommandScene} {written : Text} {modules : List Text} {ds : List Declaration} {σ κ τ : Type}
  {table : ExtensionTable κ τ} {configs : List (ExtensionConfig κ)} {serviceId : Text} {isTracing : Bool}
  {sink : Option (AuditSink σ)} {service : Service σ τ}

theorem coverage_coverageJson {gate : Gate σ}
    (decides : ∀ caller tool, gate.decide caller tool = p.decide caller tool (some names))
    (distinct : names.Nodup) (rules : (p.rules.map (·.1)).Nodup) :
    Coverage p gate names (Text.sort (names.filter (isCovered p))) (Text.sort (names.filter (!isCovered p ·)))
      (Text.sort ((p.rules.map (·.1)).filter (!names.contains ·))) where
  coveredAscending := Text.ascending_sort (distinct.filter _)
  uncoveredAscending := Text.ascending_sort (distinct.filter _)
  unknownAscending := Text.ascending_sort (rules.filter _)
  disjoint t h h' := by
    rw [Text.mem_sort, List.mem_filter] at h h'
    rw [h.2] at h'
    cases h'.2
  together t := by
    rw [Text.mem_sort, Text.mem_sort, List.mem_filter, List.mem_filter, ← and_or_left]
    cases isCovered p t <;> simp
  uncovered_iff t member := by
    rw [Text.mem_sort, List.mem_filter, and_iff_right member, Bool.not_eq_true']
    constructor
    · intro uncovered caller
      rw [decides, decide_of_not_isCovered uncovered]
    · intro denied
      rw [Bool.eq_false_iff]
      intro covered
      exact decide_ne_of_isCovered covered member none (decides none t ▸ denied none)
  covered_iff t member := by
    rw [Text.mem_sort, List.mem_filter, and_iff_right member]
    constructor
    · intro covered caller
      rw [decides]
      exact decide_ne_of_isCovered covered member caller
    · intro other
      by_contra uncovered
      refine other none ?_
      rw [decides, decide_of_not_isCovered (Bool.eq_false_iff.mpr uncovered)]
  unknown_iff t := by
    rw [Text.mem_sort, List.mem_filter, Bool.not_eq_true', ← Bool.not_eq_true, List.contains_iff_mem]

/-- The names of a list, as a report has them. -/
def listed (ts : List Text) : Json := .array (ts.map .text)

/-- **What the report says**: its three lists are in order, the first two divide the names of the registry of
any service of the same declarations and the same policy, by whether its gate denies the tool for want of a
rule, and the third names the rules that are for none of them. -/
theorem answer_checkPolicy (finds : Finds s written modules p ds)
    (started : (Service.start table ds configs p serviceId isTracing sink).result = .ok service) :
    ∃ covered uncovered unknown,
      answer s (.checkPolicy written modules) = .ok (Json.record [("covered", listed covered),
        ("without_rule", listed uncovered), ("rules_for_unknown_tools", listed unknown)]) ∧
      Coverage p service.dispatcher.gate service.registry.names covered uncovered unknown := by
  obtain ⟨r, registry, names⟩ := finds.registryOf_eq started
  have answered : answer s (.checkPolicy written modules) = .ok (coverageJson p r.names) := by
    rw [answer, finds.policyOf_eq]
    show (do let r ← registryOf s modules; _) = _
    rw [registry]
    rfl
  have distinct : service.registry.names.Nodup := by
    obtain ⟨r, built, rfl⟩ := Service.start_eq_assemble started
    obtain ⟨ts, -, distinct, rfl⟩ := Registry.build_eq_ok.mp built
    exact distinct
  rw [names] at answered
  exact ⟨_, _, _, answered, coverage_coverageJson (Service.decide_of_start started) distinct
    (PolicyFile.rules_nodup_of_load finds.policy)⟩

/-- In the small scene the echo is covered, and there is a rule for a tool that there is not. -/
theorem answer_checkPolicy_echo : ∃ service : Service Unit Shim,
    (Service.start Service.standardExtensions [echoDeclared] [] echoGrant Service.standardId false
      none).result = .ok service ∧
    ∃ covered uncovered unknown,
      answer echoScene (.checkPolicy "p.yaml" [Sample.moduleName]) = .ok (Json.record [
        ("covered", listed covered), ("without_rule", listed uncovered),
        ("rules_for_unknown_tools", listed unknown)]) ∧
      Coverage echoGrant service.dispatcher.gate service.registry.names covered uncovered unknown := by
  obtain ⟨service, started⟩ := exists_start_echoScene
  exact ⟨service, started, answer_checkPolicy finds_echoScene started⟩

end Command

end GuardedTools
