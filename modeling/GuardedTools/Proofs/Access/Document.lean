import GuardedTools.Access.PolicyFile
import GuardedTools.Access.PolicyTables
import GuardedTools.Proofs.Access.Written
import GuardedTools.Proofs.Check.Form
import Mathlib.Data.List.TakeWhile

/-!
# What a policy document allows

The policy of a document is the one of the tables that the document writes, except that the permissions of
its rules are taken without the blanks at their ends (`PolicyFile.policyOf_eq`).  The permissions that are
granted are taken as they are written.  So a grant satisfies a rule if it is what the rule says without those
blanks, and a grant that is written like the rule satisfies it only if it is written without them
(`PolicyFile.decide_document`, `PolicyFile.unmet`).
-/

namespace GuardedTools

/-- A text that says anything is not empty without the blanks at its ends. -/
theorem Text.trim_not_isEmpty {t : Text} (h : t.isBlank = false) : t.trim.isEmpty = false := by
  obtain ⟨p, member, solid⟩ : ∃ p ∈ t.points, CodePoint.isBlank p = false := by
    simpa [isBlank] using h
  have kept {ps : List CodePoint} (among : p ∈ ps) : p ∈ ps.dropWhile CodePoint.isBlank := by
    rw [← List.takeWhile_append_dropWhile (p := CodePoint.isBlank) (l := ps)] at among
    rcases List.mem_append.mp among with dropped | stays
    · have blank := List.mem_takeWhile_imp dropped
      rw [solid] at blank
      cases blank
    · exact stays
  have stays : p ∈ t.trim.points := List.mem_reverse.mpr (kept (List.mem_reverse.mpr (kept member)))
  exact List.isEmpty_eq_false_iff.mpr (List.ne_nil_of_mem stays)

/-! ### Rows under texts -/

namespace PolicyTables

theorem put_texts (f : Value → Value) (r : Text × Value) (kept : List (Text × Value)) :
    Value.put (.text r.1) (f r.2) (kept.map fun r => (.text r.1, f r.2)) =
      (lastRows.put r kept).map fun r => (.text r.1, f r.2) := by
  induction kept with
  | nil => rfl
  | cons s kept ih =>
    obtain ⟨n, v⟩ := s
    rw [List.map_cons, Value.put, lastRows.put]
    have keys : Value.same (.text n) (.text r.1) = true ↔ n = r.1 := by simp [Value.same]
    by_cases same : n = r.1
    · rw [if_pos same, if_pos (keys.mpr same), List.map_cons, same]
    · rw [if_neg same, if_neg (mt keys.mp same), ih, List.map_cons]

/-- Later entries replace earlier ones in the same way among rows and among entries of a map. -/
theorem lastEntries_texts (f : Value → Value) (rows : List (Text × Value)) :
    Check.lastEntries (rows.map fun r => (.text r.1, f r.2)) =
      (lastRows rows).map fun r => (.text r.1, f r.2) := by
  have kept : ∀ (rows kept : List (Text × Value)),
      (rows.map fun r => ((.text r.1, f r.2) : Value × Value)).foldl (fun es e => Value.put e.1 e.2 es)
        (kept.map fun r => (.text r.1, f r.2)) =
      (rows.foldl (fun kept r => lastRows.put r kept) kept).map fun r => (.text r.1, f r.2) := by
    intro rows
    induction rows with
    | nil => exact fun kept => rfl
    | cons r rows ih =>
      intro kept
      rw [List.map_cons, List.foldl_cons, List.foldl_cons, put_texts, ih]
  exact kept rows []

theorem put_names (r : Text × Value) (kept : List (Text × Value)) (name : Text) :
    name ∈ (lastRows.put r kept).map (·.1) ↔ name = r.1 ∨ name ∈ kept.map (·.1) := by
  induction kept with
  | nil => simp [lastRows.put]
  | cons s kept ih =>
    obtain ⟨n, v⟩ := s
    rw [lastRows.put]
    by_cases same : n = r.1
    · simp [same]
    · rw [if_neg same, List.map_cons, List.mem_cons, ih, List.map_cons, List.mem_cons]
      exact or_left_comm

theorem put_nodup {r : Text × Value} {kept : List (Text × Value)} (h : (kept.map (·.1)).Nodup) :
    ((lastRows.put r kept).map (·.1)).Nodup := by
  induction kept with
  | nil => simp [lastRows.put]
  | cons s kept ih =>
    obtain ⟨n, v⟩ := s
    rw [List.map_cons, List.nodup_cons] at h
    rw [lastRows.put]
    by_cases same : n = r.1
    · -- the row takes the place of one with its name
      subst same
      rw [if_pos rfl, List.map_cons, List.nodup_cons]
      exact h
    · rw [if_neg same, List.map_cons, List.nodup_cons, put_names]
      exact ⟨fun again => again.elim same h.1, ih h.2⟩

/-- Of the rows that are kept no two have one name. -/
theorem lastRows_nodup (rows : List (Text × Value)) : ((lastRows rows).map (·.1)).Nodup := by
  have kept : ∀ (rows kept : List (Text × Value)), (kept.map (·.1)).Nodup →
      ((rows.foldl (fun kept r => lastRows.put r kept) kept).map (·.1)).Nodup := by
    intro rows
    induction rows with
    | nil => exact fun kept h => h
    | cons r rows ih => exact fun kept h => ih _ (put_nodup h)
  exact kept rows [] List.nodup_nil

end PolicyTables

namespace PolicyFile

/-! ### The tables of a document -/

/-- What a document gives for a section. -/
def sectionOf (es : List (Value × Value)) (name : Text) : Value := (Value.find? (.text name) es).getD .null

/-- The rows of a map under the texts that its keys stand for. -/
def rowsIn : Value → List (Text × Value)
  | .dict es => PolicyTables.lastRows (es.filterMap fun e => (Check.textOf? e.1).map (·, e.2))
  | _ => []

/-- The rows of a section that lists texts by text. -/
def listsIn (v : Value) : List (Text × List Text) := (rowsIn v).map fun r => (r.1, Check.textsOf r.2)

/-- The tables that a document writes. -/
def tables (es : List (Value × Value)) : Written Text where
  rules := (rowsIn (sectionOf es "rules")).map fun r => (r.1, (Check.textOf? r.2).getD Text.empty)
  grants := listsIn (sectionOf es "grants")
  roleGrants := listsIn (sectionOf es "roles")
  anonymous := Check.textsOf (sectionOf es "anonymous")
  roleInherits := listsIn (sectionOf es "inherits")

end PolicyFile

/-- The tables with the permissions of the rules without the blanks at their ends. -/
def Written.trimmed (w : Written Text) : Written Text :=
  { w with rules := w.rules.map fun r => (r.1, r.2.trim) }

namespace PolicyFile

open Check Form

/-- A map of texts to what is made by another check. -/
theorem dictOf_makes {check : Value → Verdict} {f : Value → Value}
    (values : ∀ {x y}, Makes check x y → y = f x) {v y : Value}
    (h : Makes (dictOf {} (str {} none) check) v y) :
    y = .dict ((rowsIn v).map fun r => (.text r.1, f r.2)) := by
  obtain ⟨a, accepted, rfl⟩ := h
  obtain ⟨es, made, rfl, each, value⟩ := dictOf_eq_ok accepted
  have rows : made = (es.filterMap fun e => (Check.textOf? e.1).map (·, e.2)).map
      fun r => (.text r.1, f r.2) := by
    clear accepted value
    induction each with
    | nil => rfl
    | @cons e m es made first _ ih =>
      obtain ⟨k, x⟩ := m
      obtain ⟨t, text, key⟩ := str_makes first.1
      have value : x = f e.2 := values first.2
      have key : k = .text t := key
      rw [List.filterMap_cons, text, key, value, ih]
      rfl
  rw [value, rows, PolicyTables.lastEntries_texts]
  rfl

theorem str_makes_text {x y : Value} (h : Makes (str {} none) x y) :
    y = .text ((textOf? x).getD Text.empty) := by
  obtain ⟨t, text, rfl⟩ := str_makes h
  rw [text]
  rfl

/-- Rules are trimmed, and none of them is blank. -/
theorem trimmedRules_eq_ok {rows : List (Text × Text)} {trimmed : List (Value × Value)}
    (h : trimmedRules (rows.map fun r => (.text r.1, .text r.2)) = .ok trimmed) :
    trimmed = (rows.map fun r => (.text r.1, .text r.2.trim)) ∧ ∀ r ∈ rows, r.2.isBlank = false := by
  induction rows generalizing trimmed with
  | nil =>
    cases h
    exact ⟨rfl, nofun⟩
  | cons r rows ih =>
    rw [List.map_cons, trimmedRules] at h
    split at h
    · cases h
    next solid =>
      obtain ⟨rest, others, made⟩ := bind_eq_ok.mp h
      cases made
      obtain ⟨rfl, each⟩ := ih others
      have here : r.2.isBlank = false := by simpa [Value.plain] using solid
      exact ⟨rfl, List.forall_mem_cons.mpr ⟨here, each⟩⟩

theorem textsOf_texts (ts : List Text) : textsOf (.list (ts.map .text)) = ts := Value.texts_map ts

theorem rowsOf_texts (rows : List (Text × List Text)) :
    rowsOf (.dict (rows.map fun r => (.text r.1, .list (r.2.map .text)))) = rows := by
  show (rows.map fun r => ((.text r.1, .list (r.2.map .text)) : Value × Value)).map _ = rows
  rw [List.map_map]
  refine (List.map_congr_left fun r _ => ?_).trans (List.map_id rows)
  show (r.1, PolicyFile.textsOf (.list (r.2.map .text))) = r
  rw [textsOf_texts]

theorem rulesOf_texts (rows : List (Text × Text)) :
    rulesOf (.dict (rows.map fun r => (.text r.1, .text r.2))) = rows := by
  show (rows.map fun r => ((.text r.1, .text r.2) : Value × Value)).map _ = rows
  rw [List.map_map]
  exact List.map_id rows

variable {es : List (Value × Value)} {values : List (Text × Value)}

/-- A section of an accepted document is made of what is given for it, or is the default. -/
theorem valueOf_cases (accepted : form.fill es = .ok values) (name : Text) (d : Value) (shape : Shape)
    (member : (name, .default d, shape) ∈ form.fields) :
    (∃ y, Makes (Form.check (name, .default d, shape)) (sectionOf es name) y ∧
      form.rule name y = .ok (valueOf values name)) ∨
    (sectionOf es name = .null ∧ valueOf values name = d) := by
  have all : ∀ f ∈ form.fields, f.2.1 ≠ .optional := by simp [form]
  have distinct : (form.fields.map (·.1)).Nodup := by decide +kernel
  have filled := fills_valueOf (fill_eq_ok all accepted) distinct member
  dsimp only at filled
  generalize valueOf values name = z at filled
  cases filled with
  | given found made ruled =>
    have given : sectionOf es name = _ := congrArg (·.getD .null) found
    rw [given]
    exact Or.inl ⟨_, made, ruled⟩
  | default absent presence =>
    have none : sectionOf es name = .null := congrArg (·.getD .null) absent
    cases presence
    exact Or.inr ⟨none, rfl⟩

/-- A section that lists texts by text gives the lists that are written in it. -/
theorem rowsOf_valueOf (accepted : form.fill es = .ok values) (name : Text)
    (member : (name, .default (.dict []), form.table) ∈ form.fields) (unruled : form.rule name = .ok) :
    rowsOf (valueOf values name) = listsIn (sectionOf es name) := by
  have value : valueOf values name =
      .dict ((listsIn (sectionOf es name)).map fun r => (.text r.1, .list (r.2.map .text))) := by
    rcases valueOf_cases accepted name _ _ member with ⟨y, made, ruled⟩ | ⟨none, value⟩
    · rw [unruled] at ruled
      rw [← Except.ok.inj ruled, dictOf_makes sequence_makes_texts made, listsIn, List.map_map]
      rfl
    · rw [value, none]
      rfl
  rw [value, rowsOf_texts]

/-- The list of the anonymous caller is the one that is written. -/
theorem textsOf_valueOf (accepted : form.fill es = .ok values) :
    PolicyFile.textsOf (valueOf values "anonymous") = (tables es).anonymous := by
  have filled := valueOf_cases accepted "anonymous" (.list []) (.list (.str {} none) {}) (by simp [form])
  have unruled : form.rule "anonymous" = .ok := rfl
  have value : valueOf values "anonymous" = .list ((tables es).anonymous.map .text) := by
    rcases filled with ⟨y, made, ruled⟩ | ⟨none, value⟩
    · rw [unruled] at ruled
      rw [← Except.ok.inj ruled, sequence_makes_texts made]
      rfl
    · rw [value, tables, none]
      rfl
  rw [value, textsOf_texts]

/-- The rules are the written ones without the blanks at the ends of their permissions, and none of these
is blank. -/
theorem rulesOf_valueOf (accepted : form.fill es = .ok values) :
    rulesOf (valueOf values "rules") = (tables es).trimmed.rules ∧
      ∀ r ∈ (tables es).rules, r.2.isBlank = false := by
  rcases valueOf_cases accepted "rules" (.dict []) (.dict (.str {} none) (.str {} none) {})
    (by simp [form]) with ⟨y, made, ruled⟩ | ⟨none, value⟩
  · have written : y = .dict ((tables es).rules.map fun r => (.text r.1, .text r.2)) := by
      rw [dictOf_makes str_makes_text made, tables, List.map_map]
      rfl
    have trims : form.rule "rules" = ruleOfRules := rfl
    rw [trims, written, ruleOfRules] at ruled
    obtain ⟨made, trimmed, value⟩ := map_eq_ok.mp ruled
    obtain ⟨rfl, solid⟩ := trimmedRules_eq_ok trimmed
    have read := rulesOf_texts (tables es).trimmed.rules
    rw [Written.trimmed, List.map_map] at read
    rw [← value]
    exact ⟨read, solid⟩
  · rw [value, Written.trimmed, tables, none]
    exact ⟨rfl, nofun⟩

/-- The policy of a document is the one of the tables that it writes, with trimmed rules. -/
theorem policyOf_eq (accepted : form.fill es = .ok values) :
    policyOf values = (tables es).trimmed.policy := by
  have grants := rowsOf_valueOf accepted "grants" (by simp [form]) rfl
  have roles := rowsOf_valueOf accepted "roles" (by simp [form]) rfl
  have inherits := rowsOf_valueOf accepted "inherits" (by simp [form]) rfl
  show PolicyOf.ofTables _ _ _ _ _ = _
  rw [(rulesOf_valueOf accepted).1, grants, roles, textsOf_valueOf accepted, inherits]
  rfl

/-! ### Decisions -/

theorem rowsIn_nodup (v : Value) : ((rowsIn v).map (·.1)).Nodup := by
  unfold rowsIn
  split
  · exact PolicyTables.lastRows_nodup _
  · exact List.nodup_nil

/-- No two of the written rules are for one tool. -/
theorem tables_rules_nodup (es : List (Value × Value)) : ((tables es).rules.map (·.1)).Nodup := by
  rw [tables, List.map_map]
  exact rowsIn_nodup _

/-- No two of the written rows are for one principal. -/
theorem tables_grants_nodup (es : List (Value × Value)) : ((tables es).grants.map (·.1)).Nodup := by
  rw [tables, listsIn, List.map_map]
  exact rowsIn_nodup _

/-- A rule that is written for a tool asks for its permission without the blanks at the ends. -/
theorem requires_of_document (accepted : form.fill es = .ok values) {tool p : Text}
    (rule : (tool, p) ∈ (tables es).rules) : (policyOf values).Requires tool p.trim := by
  have distinct : ((tables es).trimmed.rules.map (·.1)).Nodup := by
    rw [Written.trimmed, List.map_map]
    exact tables_rules_nodup es
  have member : (tool, p.trim) ∈ (tables es).trimmed.rules := List.mem_map_of_mem rule
  have found : (tables es).trimmed.rules.find? (·.1 == tool) = some (tool, p.trim) :=
    find?_of_nodup distinct member
  have solid := (rulesOf_valueOf accepted).2 _ rule
  refine ⟨?_, Text.trim_not_isEmpty solid⟩
  rw [policyOf_eq accepted]
  exact congrArg (Option.map (·.2)) found

/-- A caller holds what the document gives to it. -/
theorem holds_of_document_iff (accepted : form.fill es = .ok values) (caller : Option Identity)
    (permission : Text) :
    (policyOf values).Holds caller permission ↔ (tables es).remaining.GivesTo caller permission := by
  rw [policyOf_eq accepted, Written.holds_policy_iff]
  rfl

/-- A call of a tool with a rule is allowed to those to whom the document gives what the rule says without
the blanks at its ends. -/
theorem decide_document_eq_allow_iff (accepted : form.fill es = .ok values) {tool p : Text}
    (rule : (tool, p) ∈ (tables es).rules) {names : Option (List Text)} (known : PolicyOf.Known names tool)
    (caller : Option Identity) :
    (policyOf values).decide caller tool names = .allow ↔ (tables es).remaining.GivesTo caller p.trim := by
  have required := requires_of_document accepted rule
  rw [← holds_of_document_iff accepted]
  constructor
  · intro allowed
    by_contra wanting
    rw [PolicyOf.decide_of_not_holds caller known required wanting] at allowed
    cases allowed
  · exact PolicyOf.decide_of_holds caller known required

/-- **What a document allows**: a call of a tool with a rule is allowed to those to whom the document gives
what the rule says without the blanks at its ends.  Where it says it without such blanks, the call is allowed
to a principal whose row has the same text and to the anonymous caller if its list has it; and if no two names
of roles are one, it is allowed to all to whom the document gives that text. -/
theorem decide_document (accepted : form.fill es = .ok values) {tool p : Text}
    (rule : (tool, p) ∈ (tables es).rules) {names : Option (List Text)} (known : PolicyOf.Known names tool)
    (caller : Option Identity) :
    ((policyOf values).decide caller tool names = .allow ↔
      (tables es).remaining.GivesTo caller p.trim) ∧
    (p.trim = p → (tables es).Lists caller p → (policyOf values).decide caller tool names = .allow) ∧
    (p.trim = p → (tables es).NamesApart → (tables es).GivesTo caller p →
      (policyOf values).decide caller tool names = .allow) := by
  have allowed := decide_document_eq_allow_iff accepted rule known caller
  refine ⟨allowed, fun solid listed => ?_, fun solid apart given => ?_⟩
  · -- the rows of principals have distinct names, so that all of them count
    have rows : (tables es).remaining.grants = (tables es).grants :=
      Table.lastRows_of_nodup (tables_grants_nodup es)
    have kept : (tables es).remaining.Lists caller p := by
      rw [Written.Lists, rows]
      exact listed
    rw [allowed, solid]
    exact kept.givesTo
  · rw [allowed, solid, Written.remaining_of_namesApart apart]
    exact given

/-- A document with blanks around the permission of a rule, and around that of a grant. -/
def spaced : List (Value × Value) := [
  (.text "rules", .dict [(.text "echo", .text " use "), (.text "add", .text "sum")]),
  (.text "grants", .dict [
    (.text "ann", .list [.text "use", .text "sum"]), (.text "bob", .list [.text " use "])])]

theorem fill_spaced : ∃ values, form.fill spaced = .ok values := by
  have accepted : (form.fill spaced).toOption.any (fun _ => true) = true := by decide +kernel
  obtain ⟨values, filled, -⟩ := ok_of_any accepted
  exact ⟨values, filled⟩

/-- A principal may call a tool whose rule has blanks around what is granted to it, and one whose rule has
none. -/
theorem decide_document_spaced :
    ∃ values, form.fill spaced = .ok values ∧
      (policyOf values).decide (some { principal := some "ann" }) "echo" none = .allow ∧
      (policyOf values).decide (some { principal := some "ann" }) "add" (some ["add"]) = .allow := by
  obtain ⟨values, accepted⟩ := fill_spaced
  have loose : (("echo" : Text), (" use " : Text)) ∈ (tables spaced).rules := by decide +kernel
  have tight : (("add" : Text), ("sum" : Text)) ∈ (tables spaced).rules := by decide +kernel
  have unlimited : PolicyOf.Known none "echo" := nofun
  have known : PolicyOf.Known (some ["add"]) "add" := by simp [PolicyOf.Known]
  have echo := decide_document accepted loose unlimited (some { principal := some "ann" })
  have add := decide_document accepted tight known (some { principal := some "ann" })
  have listed : (tables spaced).Lists (some { principal := some "ann" }) "sum" :=
    Or.inr ⟨_, rfl, ("ann", ["use", "sum"]), by decide +kernel, rfl, by decide +kernel⟩
  have given : (tables spaced).remaining.Lists (some { principal := some "ann" }) (" use " : Text).trim :=
    Or.inr ⟨_, rfl, ("ann", ["use", "sum"]), by decide +kernel, rfl, by decide +kernel⟩
  exact ⟨values, accepted, echo.1.mpr given.givesTo, add.2.1 (by decide +kernel) listed⟩

/-- A grant that is written like the rule does not satisfy it where it has blanks at its ends. -/
theorem unmet :
    ∃ values, form.fill spaced = .ok values ∧ (("echo" : Text), (" use " : Text)) ∈ (tables spaced).rules ∧
      (tables spaced).Lists (some { principal := some "bob" }) " use " ∧
      (policyOf values).decide (some { principal := some "bob" }) "echo" none =
        .deny .insufficientPermission := by
  obtain ⟨values, accepted⟩ := fill_spaced
  have rule : (("echo" : Text), (" use " : Text)) ∈ (tables spaced).rules := by decide +kernel
  have listed : (tables spaced).Lists (some { principal := some "bob" }) " use " :=
    Or.inr ⟨_, rfl, ("bob", [" use "]), by decide +kernel, rfl, by decide +kernel⟩
  have wanting : ¬ (policyOf values).Holds (some { principal := some "bob" }) (" use " : Text).trim := by
    rw [holds_of_document_iff accepted]
    rintro (⟨anonymous, -⟩ | ⟨i, presented, principal, named, row | ⟨start, among, -⟩⟩)
    · cases anonymous _ rfl
    · cases presented
      cases named
      exact absurd row (by decide +kernel)
    · cases presented
      cases among
  exact ⟨values, accepted, rule, listed,
    PolicyOf.decide_of_not_holds _ nofun (requires_of_document accepted rule) wanting⟩

end PolicyFile

end GuardedTools
