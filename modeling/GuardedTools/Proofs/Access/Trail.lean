import GuardedTools.Access.Gate
import GuardedTools.Proofs.Access.Decision
import GuardedTools.Proofs.Basic
import GuardedTools.Proofs.Json.Members
import GuardedTools.Proofs.Shape.Recovered
import Mathlib.Data.List.Basic

/-!
# What the audit trail tells

The gate offers one audit event of each attempt at a call to its sink.  From the events that a sink stores
the tool and the decision of each attempt can be read off, and the caller too, except that the trail calls
the anonymous caller by a name that a principal may have (`Gate.stored_eq_iff`).  Where no principal has it,
the trail identifies all callers; a principal that has it leaves the trail of the anonymous caller
(`Gate.impersonated`).

An event determines what it tells of (`Gate.auditEvent_eq_iff`), and a run stores the events of its
attempts in order and nothing else (`Gate.stored_authorizeAll`), whatever it answers
(`Gate.decisions_authorizeAll`).

A trail that is kept answers requests to record events and queries for entries.  What else is known of an
event is kept as JSON text, so that JSON comes back as it was (`Value.jsonWithin_ofJson`,
`AuditTrail.kept_eq`), and the largest numbers first are the newest entries first
(`AuditTrail.mergeSort_eq_reverse`).  One request is served as `AuditTrail.Serves` says, and so are all of a
run (`AuditTrail.serves_serveAll`).
-/

namespace GuardedTools

/-! ### Events -/

theorem Text.append_left_cancel {s t u : Text} (h : s ++ t = s ++ u) : t = u := by
  have points : s.points ++ t.points = s.points ++ u.points := congrArg Text.points h
  cases t
  cases u
  exact congrArg Text.mk (List.append_cancel_left points)

theorem DenyReason.word_inj {r s : DenyReason} (h : r.word = s.word) : r = s := by
  cases r <;> cases s <;> simp [word] at h ⊢

/-- The word and the metadata of an event tell the decision. -/
theorem Decision.eq_of_told {d e : Decision} (word : d.word = e.word)
    (reasons : ∀ r s, d = .deny r → e = .deny s → r.word = s.word) : d = e := by
  cases d with
  | allow =>
    cases e with
    | allow => rfl
    | deny s => simp [Decision.word] at word
  | deny r =>
    cases e with
    | allow => simp [Decision.word] at word
    | deny s => rw [DenyReason.word_inj (reasons r s rfl rfl)]

namespace Gate

/-- Two events are equal exactly if they call the callers alike and tell of the same tool and the same
decision. -/
theorem auditEvent_eq_iff {caller caller' : Option Identity} {tool tool' : Text} {d d' : Decision} :
    auditEvent caller tool d = auditEvent caller' tool' d' ↔
      subjectOf caller = subjectOf caller' ∧ tool = tool' ∧ d = d' := by
  constructor
  · intro h
    have subject : subjectOf caller = subjectOf caller' := congrArg AuditEvent.subject h
    have resource : "tool:" ++ tool = "tool:" ++ tool' := congrArg AuditEvent.resource h
    have word : some d.word = some d'.word := congrArg AuditEvent.decision h
    have metadata := congrArg AuditEvent.metadata h
    refine ⟨subject, Text.append_left_cancel resource, ?_⟩
    refine Decision.eq_of_told (Option.some.inj word) fun r s hd hd' => ?_
    subst hd
    subst hd'
    simpa [auditEvent, Value.ofMembers] using metadata
  · rintro ⟨subject, rfl, rfl⟩
    unfold auditEvent
    rw [subject]

/-- The trail calls two callers alike if they are the same principal or both anonymous, or if one is
anonymous and the other one has the name that the trail has for it. -/
theorem subjectOf_eq_iff {caller caller' : Option Identity} :
    subjectOf caller = subjectOf caller' ↔
      (caller.getD .anonymous).principal = (caller'.getD .anonymous).principal ∨
      ((caller.getD .anonymous).principal = none ∧
        (caller'.getD .anonymous).principal = some Identity.anonymousSubject) ∨
      ((caller.getD .anonymous).principal = some Identity.anonymousSubject ∧
        (caller'.getD .anonymous).principal = none) := by
  unfold subjectOf Identity.auditSubject
  generalize (caller.getD .anonymous).principal = p
  generalize (caller'.getD .anonymous).principal = q
  cases p <;> cases q <;> simp [eq_comm]

end Gate

/-! ### Runs -/

/-- A sink stores every event: it adds each one that it is offered to those that it has stored. -/
def AuditSink.Stores {σ : Type} (sink : AuditSink σ) (stored : σ → List AuditEvent) : Prop :=
  ∀ kept e, ∃ kept', sink.deliver kept e = some kept' ∧ stored kept' = stored kept ++ [e]

/-- An attempt: who asks for which tool. -/
structure Attempt where
  caller : Option Identity
  tool : Text

/-- What there is to be known of an attempt. -/
structure Attempt.Facts where
  /-- The principal; the anonymous caller has none. -/
  principal : Option Text
  tool : Text
  decision : Decision
deriving DecidableEq

namespace Attempt

/-- The facts of two attempts are the same but for the caller, who is anonymous in one of them and bears the
name of the anonymous caller in the other one. -/
def Facts.Impersonate (f g : Facts) : Prop :=
  f.tool = g.tool ∧ f.decision = g.decision ∧
    (f.principal = none ∧ g.principal = some Identity.anonymousSubject ∨
      f.principal = some Identity.anonymousSubject ∧ g.principal = none)

end Attempt

namespace Gate

variable {σ : Type}

/-- What there is to be known of an attempt at a gate. -/
def facts (g : Gate σ) (a : Attempt) : Attempt.Facts where
  principal := (a.caller.getD .anonymous).principal
  tool := a.tool
  decision := g.decide a.caller a.tool

/-- Decides on attempts in order, and records the decisions. -/
def authorizeAll (g : Gate σ) (j : Journal σ) : List Attempt → List Decision × Journal σ
  | [] => ([], j)
  | a :: as =>
    let (decision, j) := g.authorize j a.caller a.tool
    let (decisions, j) := authorizeAll g j as
    (decision :: decisions, j)

/-- A run answers with the decisions on its attempts. -/
theorem decisions_authorizeAll (g : Gate σ) (j : Journal σ) (as : List Attempt) :
    (g.authorizeAll j as).1 = (as.map g.facts).map (·.decision) := by
  induction as generalizing j with
  | nil => rfl
  | cons a as ih =>
    show g.decide a.caller a.tool :: (g.authorizeAll (g.authorize j a.caller a.tool).2 as).1 = _
    rw [ih]
    rfl

/-- The event that is offered of an attempt. -/
def offered (g : Gate σ) (a : Attempt) : AuditEvent :=
  auditEvent a.caller a.tool (g.decide a.caller a.tool)

variable {g : Gate σ} {sink : AuditSink σ} {stored : σ → List AuditEvent}

/-- One attempt stores its event. -/
theorem stored_authorize (sinks : g.sink = some sink) (stores : sink.Stores stored) (j : Journal σ)
    (a : Attempt) :
    stored (g.authorize j a.caller a.tool).2.kept = stored j.kept ++ [g.offered a] := by
  obtain ⟨kept, delivered, adds⟩ := stores j.kept (g.offered a)
  have emitted : AuditSink.emit g.sink j.kept (g.offered a) = (kept, []) := by
    rw [sinks, AuditSink.emit, delivered]
  show stored (AuditSink.emit g.sink j.kept (g.offered a)).1 = _
  rw [emitted, adds]

/-- A run stores the events of its attempts, in order. -/
theorem stored_authorizeAll (sinks : g.sink = some sink) (stores : sink.Stores stored) (j : Journal σ)
    (as : List Attempt) :
    stored (g.authorizeAll j as).2.kept = stored j.kept ++ as.map g.offered := by
  induction as generalizing j with
  | nil => exact (List.append_nil _).symm
  | cons a as ih =>
    show stored (g.authorizeAll (g.authorize j a.caller a.tool).2 as).2.kept = _
    rw [ih, stored_authorize sinks stores, List.append_assoc, List.map_cons]
    rfl

/-- The events of two attempts are equal exactly if the facts are, or differ by an impersonation. -/
theorem offered_eq_iff {a b : Attempt} :
    g.offered a = g.offered b ↔ g.facts a = g.facts b ∨ (g.facts a).Impersonate (g.facts b) := by
  rw [offered, offered, auditEvent_eq_iff, subjectOf_eq_iff]
  simp only [facts, Attempt.Facts.mk.injEq, Attempt.Facts.Impersonate]
  tauto

/-- **What the trail tells**: two runs of attempts at a gate whose sink stores every event leave the same
events exactly if the facts of their attempts are the same one by one, but for anonymous callers in the
place of principals with their name.  So they are the same where no principal has it. -/
theorem stored_eq_iff (sinks : g.sink = some sink) (stores : sink.Stores stored) {j j' : Journal σ}
    (start : stored j.kept = stored j'.kept) (as bs : List Attempt) :
    (stored (g.authorizeAll j as).2.kept = stored (g.authorizeAll j' bs).2.kept ↔
      List.Forall₂ (fun f f' => f = f' ∨ f.Impersonate f') (as.map g.facts) (bs.map g.facts)) ∧
    ((∀ a ∈ as ++ bs, (g.facts a).principal ≠ some Identity.anonymousSubject) →
      stored (g.authorizeAll j as).2.kept = stored (g.authorizeAll j' bs).2.kept →
      as.map g.facts = bs.map g.facts) := by
  have events : stored (g.authorizeAll j as).2.kept = stored (g.authorizeAll j' bs).2.kept ↔
      List.Forall₂ (fun f f' => f = f' ∨ f.Impersonate f') (as.map g.facts) (bs.map g.facts) := by
    rw [stored_authorizeAll sinks stores, stored_authorizeAll sinks stores, start,
      List.append_cancel_left_eq, ← List.forall₂_eq_eq_eq, List.forall₂_map_left_iff,
      List.forall₂_map_right_iff, List.forall₂_map_left_iff, List.forall₂_map_right_iff]
    simp only [offered_eq_iff]
  refine ⟨events, fun unnamed same => ?_⟩
  have unnamedLeft : ∀ a ∈ as, (g.facts a).principal ≠ some Identity.anonymousSubject :=
    fun a member => unnamed a (List.mem_append_left bs member)
  have unnamedRight : ∀ b ∈ bs, (g.facts b).principal ≠ some Identity.anonymousSubject :=
    fun b member => unnamed b (List.mem_append_right as member)
  have alike := events.mp same
  rw [List.forall₂_map_left_iff, List.forall₂_map_right_iff] at alike
  clear events same start unnamed
  -- the attempts in step: an impersonation would need the name in one of the two
  induction alike with
  | nil => rfl
  | @cons a b as bs first _ ih =>
    rw [List.forall_mem_cons] at unnamedLeft unnamedRight
    have facts : g.facts a = g.facts b := by
      rcases first with equal | ⟨-, -, ⟨-, named⟩ | ⟨named, -⟩⟩
      · exact equal
      · exact absurd named unnamedRight.1
      · exact absurd named unnamedLeft.1
    rw [List.map_cons, List.map_cons, facts, ih unnamedLeft.2 unnamedRight.2]

/-- A sink that keeps a list of the events. -/
def listSink : AuditSink (List AuditEvent) where
  deliver kept e := some (kept ++ [e])

theorem listSink_stores : listSink.Stores id := fun kept e => ⟨kept ++ [e], rfl, rfl⟩

/-- A gate in front of one tool, which one principal may use. -/
def guarded : Gate (List AuditEvent) where
  policy := { rules := [("echo", "use")], grants := [("ann", ["use"])] }
  names := none
  sink := some listSink

/-- A journal in which nothing is recorded. -/
def blank : Journal (List AuditEvent) := { kept := [] }

/-- Two principals who are denied the same tool leave different events. -/
theorem stored_eq_iff_guarded :
    (guarded.authorizeAll blank
        [⟨some { principal := some "ann" }, "echo"⟩, ⟨some { principal := some "bob" }, "echo"⟩]).2.kept ≠
      (guarded.authorizeAll blank
        [⟨some { principal := some "ann" }, "echo"⟩, ⟨some { principal := some "eve" }, "echo"⟩]).2.kept := by
  intro same
  have sinks : guarded.sink = some listSink := rfl
  have start : id blank.kept = id blank.kept := rfl
  have facts := (stored_eq_iff sinks listSink_stores start
    [⟨some { principal := some "ann" }, "echo"⟩, ⟨some { principal := some "bob" }, "echo"⟩]
    [⟨some { principal := some "ann" }, "echo"⟩, ⟨some { principal := some "eve" }, "echo"⟩]).2
    (by decide +kernel) same
  exact absurd facts (by decide +kernel)

/-- A principal with the name that the trail has for the anonymous caller leaves the same events as the
anonymous caller does. -/
theorem impersonated :
    (guarded.authorizeAll blank [⟨none, "echo"⟩]).2.kept =
      (guarded.authorizeAll blank [⟨some { principal := some "<anonymous>" }, "echo"⟩]).2.kept ∧
    [(⟨none, "echo"⟩ : Attempt)].map guarded.facts ≠
      [(⟨some { principal := some "<anonymous>" }, "echo"⟩ : Attempt)].map guarded.facts := by
  have decisions : guarded.decide none "echo" =
      guarded.decide (some { principal := some "<anonymous>" }) "echo" := by
    have rule : guarded.policy.Requires "echo" "use" :=
      ⟨by decide +kernel, by decide +kernel⟩
    have nobody : ¬ guarded.policy.Holds none "use" := by simp [PolicyOf.Holds, guarded]
    have unlisted : ¬ guarded.policy.Holds (some { principal := some "<anonymous>" }) "use" := by
      rintro (⟨anonymous, -⟩ | ⟨i, presented, principal, named, held⟩)
      · cases anonymous _ rfl
      · cases presented
        cases named
        rcases held with granted | ⟨start, among, -⟩
        · exact absurd granted (by decide +kernel)
        · cases among
    have known : PolicyOf.Known guarded.names "echo" := fun ns given => by cases given
    rw [decide, decide, PolicyOf.decide_of_not_holds none known rule nobody,
      PolicyOf.decide_of_not_holds _ known rule unlisted]
  have event : guarded.offered ⟨none, "echo"⟩ =
      guarded.offered ⟨some { principal := some "<anonymous>" }, "echo"⟩ :=
    offered_eq_iff.mpr (Or.inr ⟨rfl, decisions, Or.inl ⟨rfl, rfl⟩⟩)
  have run : ∀ as, (guarded.authorizeAll blank as).2.kept = [] ++ as.map guarded.offered :=
    stored_authorizeAll rfl listSink_stores blank
  refine ⟨?_, by decide +kernel⟩
  rw [run, run, List.map_singleton, List.map_singleton, event]

end Gate

/-! ### What else is known -/

namespace Value

mutual

/-- JSON as a value has the form that it is, unless that is not written. -/
theorem jsonWithin_ofJson (j : Json) (depth : Nat) : (ofJson j).jsonWithin false depth =
    ((j.writeFault? depth).map CanonicalError.unwritten).elim (.ok j) .error := by
  match j, depth with
  | .null, _ | .bool _, _ | .float _, _ | .text _, _ => cases depth <;> rfl
  | .int n, _ =>
    rw [ofJson, jsonWithin, Json.writeFault?]
    split <;> rfl
  | .array js, 0 | .object ms, 0 => rfl
  | .array js, depth + 1 =>
    rw [ofJson, jsonWithin, jsonItems_ofJsonItems js depth, Json.writeFault?]
    cases Json.writeFaultItems? depth js <;> rfl
  | .object ms, depth + 1 =>
    rw [ofJson, jsonWithin, Json.writeFault?]
    refine (congrArg (· >>= fun members => pure (Json.object members))
      (jsonMembers_ofJsonMembers ms depth)).trans ?_
    cases Json.writeFaultMembers? depth ms <;> rfl

theorem jsonItems_ofJsonItems (js : List Json) (depth : Nat) : jsonItems false depth (ofJsonItems js) =
    ((Json.writeFaultItems? depth js).map CanonicalError.unwritten).elim (.ok js) .error := by
  match js with
  | [] => rfl
  | j :: js =>
    rw [ofJsonItems, jsonItems, jsonWithin_ofJson j depth, jsonItems_ofJsonItems js depth,
      Json.writeFaultItems?]
    cases j.writeFault? depth <;> cases Json.writeFaultItems? depth js <;> rfl

theorem jsonMembers_ofJsonMembers (ms : List (Text × Json)) (depth : Nat) :
    ((delayedEntries false depth (ofJsonMembers ms)).mapM fun e => do
      return (← keyText e.1, ← e.2)) =
    ((Json.writeFaultMembers? depth ms).map CanonicalError.unwritten).elim (.ok ms) .error := by
  match ms with
  | [] => rfl
  | (key, j) :: ms =>
    rw [ofJsonMembers, delayedEntries, List.mapM_cons, jsonMembers_ofJsonMembers ms depth,
      jsonWithin_ofJson j depth, Json.writeFaultMembers?]
    cases j.writeFault? depth <;> cases Json.writeFaultMembers? depth ms <;> rfl

end

end Value

/-! ### A trail that is kept -/

/-- What is asked of a trail: to record an event, or for entries. -/
inductive TrailRequest where
  | record (e : AuditEvent)
  | ask (q : AuditQuery)

/-- What comes of it. -/
inductive TrailAnswer where
  | recorded (id : Nat)
  | found (entries : List AuditEntry)
  | failed (fault : AuditFault)

/-- An event can be recorded: its texts are Unicode, and what else is known of it can be written. -/
structure AuditEvent.Recordable (e : AuditEvent) : Prop where
  unicode : ∀ t ∈ e.texts, Utf8.unencodable? t = none
  form : e.metadata.isTruthy = true → ∃ j, e.metadata.toJson false = .ok j

/-- An entry has the values of an event. -/
structure AuditEntry.Holds (x : AuditEntry) (e : AuditEvent) : Prop where
  subject : x.subject = e.subject
  action : x.action = e.action
  resource : x.resource = e.resource
  decision : x.decision = e.decision
  /-- Nothing is kept of what counts as nothing. -/
  nothing : e.metadata.isTruthy = false → x.metadata = .null
  /-- Of JSON is kept what its text tells. -/
  told : ∀ ms, ms ≠ [] → e.metadata = .ofJson (.object ms) → x.metadata = (Json.object ms).readBack
  /-- This is all of it if its texts are Unicode and no key stands twice. -/
  same : ∀ ms, ms ≠ [] → e.metadata = .ofJson (.object ms) → (Json.object ms).isReread = true →
    x.metadata = .object ms

/-- A query can be answered: its limit fits in 64 bits, and its texts are Unicode. -/
structure AuditQuery.Askable (q : AuditQuery) : Prop where
  limit : q.limit < 9223372036854775808
  unicode : ∀ t, q.subject = some t ∨ q.action = some t → Utf8.unencodable? t = none

namespace AuditTrail

/-- How requests are answered from a list of entries, and what the list is then.  A new entry comes behind
all others with a number that is larger than theirs.  A query is answered with the newest of the entries
that it selects, as many as its limit says, and at least one. -/
inductive Serves : List AuditEntry → List (TrailRequest × TrailAnswer) → List AuditEntry → Prop
  | nil (log : List AuditEntry) : Serves log [] log
  | recorded {log log' history} {e : AuditEvent} {x : AuditEntry} (recordable : e.Recordable)
      (holds : x.Holds e) (new : ∀ y ∈ log, y.id < x.id)
      (further : Serves (log ++ [x]) history log') :
      Serves log ((.record e, .recorded x.id) :: history) log'
  | notRecorded {log log' history} {e : AuditEvent} {fault : AuditFault}
      (unrecordable : ¬ e.Recordable) (further : Serves log history log') :
      Serves log ((.record e, .failed fault) :: history) log'
  | found {log log' history} {q : AuditQuery} {entries : List AuditEntry} (askable : q.Askable)
      (newest : entries = (log.reverse.filter q.selects).take (max 1 q.limit).toNat)
      (further : Serves log history log') : Serves log ((.ask q, .found entries) :: history) log'
  | notFound {log log' history} {q : AuditQuery} {fault : AuditFault} (unaskable : ¬ q.Askable)
      (further : Serves log history log') : Serves log ((.ask q, .failed fault) :: history) log'

/-- The answer to a request, and the trail after it. -/
def serve (t : AuditTrail) : TrailRequest → TrailAnswer × AuditTrail
  | .record e => match t.recordWith e with
    | .ok t' => (.recorded t.nextId, t')
    | .error fault => (.failed fault, t)
  | .ask q => match t.ask q with
    | .ok entries => (.found entries, t)
    | .error fault => (.failed fault, t)

/-- The answers to requests one after the other, and the trail after them. -/
def serveAll (t : AuditTrail) : List TrailRequest → List (TrailRequest × TrailAnswer) × AuditTrail
  | [] => ([], t)
  | r :: rs =>
    let (answer, t') := t.serve r
    let (history, last) := t'.serveAll rs
    ((r, answer) :: history, last)

variable {t t' : AuditTrail} {e : AuditEvent} {q : AuditQuery} {requests : List TrailRequest}

/-! #### Queries -/

/-- In the order of their numbers, the largest first, entries stand the other way round. -/
theorem mergeSort_eq_reverse {entries : List AuditEntry}
    (ordered : entries.Pairwise (·.id < ·.id)) :
    entries.mergeSort (fun a b => decide (b.id ≤ a.id)) = entries.reverse := by
  have sorted : entries.reverse.Pairwise fun a b => decide (b.id ≤ a.id) = true := by
    rw [List.pairwise_reverse]
    exact ordered.imp fun less => decide_eq_true (Nat.le_of_lt less)
  have apart : (entries.map (·.id)).Nodup :=
    List.Pairwise.map _ (fun _ _ less => Nat.ne_of_lt less) ordered
  refine ((List.mergeSort_perm _ _).trans (List.reverse_perm _).symm).eq_of_pairwise
    (fun a b among among' le le' => ?_) (List.pairwise_mergeSort ?_ ?_ _) sorted
  · have same : a.id = b.id := Nat.le_antisymm (of_decide_eq_true le') (of_decide_eq_true le)
    exact List.inj_on_of_nodup_map apart ((List.mergeSort_perm _ _).mem_iff.mp among)
      (List.mem_reverse.mp among') same
  · intro a b c le le'
    exact decide_eq_true ((of_decide_eq_true le').trans (of_decide_eq_true le))
  · intro a b
    rw [Bool.or_eq_true, decide_eq_true_eq, decide_eq_true_eq]
    exact Nat.le_total _ _

/-- The newest entries come first. -/
theorem recent_eq (t : AuditTrail) (q : AuditQuery) :
    t.recent q = (t.entries.reverse.filter q.selects).take (max 1 q.limit).toNat := by
  have count : q.count = (max 1 q.limit).toNat := by
    rw [AuditQuery.count]
    omega
  have ordered : (t.entries.filter q.selects).Pairwise (·.id < ·.id) :=
    (List.pairwise_map.mp t.ordered).sublist List.filter_sublist
  rw [recent, mergeSort_eq_reverse ordered, List.filter_reverse, count]

theorem ofTexts_eq_ok {ts : List Text} :
    AuditFault.ofTexts ts = .ok () ↔ ∀ t ∈ ts, Utf8.unencodable? t = none := by
  rw [← List.findSome?_eq_none_iff]
  unfold AuditFault.ofTexts
  cases ts.findSome? Utf8.unencodable? with
  | none => exact iff_of_true rfl rfl
  | some u => exact iff_of_false (by intro h; cases h) (by intro h; cases h)

theorem askable_iff : q.Askable ↔
    AuditFault.ofTexts (q.subject.toList ++ q.action.toList) = .ok () ∧
      ¬ AuditQuery.countBound ≤ q.count := by
  have limit : q.limit < 9223372036854775808 ↔ ¬ AuditQuery.countBound ≤ q.count := by
    rw [AuditQuery.count, AuditQuery.countBound]
    omega
  rw [ofTexts_eq_ok, ← limit]
  constructor
  · rintro ⟨limit, unicode⟩
    refine ⟨fun t among => unicode t ?_, limit⟩
    simpa using among
  · rintro ⟨unicode, limit⟩
    refine ⟨limit, fun t stated => unicode t ?_⟩
    simpa using stated

/-- A query that can be answered is. -/
theorem ask_eq_ok (askable : q.Askable) : t.ask q = .ok (t.recent q) := by
  obtain ⟨unicode, limit⟩ := askable_iff.mp askable
  unfold ask
  rw [unicode, if_neg limit]
  rfl

theorem ask_eq_error (unaskable : ¬ q.Askable) : ∃ fault, t.ask q = .error fault := by
  rw [askable_iff] at unaskable
  unfold ask
  cases texts : AuditFault.ofTexts (q.subject.toList ++ q.action.toList) with
  | error fault => exact ⟨fault, rfl⟩
  | ok done =>
    refine ⟨.tooLarge, ?_⟩
    have large : AuditQuery.countBound ≤ q.count := by
      by_contra small
      exact unaskable ⟨texts, small⟩
    rw [if_pos large]
    rfl

/-! #### Recording -/

theorem isTruthy_ofJson_object (ms : List (Text × Json)) :
    (Value.ofJson (.object ms)).isTruthy = !ms.isEmpty := by
  cases ms <;> rfl

/-- What is kept of JSON that is written is what is read back of it. -/
theorem kept_eq {j : Json} (written : j.writeFault? Json.writeDepth = none) : kept j = j.readBack := by
  have read : Json.read .standard j.compact = .ok j.readBack := Json.read_compact (Nat.le_refl _) written
  rw [kept, read]
  rfl

/-- JSON has a form just if it is written, and it is the form. -/
theorem toJson_ofJson_eq_ok {j k : Json} :
    (Value.ofJson j).toJson false = .ok k ↔ j.writeFault? Json.writeDepth = none ∧ k = j := by
  rw [Value.toJson, Value.jsonWithin_ofJson]
  cases j.writeFault? Json.writeDepth with
  | none => exact ⟨fun h => ⟨rfl, (Except.ok.inj h).symm⟩, fun h => congrArg Except.ok h.2.symm⟩
  | some fault => exact iff_of_false (by intro h; cases h) (by rintro ⟨h, -⟩; cases h)

/-- What is recorded of an event: the JSON of what else is known of it. -/
theorem recordWith_eq_ok : t.recordWith e = .ok t' ↔ (∀ w ∈ e.texts, Utf8.unencodable? w = none) ∧
    ∃ j, t' = t.record e j ∧ (e.metadata.isTruthy = true ∧ e.metadata.toJson false = .ok j ∨
      e.metadata.isTruthy = false ∧ j = .null) := by
  rw [← ofTexts_eq_ok]
  unfold recordWith
  cases e.metadata.isTruthy with
  | false =>
    cases AuditFault.ofTexts e.texts with
    | error fault => exact iff_of_false (by intro h; cases h) (by rintro ⟨h, -⟩; cases h)
    | ok done =>
      refine ⟨fun h => ⟨rfl, .null, (Except.ok.inj h).symm, Or.inr ⟨rfl, rfl⟩⟩, ?_⟩
      rintro ⟨-, j, rfl, ⟨h, -⟩ | ⟨-, rfl⟩⟩
      · cases h
      · rfl
  | true =>
    cases form : e.metadata.toJson false with
    | error fault =>
      refine iff_of_false (by intro h; cases h) ?_
      rintro ⟨-, j, -, ⟨-, h⟩ | ⟨h, -⟩⟩ <;> cases h
    | ok j =>
      cases AuditFault.ofTexts e.texts with
      | error fault => exact iff_of_false (by intro h; cases h) (by rintro ⟨h, -⟩; cases h)
      | ok done =>
        refine ⟨fun h => ⟨rfl, j, (Except.ok.inj h).symm, Or.inl ⟨rfl, rfl⟩⟩, ?_⟩
        rintro ⟨-, k, rfl, ⟨-, h⟩ | ⟨h, -⟩⟩
        · cases h
          rfl
        · cases h

/-- An event can be recorded just if it is. -/
theorem recordable_iff : e.Recordable ↔ ∃ t', t.recordWith e = .ok t' := by
  constructor
  · rintro ⟨unicode, form⟩
    cases something : e.metadata.isTruthy with
    | false => exact ⟨_, recordWith_eq_ok.mpr ⟨unicode, .null, rfl, Or.inr ⟨something, rfl⟩⟩⟩
    | true =>
      obtain ⟨j, form⟩ := form something
      exact ⟨_, recordWith_eq_ok.mpr ⟨unicode, j, rfl, Or.inl ⟨something, form⟩⟩⟩
  · rintro ⟨t', recorded⟩
    obtain ⟨unicode, j, -, ⟨-, form⟩ | ⟨nothing, -⟩⟩ := recordWith_eq_ok.mp recorded
    · exact ⟨unicode, fun _ => ⟨j, form⟩⟩
    · exact ⟨unicode, fun something => by cases nothing.symm.trans something⟩

/-- Recording an event adds an entry with its values, under the next number. -/
theorem holds_of_recordWith (h : t.recordWith e = .ok t') :
    ∃ x, t'.entries = t.entries ++ [x] ∧ x.id = t.nextId ∧ x.Holds e := by
  obtain ⟨-, j, rfl, known⟩ := recordWith_eq_ok.mp h
  have told : ∀ ms, ms ≠ [] → e.metadata = .ofJson (.object ms) →
      kept j = (Json.object ms).readBack := by
    intro ms some given
    rcases known with ⟨-, form⟩ | ⟨nothing, -⟩
    · rw [given] at form
      obtain ⟨written, rfl⟩ := toJson_ofJson_eq_ok.mp form
      exact kept_eq written
    · rw [given, isTruthy_ofJson_object] at nothing
      exact absurd (by simpa using nothing) some
  refine ⟨_, rfl, rfl, rfl, rfl, rfl, rfl, fun nothing => ?_, told, fun ms some given plain => ?_⟩
  · rcases known with ⟨something, -⟩ | ⟨-, rfl⟩
    · cases nothing.symm.trans something
    · exact kept_eq (j := .null) rfl
  · exact (told ms some given).trans (Json.readBack_of_isReread plain)

/-- The sink that adds events to a trail records them, with a map of what else is known. -/
theorem deliver_sink {es : List (Value × Value)} (map : e.metadata = .dict es) :
    sink.deliver t e = (t.recordWith e).toOption := by
  obtain ⟨subject, action, resource, decision, metadata⟩ := e
  obtain rfl : metadata = .dict es := map
  rfl

/-! #### Runs -/

/-- One request more. -/
theorem serves_serve (t : AuditTrail) (r : TrailRequest) {history : List (TrailRequest × TrailAnswer)}
    {log : List AuditEntry} (further : Serves (t.serve r).2.entries history log) :
    Serves t.entries ((r, (t.serve r).1) :: history) log := by
  cases r with
  | record e =>
    rw [serve] at further ⊢
    cases recorded : t.recordWith e with
    | error fault =>
      rw [recorded] at further
      refine .notRecorded (fun recordable => ?_) further
      obtain ⟨t', recorded'⟩ := recordable_iff.mp recordable
      cases recorded.symm.trans recorded'
    | ok t' =>
      rw [recorded] at further
      obtain ⟨x, entries, number, holds⟩ := holds_of_recordWith recorded
      have new : ∀ y ∈ t.entries, y.id < x.id := fun y among => number ▸ lt_nextId among
      dsimp only at further ⊢
      rw [← number]
      exact .recorded (recordable_iff.mpr ⟨t', recorded⟩) holds new (entries ▸ further)
  | ask q =>
    rw [serve] at further ⊢
    by_cases askable : q.Askable
    · rw [ask_eq_ok askable] at further ⊢
      exact .found askable (recent_eq t q) further
    · obtain ⟨fault, failed⟩ := ask_eq_error (t := t) askable
      rw [failed] at further ⊢
      exact .notFound askable further

theorem serves_serveAll (t : AuditTrail) (requests : List TrailRequest) :
    Serves t.entries (t.serveAll requests).1 (t.serveAll requests).2.entries := by
  induction requests generalizing t with
  | nil => exact .nil _
  | cons r rs ih => exact serves_serve t r (ih _)

theorem map_serveAll (t : AuditTrail) (requests : List TrailRequest) :
    (t.serveAll requests).1.map (·.1) = requests := by
  induction requests generalizing t with
  | nil => rfl
  | cons r rs ih => exact congrArg (r :: ·) (ih _)

theorem serveAll_append (t : AuditTrail) (before after : List TrailRequest) :
    (t.serveAll (before ++ after)).2 = ((t.serveAll before).2.serveAll after).2 := by
  induction before generalizing t with
  | nil => rfl
  | cons r rs ih => exact ih _

/-- No request changes or removes an entry. -/
theorem Serves.isPrefix {log log' : List AuditEntry} {history : List (TrailRequest × TrailAnswer)}
    (h : Serves log history log') : log <+: log' := by
  induction h with
  | nil => exact List.prefix_rfl
  | recorded _ _ _ _ ih => exact (List.prefix_append _ _).trans ih
  | notRecorded _ _ ih => exact ih
  | found _ _ _ ih => exact ih
  | notFound _ _ ih => exact ih

/-- **What the trail keeps and tells**: of requests that come one after the other each is answered from the
entries that are there by then.  An event that can be recorded is added with its values, under a number
that is larger than all before; a query that can be asked is answered with the entries that it selects, the
newest first, as many as its limit says and at least one; anything else fails and leaves the entries as
they are.  The numbers increase, and what is kept at some moment is kept, as it is, ever after. -/
theorem serveAll_exact (t : AuditTrail) (before after : List TrailRequest) :
    let (history, t') := t.serveAll (before ++ after)
    history.map (·.1) = before ++ after ∧
    Serves t.entries history t'.entries ∧
    (t'.entries.map (·.id)).Pairwise (· < ·) ∧
    (t.serveAll before).2.entries <+: t'.entries := by
  refine ⟨map_serveAll t _, serves_serveAll t _, (t.serveAll _).2.ordered, ?_⟩
  rw [serveAll_append]
  exact (serves_serveAll _ after).isPrefix

/-- A limit of more than 64 bits cannot be asked for, nor a text that is not Unicode, whether or not there
are entries. -/
theorem serveAll_unaskable :
    let event : AuditEvent := { subject := "s", action := "a", resource := "r" }
    let wide : AuditQuery := { limit := 9223372036854775808 }
    let half : AuditQuery := { subject := some ⟨[.surrogate 0]⟩ }
    (empty.serveAll [.record event, .ask wide, .ask half]).1 = [
      (.record event, .recorded 1), (.ask wide, .failed .tooLarge),
      (.ask half, .failed (.notUnicode { position := 0, first := .surrogate 0, count := 1 }))] := by
  cbv

end AuditTrail

end GuardedTools
