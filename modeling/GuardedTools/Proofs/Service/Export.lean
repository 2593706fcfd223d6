import GuardedTools.Proofs.Service.Mediation
import GuardedTools.Proofs.Tool.Eligible
import GuardedTools.Proofs.Tool.Loading

/-!
# What is exported of a module

What a module binds declares a tool if it is marked itself, or is an unmarked wrapper that took over the mark
of what it wraps (`Candidate.Covers`).  The declaration is that of the candidate that was marked
(`Candidate.declared?_eq_some_iff`), and its function is what a service enters.  So what is bound is exported
just if it carries a mark of its own (`Service.exported`).  A wrapper that carries none is passed by: whatever
it runs, the declarations are the same (`Modules.load_rewrap`).
-/

namespace GuardedTools

namespace Candidate

/-- The mark that a candidate carries itself. -/
def mark? : Candidate → Option Mark
  | function _ _ mark => mark
  | staticMethod _ mark => mark
  | _ => none

/-- A candidate is another one, or an unmarked wrapper of what covers it. -/
inductive Covers (inner : Candidate) : Candidate → Prop where
  | itself : Covers inner inner
  | wrapper (f : Function) {c : Candidate} (covers : Covers inner c) : Covers inner (function f (some c) none)

variable {c inner : Candidate} {d : Declaration} {f : Function}

theorem declared?_of_mark? {m : Mark} (marked : c.mark? = some m) : c.declared? = some ⟨c, m.description, m.name⟩ := by
  cases c with
  | function f wrapped mark =>
    obtain rfl : mark = some m := marked
    rfl
  | staticMethod of mark =>
    obtain rfl : mark = some m := marked
    rfl
  | _ => cases marked

/-- What declares a tool covers the candidate that was marked as it. -/
theorem declared?_eq_some_iff : c.declared? = some d ↔
    Covers d.candidate c ∧ d.candidate.mark? = some ⟨d.description, d.name⟩ := by
  constructor
  · intro declares
    induction c using declared?.induct with
    | case1 f wrapped m =>
      cases declares
      exact ⟨.itself, rfl⟩
    | case2 f c ih =>
      obtain ⟨covers, marked⟩ := ih declares
      exact ⟨.wrapper f covers, marked⟩
    | case3 of m =>
      cases declares
      exact ⟨.itself, rfl⟩
    | case4 c notMarked notWrapper notStatic =>
      rw [declared?] at declares
      · cases declares
      · exact notMarked
      · exact notWrapper
      · exact notStatic
  · rintro ⟨covers, marked⟩
    induction covers with
    | itself => exact declared?_of_mark? marked
    | wrapper f _ ih => exact ih

/-- What covers a candidate is the candidate just if it is marked, where that is. -/
theorem Covers.eq_iff (covers : Covers inner c) (marked : inner.mark?.isSome = true) :
    inner = c ↔ c.mark?.isSome = true := by
  refine ⟨fun same => same ▸ marked, fun outer => ?_⟩
  cases covers with
  | itself => rfl
  | wrapper f _ => cases outer

/-- What is accepted offers the function that it is accepted with. -/
theorem offers_of_eligible (accepted : c.eligible = .ok f) : ∃ isStatic, c.Offers f isStatic := by
  obtain ⟨wrapped, mark, unwrapped⟩ := unwrapStatic_of_eligible accepted
  cases c with
  | function g wrapped' mark' =>
    cases unwrapped
    exact ⟨false, .plain wrapped mark⟩
  | staticMethod inner outer =>
    obtain rfl : inner = function f wrapped mark := unwrapped
    exact ⟨true, .static wrapped mark outer⟩
  | _ => cases unwrapped

/-- A candidate whose unmarked wrappers run something else. -/
def rewrap (r : Function → Function) : Candidate → Candidate
  | function f (some c) none => function (r f) (some (rewrap r c)) none
  | c => c

theorem declared?_rewrap (r : Function → Function) (c : Candidate) : (rewrap r c).declared? = c.declared? := by
  induction c using rewrap.induct with
  | case1 f c ih => exact ih
  | case2 c notWrapper =>
    rw [rewrap]
    exact notWrapper

theorem module?_rewrap {r : Function → Function} (keeps : ∀ f, (r f).module = f.module) (c : Candidate) :
    (rewrap r c).module? = c.module? := by
  cases c using rewrap.induct with
  | case1 f c => exact keeps f
  | case2 c notWrapper =>
    rw [rewrap]
    exact notWrapper

end Candidate

open Candidate

/-- **Unmarked wrappers are passed by**: whatever they run, the same declarations are loaded. -/
theorem Modules.load_rewrap {r : Function → Function} (keeps : ∀ f, (r f).module = f.module) (ms : Modules)
    (names : List Text) : ((ms.map (rewrap r)).load names).2 = (ms.load names).2 :=
  load_map_declarations (module?_rewrap keeps) (declared?_rewrap r) ms names

namespace Service

variable {κ σ τ : Type} {table : ExtensionTable κ τ} {declarations : List Declaration}
  {configs : List (ExtensionConfig κ)} {policy : Policy} {serviceId : Text} {isTracing : Bool}
  {sink : Option (AuditSink σ)} {s : Service σ τ}

/-- A service that starts has a tool made of each of its declarations, under the name of the tool. -/
theorem exists_tool_of_start
    (started : (start table declarations configs policy serviceId isTracing sink).result = .ok s)
    {d : Declaration} (member : d ∈ declarations) :
    ∃ t, d.Makes t ∧ s.dispatcher.registry.find? t.name = some t := by
  obtain ⟨r, built, rfl⟩ := start_eq_assemble started
  obtain ⟨ts, made, -, rfl⟩ := Registry.build_eq_ok.mp built
  obtain ⟨t, registered, makes⟩ := exists_right_of_mem made member
  have found := Registry.find?_of_mem built registered
  exact ⟨t, makes, found⟩

/-- **What a service exports of a module**: where a service starts from what modules declare, it has a tool for
each candidate of such a module that declares one and says that it belongs to the module.  A call of the tool
enters it just if it is allowed and the tool accepts its arguments, and what runs then is the function of the
candidate that was marked, as it is or taken out of one static member.  That is what is bound just if what is
bound is marked itself; else it is covered by it, and the unmarked wrappers over it might run anything else
and the same would be exported. -/
theorem exported {ms : Modules} {names : List Text} (loads : (ms.load names).2 = .ok declarations)
    (started : (start table declarations configs policy serviceId isTracing sink).result = .ok s) :
    (∀ name ∈ names, ∀ bindings, Modules.lookup? name (ms.load names).1.loaded = some bindings →
      ∀ b ∈ bindings, ∀ d, b.2.module? = some name → b.2.declared? = some d →
      ∃ t isStatic, d.Makes t ∧ d.candidate.Offers t.entry isStatic ∧
        Covers d.candidate b.2 ∧ d.candidate.mark? = some ⟨d.description, d.name⟩ ∧
        (d.candidate = b.2 ↔ b.2.mark?.isSome = true) ∧
        ∀ (ω : Type) (enter : Entry ω) j world (call : Call) c, call.tool = t.name →
          ((s.dispatcher.answer enter j world call).done.entered = some c ↔
            policy.decide call.caller call.tool (some s.registry.names) = .allow ∧ c.tool = t ∧
              ∃ v, decodeArguments call.given = .ok v ∧ t.accept v = .ok c.arguments) ∧
          ((s.dispatcher.answer enter j world call).done.entered = some c →
            c.invoke = t.entry.call c.arguments)) ∧
    ∀ r : Function → Function, (∀ f, (r f).module = f.module) →
      ((ms.map (rewrap r)).load names).2 = .ok declarations := by
  refine ⟨fun name imported bindings loaded b bound d own declares => ?_, fun r keeps => ?_⟩
  · obtain ⟨-, gathered⟩ := Modules.load_eq_ok loads
    -- what is declared by a module that was asked for is among the declarations of the service
    have member : d ∈ declarations := by
      rw [gathered]
      refine List.mem_flatMap.mpr ⟨name, imported, List.mem_filterMap.mpr ⟨b, ?_, ?_⟩⟩
      · rw [loaded]
        exact bound
      · show (if b.2.module? = some name then b.2.declared? else none) = some d
        rw [if_pos own, declares]
    obtain ⟨t, makes, found⟩ := exists_tool_of_start started member
    obtain ⟨isStatic, offers⟩ := offers_of_eligible makes.entryPoint
    obtain ⟨covers, marked⟩ := declared?_eq_some_iff.mp declares
    refine ⟨t, isStatic, makes, offers, covers, marked, covers.eq_iff (by rw [marked]; rfl),
      fun ω enter j world call c called => ?_⟩
    -- a body is entered as complete mediation has it, and under the name of the tool it is its own
    have entered : (s.dispatcher.answer enter j world call).done.entered = some c ↔
        policy.decide call.caller call.tool (some s.registry.names) = .allow ∧ s.dispatcher.Accepts call c :=
      (Dispatcher.mediated_of_answers (decide_of_start started call.caller call.tool)
        (Dispatcher.answers_dispatchIn s enter j world call)).entered_iff c
    have accepts : s.dispatcher.Accepts call c ↔ c.tool = t ∧
        ∃ v, decodeArguments call.given = .ok v ∧ t.accept v = .ok c.arguments := by
      rw [Dispatcher.Accepts, called, found, Option.some.injEq, eq_comm]
      exact and_congr_right fun same => by rw [same]
    refine ⟨entered.trans (and_congr_right fun _ => accepts), fun enters => ?_⟩
    rw [ResolvedCall.invoke, (accepts.mp (entered.mp enters).2).1]
  · rw [Modules.load_rewrap keeps]
    exact loads

/-- A marked sum. -/
def markedSum : Candidate := Sample.marked Sample.add "Adds two integers" none

/-- A marked echo. -/
def markedEcho : Candidate := Sample.marked Sample.echo "Echoes input" none

/-- A wrapper of the echo that refuses whatever it is given. -/
def refusing : Function := { Sample.echo with body := fun _ => .raised (.toolError "refused") }

/-- A module that binds a marked sum, and a refusal over a marked echo. -/
def guarded : Modules where
  sources := [(Sample.moduleName,
    [.define (some "add") (.ok markedSum), .define (some "echo") (.ok (.function refusing (some markedEcho) none))])]
  loaded := []

/-- The declarations of the module. -/
def guardedDeclarations : List Declaration :=
  [⟨markedSum, .text "Adds two integers", none⟩, ⟨markedEcho, .text "Echoes input", none⟩]

/-- The start of the service of the module. -/
def guardedStart : Start (Service Unit Shim) :=
  start standardExtensions guardedDeclarations [] echoPolicy standardId false none

/-- The sum is exported as it is bound; the echo is, whatever stands over it. -/
theorem exported_guarded :
    ∃ s, guardedStart.result = .ok s ∧ (guarded.load [Sample.moduleName]).2 = .ok guardedDeclarations ∧
      (∃ t isStatic, Declaration.Makes ⟨markedSum, .text "Adds two integers", none⟩ t ∧
        markedSum.Offers t.entry isStatic) ∧
      ((guarded.map (rewrap fun f => { f with body := fun _ => .returned .null })).load [Sample.moduleName]).2
        = .ok guardedDeclarations := by
  obtain ⟨s, started, -⟩ := exists_of_any (fun _ => true)
    (by decide +kernel : guardedStart.result.toOption.any _ = true)
  have loads : (guarded.load [Sample.moduleName]).2 = .ok guardedDeclarations := rfl
  obtain ⟨each, any⟩ := exported loads started
  obtain ⟨t, isStatic, makes, offers, -⟩ := each Sample.moduleName List.mem_cons_self _ rfl ("add", markedSum)
    List.mem_cons_self ⟨markedSum, .text "Adds two integers", none⟩ rfl rfl
  exact ⟨s, started, loads, ⟨t, isStatic, makes, offers⟩, any _ fun _ => rfl⟩

/-- The text that a body returns. -/
def returnedText? : Outcome → Option Text
  | .returned (.text t) => some t
  | _ => none

/-- What is bound refuses the text, and the service that was started from what it declares echoes it. -/
theorem exported_bypassed :
    (∃ bindings c f, Modules.lookup? Sample.moduleName (guarded.load [Sample.moduleName]).1.loaded = some bindings ∧
      Modules.lookup? "echo" bindings = some c ∧ c.function? = some f ∧
      f.call [("msg", .text "x")] = .raised (.toolError "refused")) ∧
    (guarded.load [Sample.moduleName]).2 = .ok guardedDeclarations ∧
    ∃ s, guardedStart.result = .ok s ∧
      ∃ c, (s.dispatcher.dispatch { kept := () } none "echo" (.dict [(.text "msg", .text "x")])).entered = some c ∧
        returnedText? c.invoke = some (Text.ofString "x") := by
  refine ⟨⟨_, _, _, rfl, rfl, rfl, rfl⟩, rfl, ?_⟩
  obtain ⟨s, started, seen⟩ := exists_of_any
    (fun s => (s.dispatcher.dispatch { kept := () } none "echo" (.dict [(.text "msg", .text "x")])).entered.any
      fun c => returnedText? c.invoke == some (Text.ofString "x"))
    (by decide +kernel : guardedStart.result.toOption.any _ = true)
  obtain ⟨c, entered, returned⟩ := (Option.any_eq_true _ _).mp seen
  exact ⟨s, started, c, entered, eq_of_beq returned⟩

end Service

end GuardedTools
