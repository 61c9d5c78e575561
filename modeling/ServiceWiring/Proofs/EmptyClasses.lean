import ServiceWiring.Proofs.ClassNames
import ServiceWiring.Proofs.LookupCommand
import ServiceWiring.Proofs.Setups

/-!
Services whose class is given as the empty text. The class names of a dump, the subscribers of its
locators and the commands take such a service for one without a class. The engine does not: it makes
the empty class known and lets calls return it, exactly for the calls whose service has its class
from a definition of this kind.
-/

namespace ServiceWiring

namespace Dump

/-- The class of a service that is looked up is that of the definition at the end of its aliases;
the way there starts at the service itself, or at what the locator of the asking class has in its
place. -/
theorem exists_find?_className_iff {dump : Dump} {id className : String}
    {context : Option String} :
    (∃ service, dump.find? id context = some service ∧ service.className = some className) ↔
      ∃ hops ≤ 32, ∃ own, dump.LeadsTo ((dump.located? context id).getD id) hops own ∧
        own.className = some className := by
  rw [← classOf?_eq_some_iff]
  unfold find?
  cases hlocated : dump.located? context id with
  | some target => simp
  | none =>
    simp only [Option.getD_none, Option.map_eq_some_iff]
    constructor
    · rintro ⟨_, ⟨definition, -, rfl⟩, hclass⟩
      exact hclass
    · intro hclass
      obtain ⟨hops, -, own, hend, -⟩ := classOf?_eq_some_iff.1 hclass
      obtain ⟨definition, hdefined⟩ := hend.exists_definition (Trail.keyAt?_zero id)
      exact ⟨_, ⟨definition, hdefined, rfl⟩, hclass⟩

/-- The call fetches a service whose aliases, followed from the service or from what the locator of
the asking class has in its place, end at a definition with this class. -/
def Supplies (dump : Dump) (codebase : Codebase) (site : CallSite) (className : String) : Prop :=
  site.Fetches .service ∧ ∃ argument id, site.Passes argument ∧
    Identifier.Denotes codebase site.enclosing argument id ∧
    ∃ hops ≤ 32, ∃ own, dump.LeadsTo ((dump.located? site.selfClass id).getD id) hops own ∧
      own.className = some className

theorem foundClass?_eq_some_iff {dump : Dump} {codebase : Codebase} {site : CallSite}
    {className : String} :
    (Engine.ofRegistry dump.registry).foundClass? codebase site = some className ↔
      dump.Supplies codebase site className := by
  by_cases hfetch : site.Fetches .service
  · rw [Engine.foundClass?_eq_some_iff hfetch, Engine.FindsClass, Supplies]
    simp only [← exists_find?_className_iff, hfetch, true_and]
    constructor
    · rintro ⟨registry, argument, id, service, hregistry, hpasses, hdenotes, hfound, hclass⟩
      cases hregistry
      exact ⟨argument, id, hpasses, hdenotes, service, hfound, hclass⟩
    · rintro ⟨argument, id, hpasses, hdenotes, service, hfound, hclass⟩
      exact ⟨dump.registry, argument, id, service, rfl, hpasses, hdenotes, hfound, hclass⟩
  · have hother : Accessor.service.isAt site.methodId = false := by
      rw [Bool.eq_false_iff]
      exact fun hservice => hfetch (CallSite.isAt_methodId_iff.1 hservice)
    have hnone : (Engine.ofRegistry dump.registry).foundClass? codebase site = none := by
      simp [Engine.foundClass?, Engine.foundService?, hother]
    rw [hnone]
    exact iff_of_false nofun fun hsupplies => hfetch hsupplies.1

/-- A dump supplies the empty class only if one of its definitions that is no alias has it. -/
theorem exists_own_of_supplies {dump : Dump} {codebase : Codebase} {site : CallSite}
    {className : String} (hsupplies : dump.Supplies codebase site className) :
    ∃ id own, dump.definitions.get? id = some own ∧ own.aliasOf = none ∧
      own.className = some className := by
  obtain ⟨-, _, _, -, -, _, -, own, ⟨target, -, hdefined, halias⟩, hclass⟩ := hsupplies
  exact ⟨target, own, hdefined, halias, hclass⟩

end Dump

namespace Session

variable {session : Session} {dump : Dump}

/-- What a call finds out if the engine of a dump is the only one. -/
theorem jointFindings_of_dump {handlers : List Handler}
    (honly : enginesOf handlers = [.ofRegistry dump.registry]) (codebase : Codebase)
    (site : CallSite) (candidate : Option String) :
    let found := (Engine.ofRegistry dump.registry).foundClass? codebase site
    (jointFindings codebase handlers site candidate).candidate = found.or candidate ∧
      (jointFindings codebase handlers site candidate).classes = found.toList := by
  have hguess : (Engine.ofRegistry dump.registry).guessedClass? site = none := by
    simp [Engine.guessedClass?, Engine.isDegraded, Engine.ofRegistry]
  simp only [jointFindings, honly]
  cases hfound : (Engine.ofRegistry dump.registry).foundClass? codebase site <;>
    simp [hfound, hguess]

/-- The answer to a call tells of the empty class if and only if the dump supplies it, or it was the
type of the call before and the dump supplies no class. -/
inductive TellsEmptyClass (dump : Dump) (codebase : Codebase) (site : CallSite)
    (candidate : Option String) : Except Refusal Answer → Prop
  | analyzed {verdict : Verdict} {findings : Findings} :
      ("" ∈ findings.classes ↔ dump.Supplies codebase site "") →
      (findings.candidate = some "" ↔ dump.Supplies codebase site "" ∨
        candidate = some "" ∧ ∀ className, ¬ dump.Supplies codebase site className) →
      TellsEmptyClass dump codebase site candidate (.ok (.analyzed verdict findings))

/-- One call of a session with the engine of a dump. -/
theorem step_call_of_dump (honly : enginesOf session.handlers = [.ofRegistry dump.registry])
    (site : CallSite) (candidate : Option String) :
    let after := session.step (.call site candidate)
    TellsEmptyClass dump session.codebase site candidate after.1 ∧
      ("" ∈ after.2.host.knownClasses ↔
        "" ∈ session.host.knownClasses ∨ dump.Supplies session.codebase site "") := by
  obtain ⟨hcandidate, hclasses⟩ :=
    jointFindings_of_dump honly session.codebase site candidate
  rw [step_call]
  have hinjected : "" ∈ (jointFindings session.codebase session.handlers site candidate).classes ↔
      dump.Supplies session.codebase site "" := by
    rw [hclasses, Option.mem_toList, Dump.foundClass?_eq_some_iff]
  refine ⟨.analyzed hinjected ?_, ?_⟩
  · simp only [hcandidate, Option.or_eq_some_iff, Option.eq_none_iff_forall_ne_some, ne_eq,
      Dump.foundClass?_eq_some_iff]
    tauto
  · simp [extended, Host.know, hinjected]

theorem run_calls_of_dump (honly : enginesOf session.handlers = [.ofRegistry dump.registry])
    (calls : List (CallSite × Option String)) :
    let after := session.run (calls.map fun call => .call call.1 call.2)
    List.Forall₂ (fun call => TellsEmptyClass dump session.codebase call.1 call.2) calls after.1 ∧
      ("" ∈ after.2.host.knownClasses ↔ "" ∈ session.host.knownClasses ∨
        ∃ call ∈ calls, dump.Supplies session.codebase call.1 "") := by
  induction calls generalizing session with
  | nil => simp [run]
  | cons call rest ih =>
    obtain ⟨hanswer, hknown⟩ := step_call_of_dump honly call.1 call.2
    have hcodebase := codebase_step session (.call call.1 call.2)
    have hnext : enginesOf (session.step (.call call.1 call.2)).2.handlers =
        [.ofRegistry dump.registry] := by
      rw [handlers_step, handler?_of_raises .call, Option.toList_none, List.append_nil, honly]
    obtain ⟨hanswers, hlater⟩ := ih hnext
    rw [hcodebase] at hanswers hlater
    rw [List.map_cons, run_cons]
    refine ⟨.cons hanswer hanswers, ?_⟩
    rw [hlater, hknown, or_assoc, List.exists_mem_cons_iff]

/-- In a session whose only engine is that of a dump, the empty class becomes known, and calls come
to return it, exactly where a call fetches a service that has its class from a definition with an
empty one; so it is never injected if the dump has no such definition. For everybody else an empty
class is none: it is no class name of the dump, does not make a subscriber, and is not shown by
commands. -/
theorem empty_class_injected_where_defined (session : Session) (dump : Dump)
    (honly : enginesOf session.handlers = [.ofRegistry dump.registry])
    (calls : List (CallSite × Option String)) :
    let after := session.run (calls.map fun call => .call call.1 call.2)
    ("" ∈ after.2.host.knownClasses ↔ "" ∈ session.host.knownClasses ∨
      ∃ call ∈ calls, dump.Supplies session.codebase call.1 "") ∧
    List.Forall₂ (fun call => TellsEmptyClass dump session.codebase call.1 call.2) calls after.1 ∧
    ((∀ id own, dump.definitions.get? id = some own → own.aliasOf = none →
        own.className ≠ some "") →
      ∀ site, ¬ dump.Supplies session.codebase site "") ∧
    "" ∉ dump.classNames ∧
    (∀ entry : Dump.Entry, entry.definition.className = some "" → entry.subscriber = entry.id) ∧
    ∀ service : Service, service.className = some "" →
      CommandLine.describe service = CommandLine.describe { service with className := none } ∧
      CommandLine.servicesGrid [service] =
        CommandLine.servicesGrid [{ service with className := none }] := by
  obtain ⟨hanswers, hknown⟩ := run_calls_of_dump honly calls
  refine ⟨hknown, hanswers, ?_, ?_, ?_, ?_⟩
  · intro hfilled site hsupplies
    obtain ⟨id, own, hdefined, halias, hclass⟩ := Dump.exists_own_of_supplies hsupplies
    exact hfilled id own hdefined halias hclass
  · intro hmem
    obtain ⟨id, own, -, -, -, hfilled⟩ := Dump.mem_classNames_iff.1 hmem
    exact hfilled rfl
  · intro entry hempty
    rw [Dump.Entry.subscriber, hempty]
    rfl
  · intro service hempty
    have hunnamed : service.namedClass? = none := by
      rw [Service.namedClass?, hempty]
      rfl
    constructor
    · rw [CommandLine.describe, hunnamed]
      rfl
    · simp only [CommandLine.servicesGrid, List.map_cons, hunnamed]
      rfl

/-- An alias of a service with an empty class, found in a locator and under its own identifier. -/
theorem empty_class_behind_alias :
    let dump := Dump.ofDocument (Dump.documentOf
      [Dump.plainElement "service" [("id", "home"), ("class", "Home")]
        [Dump.plainElement "call" [("method", "setContainer")]
          [Dump.plainElement "argument" [("type", "service"), ("id", "locator")] []]],
       Dump.plainElement "service" [("id", "locator")]
        [Dump.plainElement "argument" []
          [Dump.plainElement "argument" [("key", "mail"), ("id", "mailer")] []]],
       Dump.plainElement "service" [("id", "mailer"), ("alias", "smtp")] [],
       Dump.plainElement "service" [("id", "smtp"), ("class", "")] []])
    let session := ({} : Session).register (.engine (.ofRegistry dump.registry))
    let call (id : String) (selfClass : Option String) : CallSite × Option String :=
      ({ methodId := "Psr\\Container\\ContainerInterface::get"
         arguments := [.given (.literal none id) false none]
         selfClass := selfClass
         file := "a.php" }, none)
    let after := session.run ([call "home" none, call "mail" (some "Home")].map fun call =>
      .call call.1 call.2)
    "" ∈ after.2.host.knownClasses ∧
      ∃ first verdict findings, after.1 = [first, .ok (.analyzed verdict findings)] ∧
        findings.candidate = some "" := by
  intro dump session call after
  obtain ⟨hknown, hanswers, -⟩ := empty_class_injected_where_defined session dump rfl
    [call "home" none, call "mail" (some "Home")]
  have hsupplies : dump.Supplies session.codebase (call "mail" (some "Home")).1 "" :=
    ⟨⟨"Psr\\Container\\ContainerInterface", by decide, by decide +kernel⟩, .literal none "mail",
      "mail", ⟨none, [], rfl⟩, .literal, 1, by decide, ⟨some "", .internal, none⟩,
      ⟨"smtp", by decide +kernel, by decide +kernel, rfl⟩, rfl⟩
  refine ⟨hknown.2 (.inr ⟨_, by simp, hsupplies⟩), ?_⟩
  obtain ⟨first, _, -, hrest, hsplit⟩ := List.forall₂_cons_left_iff.1 hanswers
  obtain ⟨second, _, hsecond, hend, rfl⟩ := List.forall₂_cons_left_iff.1 hrest
  cases List.forall₂_nil_left_iff.1 hend
  cases hsecond with
  | analyzed _ hcandidate => exact ⟨first, _, _, hsplit, hcandidate.2 (.inl hsupplies)⟩

/-- With a container of one service whose class is empty, a call that fetches it returns the empty
class, which becomes known. -/
theorem empty_class_of_mailer :
    let session := (({} : Session).step (.setUp (.document
      "<container><services><service id=\"mailer\" class=\"\"/></services></container>"))).2
    let site : CallSite :=
      { methodId := "Psr\\Container\\ContainerInterface::get"
        arguments := [.given (.literal none "mailer") false none]
        file := "a.php" }
    ∃ verdict findings next,
      session.step (.call site none) = (.ok (.analyzed verdict findings), next) ∧
        findings.candidate = some "" ∧ findings.classes = [""] ∧
        next.host.knownClasses = [""] := by
  intro session site
  exact ⟨_, _, _, step_call session site none, by decide +kernel⟩

end Session

end ServiceWiring
