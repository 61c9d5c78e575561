import ServiceWiring.Proofs.Sessions

/-!
Sessions in which several engines have been set up. Each engine looks a fetched service up for
itself; the class that the last of them finds stands, and an engine without a registry only fills a
place that is empty. What is made known and what is recorded adds up in the order of the setups.
-/

namespace ServiceWiring

namespace Engine

/-- The engine has a registry that knows the service that the call fetches, and its class. -/
def FindsClass (engine : Engine) (codebase : Codebase) (site : CallSite) (className : String) :
    Prop :=
  ∃ registry argument id service, engine.registry = some registry ∧ site.Passes argument ∧
    Identifier.Denotes codebase site.enclosing argument id ∧
    registry.find? id site.selfClass = some service ∧ service.className = some className

theorem foundClass?_eq_some_iff {engine : Engine} {codebase : Codebase} {site : CallSite}
    (hfetch : site.Fetches .service) {className : String} :
    engine.foundClass? codebase site = some className ↔
      engine.FindsClass codebase site className := by
  have hservice : Accessor.service.isAt site.methodId = true :=
    CallSite.isAt_methodId_iff.2 hfetch
  unfold foundClass? foundService? FindsClass
  constructor
  · intro hfound
    simp only [hservice, if_true, Option.bind_eq_bind, Option.bind_eq_some_iff] at hfound
    obtain ⟨service, ⟨registry, hregistry, argument, hargument, identifier, hread, hfind⟩,
      hclass⟩ := hfound
    exact ⟨registry, argument, identifier.value, service, hregistry,
      CallSite.argument?_eq_some_iff.1 hargument,
      Identifier.exists_ofExpression?_iff.1 ⟨identifier, hread, rfl⟩, hfind, hclass⟩
  · rintro ⟨registry, argument, id, service, hregistry, hpasses, hdenotes, hfind, hclass⟩
    have hargument : site.argument? = some argument := CallSite.argument?_eq_some_iff.2 hpasses
    obtain ⟨identifier, hread, rfl⟩ := Identifier.exists_ofExpression?_iff.2 hdenotes
    simp [hregistry, hargument, hread, hservice, hfind, hclass]

theorem foundClass?_eq_none_iff {engine : Engine} {codebase : Codebase} {site : CallSite}
    (hfetch : site.Fetches .service) :
    engine.foundClass? codebase site = none ↔
      ∀ className, ¬ engine.FindsClass codebase site className := by
  rw [Option.eq_none_iff_forall_ne_some]
  simp only [ne_eq, foundClass?_eq_some_iff hfetch]

theorem guessedClass?_eq_some_iff {engine : Engine} {site : CallSite}
    (hfetch : site.Fetches .service) {className : String} :
    engine.guessedClass? site = some className ↔
      engine.isDegraded = true ∧
        ∃ argument, site.Passes argument ∧ argument.NamesClass className := by
  have hservice : Accessor.service.isAt site.methodId = true :=
    CallSite.isAt_methodId_iff.2 hfetch
  simp only [guessedClass?, hservice, Bool.and_true, Option.ite_none_right_eq_some,
    Option.bind_eq_some_iff, CallSite.argument?_eq_some_iff, Expression.namedClass?_eq_some_iff]

/-- All engines without a registry guess alike. -/
theorem guessedClass?_unique {first second : Engine} {site : CallSite} {className other : String}
    (hfirst : first.guessedClass? site = some className)
    (hsecond : second.guessedClass? site = some other) : className = other := by
  unfold guessedClass? at hfirst hsecond
  rw [Option.ite_none_right_eq_some] at hfirst hsecond
  exact Option.some.inj (hfirst.2.symm.trans hsecond.2)

/-- The engines without a registry agree on the class that they suppose. -/
theorem head?_guesses_eq_some_iff {engines : List Engine} {site : CallSite}
    (hfetch : site.Fetches .service) {className : String} :
    (engines.filterMap (·.guessedClass? site)).head? = some className ↔
      (∃ engine ∈ engines, engine.isDegraded = true) ∧
        ∃ argument, site.Passes argument ∧ argument.NamesClass className := by
  constructor
  · intro hhead
    obtain ⟨engine, hmem, hguess⟩ := List.mem_filterMap.1 (List.mem_of_mem_head? hhead)
    obtain ⟨hdegraded, hnamed⟩ := (guessedClass?_eq_some_iff hfetch).1 hguess
    exact ⟨⟨engine, hmem, hdegraded⟩, hnamed⟩
  · rintro ⟨⟨engine, hmem, hdegraded⟩, hnamed⟩
    have hguess : engine.guessedClass? site = some className :=
      (guessedClass?_eq_some_iff hfetch).2 ⟨hdegraded, hnamed⟩
    cases hhead : (engines.filterMap (·.guessedClass? site)).head? with
    | none =>
      rw [List.head?_eq_none_iff, List.filterMap_eq_nil_iff] at hhead
      rw [hhead engine hmem] at hguess
      cases hguess
    | some other =>
      obtain ⟨first, -, hfirst⟩ := List.mem_filterMap.1 (List.mem_of_mem_head? hhead)
      rw [guessedClass?_unique hfirst hguess]

end Engine

/-- The last value that a list yields comes from an element after which no element yields any. -/
theorem getLast?_filterMap_eq_some_iff {α β : Type} {f : α → Option β} {items : List α}
    {value : β} :
    (items.filterMap f).getLast? = some value ↔
      ∃ before item after, items = before ++ item :: after ∧ f item = some value ∧
        ∀ later ∈ after, f later = none := by
  rw [List.getLast?_filterMap, List.findSome?_eq_some_iff]
  constructor
  · rintro ⟨after, item, before, hsplit, hvalue, hnone⟩
    refine ⟨before.reverse, item, after.reverse, ?_, hvalue, ?_⟩
    · simpa using congrArg List.reverse hsplit
    · intro later hmem
      exact hnone later (List.mem_reverse.1 hmem)
  · rintro ⟨before, item, after, rfl, hvalue, hnone⟩
    refine ⟨after.reverse, item, before.reverse, by simp, hvalue, ?_⟩
    intro later hmem
    exact hnone later (List.mem_reverse.1 hmem)

namespace Session

/-- A call that fetches a service, after any steps, on behalf of all engines that have been set up
by then. The class in the end is that of the last engine that finds one; without any it is the one
known before, or else, if some engine has no registry, the class that the argument names. The
classes that are made known are those found, and the issues those that each engine records alone, in
the order of the setups. -/
theorem call_after_setups (session : Session) (steps : List Step) (site : CallSite)
    (candidate : Option String) (hfetch : site.Fetches .service) :
    let last := (session.run steps).2
    let engines := enginesOf session.handlers ++ steps.filterMap Step.engine?
    ∃ verdict findings,
      last.step (.call site candidate) =
        (.ok (.analyzed verdict findings), last.extended findings.classes findings.issues) ∧
      (∀ className, findings.candidate = some className ↔
        (∃ before engine after, engines = before ++ engine :: after ∧
          engine.FindsClass session.codebase site className ∧
          ∀ later ∈ after, ∀ other, ¬ later.FindsClass session.codebase site other) ∨
        (∀ engine ∈ engines, ∀ other, ¬ engine.FindsClass session.codebase site other) ∧
          (candidate = some className ∨
            candidate = none ∧ (∃ engine ∈ engines, engine.isDegraded = true) ∧
              ∃ argument, site.Passes argument ∧ argument.NamesClass className)) ∧
      (∃ found : Engine → Option String,
        (∀ engine className,
          found engine = some className ↔ engine.FindsClass session.codebase site className) ∧
        findings.classes = engines.filterMap found) ∧
      ∃ recorded : Engine → List Issue,
        (∀ engine scene,
          (dispatch session.codebase [.engine engine] (.callAnalyzed site) scene).2.log.issues =
            scene.log.issues ++ recorded engine) ∧
        findings.issues = engines.flatMap recorded := by
  intro last engines
  have hcodebase : last.codebase = session.codebase := codebase_run session steps
  have hengines : enginesOf last.handlers = engines := enginesOf_run session steps
  refine ⟨_, _, step_call last site candidate, ?_, ?_, ?_⟩
  · intro className
    rw [hcodebase]
    simp only [jointFindings, hengines, Option.or_eq_some_iff, getLast?_filterMap_eq_some_iff,
      List.getLast?_eq_none_iff, List.filterMap_eq_nil_iff, Engine.foundClass?_eq_some_iff hfetch,
      Engine.foundClass?_eq_none_iff hfetch, Engine.head?_guesses_eq_some_iff hfetch]
  · refine ⟨(·.foundClass? session.codebase site), ?_, ?_⟩
    · intro engine className
      exact Engine.foundClass?_eq_some_iff hfetch
    · rw [hcodebase]
      simp only [jointFindings, hengines]
  · refine ⟨(·.recorded session.codebase site), ?_, ?_⟩
    · intro engine scene
      rw [log_dispatch_alone]
    · rw [hcodebase]
      simp only [jointFindings, hengines]

/-- Two engines without a registry stand around two with one, of which the second knows a class. -/
theorem call_after_four_setups :
    let steps : List Step :=
      [.setUp .absent, .setUp (.listing [⟨"App\\Mailer", none, none⟩] none),
        .subscribe "method-call-analyzed" (some "suppressed"),
        .setUp (.listing [⟨"App\\Mailer", some "Smtp", some "public"⟩] none), .setUp .absent]
    let site : CallSite :=
      { methodId := "Psr\\Container\\ContainerInterface::get"
        arguments := [.given (.member none (.name none "Mailer" (some "App\\Mailer"))
          (.word none "class")) false none]
        file := "a.php" }
    ∃ verdict findings next, (({} : Session).run steps).2.step (.call site none) =
      (.ok (.analyzed verdict findings), next) ∧ findings.candidate = some "Smtp" := by
  intro steps site
  have hfetch : site.Fetches .service :=
    ⟨"Psr\\Container\\ContainerInterface", by decide, by decide +kernel⟩
  obtain ⟨verdict, findings, hstep, hcandidate, -⟩ := call_after_setups {} steps site none hfetch
  refine ⟨verdict, findings, _, hstep, (hcandidate "Smtp").2 (.inl ?_)⟩
  let silent : Engine :=
    .ofRegistry (Listing.ofServices [⟨"App\\Mailer", none, .internal⟩] none).registry
  let knowing : Registry :=
    (Listing.ofServices [⟨"App\\Mailer", some "Smtp", .exposed⟩] none).registry
  refine ⟨[.degraded, silent], .ofRegistry knowing, [.degraded], rfl, ?_, ?_⟩
  · exact ⟨knowing, _, "App\\Mailer", ⟨"App\\Mailer", some "Smtp", .exposed⟩, rfl, ⟨none, [], rfl⟩,
      .classReference, by decide +kernel, rfl⟩
  · intro later hmem other hfinds
    obtain rfl := List.mem_singleton.1 hmem
    obtain ⟨registry, _, _, _, hregistry, -⟩ := hfinds
    cases hregistry

end Session

end ServiceWiring
