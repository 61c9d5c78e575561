import Mathlib.Data.List.Forall2
import ServiceWiring.Proofs.EventOrder
import ServiceWiring.Proofs.Setups

/-!
Sessions in which no engine knows a container. Such engines veto nothing, exempt nothing and refer
no file to anything. Of a call they suppose the class that its argument names, and they report no
more than parameters that are misspelt.
-/

namespace ServiceWiring

def AllDegraded (handlers : List Handler) : Prop :=
  ∀ handler ∈ handlers, handler = .engine .degraded

/-- The issue is about the spelling of a parameter that the call fetches by a literal name. -/
def CallSite.Misspells (site : CallSite) (issue : Issue) : Prop :=
  site.Fetches .parameter ∧ ∃ place name, site.Passes (.literal place name) ∧
    Naming.Misspelt name ∧ ¬ "env(".toList <+: name.toList ∧
    issue = .namingConvention (site.locationOf (.literal place name))

def CallSite.NamesService (site : CallSite) (className : String) : Prop :=
  site.Fetches .service ∧ ∃ argument, site.Passes argument ∧ argument.NamesClass className

namespace Engine

variable {codebase : Codebase} {site : CallSite}

theorem isServiceClass_degraded (className : String) :
    degraded.isServiceClass className = false := rfl

/-- An engine without a registry vetoes nothing. -/
theorem opinion_degraded (event : Event) : degraded.opinion event ≠ some .suppressed := by
  cases event with
  | issueReported report => simp [opinion, vetoes, isServiceClass_degraded]
  | _ => simp [opinion]

theorem foundClass?_degraded : degraded.foundClass? codebase site = none := rfl

theorem namesService_of_guessedClass? {engine : Engine} {className : String}
    (hguess : engine.guessedClass? site = some className) : site.NamesService className := by
  have hfetch : site.Fetches .service := by
    rw [guessedClass?, Option.ite_none_right_eq_some, Bool.and_eq_true] at hguess
    exact CallSite.isAt_methodId_iff.1 hguess.1.2
  exact ⟨hfetch, ((guessedClass?_eq_some_iff hfetch).1 hguess).2⟩

theorem misspells_of_mem_parameterIssues {argument : Expression} {issue : Issue}
    (hfetch : site.Fetches .parameter) (hpasses : site.Passes argument)
    (hmem : issue ∈ site.parameterIssues argument) : site.Misspells issue := by
  cases argument with
  | literal place name =>
    by_cases hoffends : Naming.offendsAsParameter name = true
    · obtain ⟨hmisspelt, hplain⟩ := Naming.offendsAsParameter_iff.1 hoffends
      refine ⟨hfetch, place, name, hpasses, hmisspelt, hplain, ?_⟩
      simpa [CallSite.parameterIssues, spellingIssues, hoffends] using hmem
    · simp [CallSite.parameterIssues, spellingIssues, hoffends] at hmem
  | _ => cases hmem

/-- Only parameters are judged without a registry. -/
theorem misspells_of_mem_recorded {issue : Issue}
    (hmem : issue ∈ degraded.recorded codebase site) : site.Misspells issue := by
  rw [recorded_eq] at hmem
  have hissue := List.mem_of_mem_filter hmem
  unfold inspect at hissue
  cases hargument : site.argument? with
  | none => simp [hargument] at hissue
  | some argument =>
    simp only [hargument] at hissue
    split at hissue
    · cases hissue
    · split at hissue
      · next hparameter =>
        exact misspells_of_mem_parameterIssues (CallSite.isAt_methodId_iff.1 hparameter)
          (CallSite.argument?_eq_some_iff.1 hargument) hissue
      · cases hissue

end Engine

section Handlers

variable {handlers : List Handler} (hdegraded : AllDegraded handlers)

include hdegraded

theorem eq_degraded_of_mem_enginesOf : ∀ engine ∈ enginesOf handlers, engine = .degraded := by
  intro engine hmem
  obtain ⟨handler, hhandler, hengine⟩ := List.mem_filterMap.1 hmem
  rw [hdegraded handler hhandler] at hengine
  exact (Option.some.inj hengine).symm

theorem verdictOf_degraded (event : Event) : verdictOf handlers event = .noOpinion := by
  have hopinions :
      ((handlersOf handlers event.kind).map (·.opinion event)).contains (some .suppressed) =
        false := by
    rw [Bool.eq_false_iff, ne_eq, List.contains_iff_mem]
    intro hmem
    obtain ⟨handler, hhandler, hopinion⟩ := List.mem_map.1 hmem
    rw [hdegraded handler (List.mem_of_mem_filter hhandler)] at hopinion
    exact Engine.opinion_degraded event hopinion
  rw [verdictOf, Verdict.ofOpinions, hopinions]
  rfl

theorem visited_degraded (className file : String) (host : Host) :
    visited handlers className file host = host := by
  have hnone : (enginesOf handlers).any (!·.isDegraded) = false := by
    rw [List.any_eq_false]
    intro engine hmem
    rw [eq_degraded_of_mem_enginesOf hdegraded engine hmem]
    decide
  simp [visited, hnone]

theorem exempt_degraded (host : Host) :
    (host.exempt fun key => (enginesOf handlers).any (·.isServiceClass key)) = host := by
  have hnone (key : String) : (enginesOf handlers).any (·.isServiceClass key) = false := by
    rw [List.any_eq_false]
    intro engine hmem
    rw [eq_degraded_of_mem_enginesOf hdegraded engine hmem, Engine.isServiceClass_degraded]
    exact Bool.false_ne_true
  simp [Host.exempt, hnone]

variable (codebase : Codebase) (site : CallSite) (candidate : Option String)

theorem filterMap_foundClass?_degraded :
    (enginesOf handlers).filterMap (·.foundClass? codebase site) = [] := by
  rw [List.filterMap_eq_nil_iff]
  intro engine hmem
  rw [eq_degraded_of_mem_enginesOf hdegraded engine hmem, Engine.foundClass?_degraded]

theorem classes_jointFindings_degraded :
    (jointFindings codebase handlers site candidate).classes = [] :=
  filterMap_foundClass?_degraded hdegraded codebase site

theorem candidate_jointFindings_degraded :
    (jointFindings codebase handlers site candidate).candidate = candidate ∨
      candidate = none ∧ ∃ className,
        (jointFindings codebase handlers site candidate).candidate = some className ∧
          site.NamesService className := by
  have hcandidate : (jointFindings codebase handlers site candidate).candidate =
      candidate.or ((enginesOf handlers).filterMap (·.guessedClass? site)).head? := by
    simp only [jointFindings, filterMap_foundClass?_degraded hdegraded, List.getLast?_nil,
      Option.none_or]
  rw [hcandidate]
  cases candidate with
  | some known => exact .inl rfl
  | none =>
    cases hhead : ((enginesOf handlers).filterMap (·.guessedClass? site)).head? with
    | none => exact .inl rfl
    | some className =>
      obtain ⟨engine, -, hguess⟩ := List.mem_filterMap.1 (List.mem_of_mem_head? hhead)
      exact .inr ⟨rfl, className, rfl, Engine.namesService_of_guessedClass? hguess⟩

/-- Without a registry the spelling of parameters is all that is reported. -/
theorem issues_jointFindings_degraded :
    ∀ issue ∈ (jointFindings codebase handlers site candidate).issues, site.Misspells issue := by
  intro issue hmem
  obtain ⟨engine, hengine, hissue⟩ := List.mem_flatMap.1 hmem
  rw [eq_degraded_of_mem_enginesOf hdegraded engine hengine] at hissue
  exact Engine.misspells_of_mem_recorded hissue

end Handlers

namespace Session

/-- The step is answered as if no engine had acted on the host: events are never vetoed and find the
host as it is, and a call brings no more than the class that it names and misspelt parameters. -/
inductive AnsweredInertly (host : Host) : Step → Except Refusal Answer → Prop
  | visit {className file : String} :
      AnsweredInertly host (.visit className file)
        (.ok (.visited .noOpinion host.scanQueue host.references))
  | populate : AnsweredInertly host .populate (.ok (.populated .noOpinion host.classes))
  | call {site : CallSite} {candidate : Option String} {findings : Findings} :
      findings.classes = [] →
      (findings.candidate = candidate ∨ candidate = none ∧ ∃ className,
        findings.candidate = some className ∧ site.NamesService className) →
      (∀ issue ∈ findings.issues, site.Misspells issue) →
      AnsweredInertly host (.call site candidate) (.ok (.analyzed .noOpinion findings))
  | report {report : IssueReport} :
      AnsweredInertly host (.report report) (.ok (.verdict .noOpinion))
  | quiet {step : Step} {answer : Except Refusal Answer} : (∀ kind, ¬ step.Raises kind) →
      AnsweredInertly host step answer

inductive Step.Explains (issue : Issue) : Step → Prop
  | offer {suppressed : List String} : Explains issue (.offer issue suppressed)
  | call {site : CallSite} {candidate : Option String} : site.Misspells issue →
      Explains issue (.call site candidate)

/-- An issue in the log after a step was there before or comes from the step. -/
theorem explains_of_mem_logAfter {step : Step} {log : IssueLog} {issue : Issue}
    (hmem : issue ∈ (step.logAfter log).issues) : issue ∈ log.issues ∨ step.Explains issue := by
  cases step with
  | offer offered suppressed =>
    simp only [Step.logAfter, IssueLog.offer] at hmem
    split at hmem
    · exact .inl hmem
    · rcases List.mem_append.1 hmem with hold | hnew
      · exact .inl hold
      · exact .inr (List.mem_singleton.1 hnew ▸ .offer)
  | clear => cases hmem
  | _ => exact .inl hmem

/-- One step of a session without containers. -/
theorem step_degraded {session : Session} (hdegraded : AllDegraded session.handlers) (step : Step) :
    (session.step step).2.host = session.host ∧
      AnsweredInertly session.host step (session.step step).1 ∧
      ∀ issue ∈ (session.step step).2.log.issues,
        issue ∈ session.log.issues ∨ step.Explains issue := by
  by_cases hraises : ∃ kind, step.Raises kind
  · obtain ⟨kind, hraises⟩ := hraises
    cases hraises with
    | visit =>
      rw [step_visit, visited_degraded hdegraded, verdictOf_degraded hdegraded]
      exact ⟨rfl, .visit, fun issue hmem => .inl hmem⟩
    | populate =>
      rw [step_populate, exempt_degraded hdegraded, verdictOf_degraded hdegraded]
      exact ⟨rfl, .populate, fun issue hmem => .inl hmem⟩
    | @call site candidate =>
      have hclasses := classes_jointFindings_degraded hdegraded session.codebase site candidate
      have hcandidate := candidate_jointFindings_degraded hdegraded session.codebase site candidate
      have hissues := issues_jointFindings_degraded hdegraded session.codebase site candidate
      rw [step_call, verdictOf_degraded hdegraded]
      refine ⟨by simp [extended, Host.know, hclasses], .call hclasses hcandidate hissues, ?_⟩
      intro issue hmem
      rcases List.mem_append.1 hmem with hold | hnew
      · exact .inl hold
      · exact .inr (.call (hissues issue hnew))
    | report =>
      rw [step_report, verdictOf_degraded hdegraded]
      exact ⟨rfl, .report, fun issue hmem => .inl hmem⟩
  · have hquiet : ∀ kind, ¬ step.Raises kind := not_exists.1 hraises
    refine ⟨by rw [step_of_not_raises session hquiet], .quiet hquiet, ?_⟩
    intro issue hmem
    rw [step_of_not_raises session hquiet] at hmem
    exact explains_of_mem_logAfter hmem

/-- As long as no engine with a registry is set up and no other handler is registered, nothing that
happens leaves a trace on the host: no class is made known, queued or exempted, and no file refers
to anything. No event is vetoed. The class of a call is never replaced, and is only supplied where
the call fetches a service that its argument names as a class; issues are only recorded about
parameters that a call misspells, apart from those reported by hand. -/
theorem degraded_mode_is_inert (session : Session) (steps : List Step)
    (hhandlers : AllDegraded session.handlers)
    (hsteps : AllDegraded (steps.filterMap Step.handler?)) :
    (session.run steps).2.host = session.host ∧
    List.Forall₂ (AnsweredInertly session.host) steps (session.run steps).1 ∧
    ∀ issue ∈ (session.run steps).2.log.issues,
      issue ∈ session.log.issues ∨ ∃ step ∈ steps, step.Explains issue := by
  induction steps generalizing session with
  | nil => exact ⟨rfl, .nil, fun issue hmem => .inl hmem⟩
  | cons step rest ih =>
    obtain ⟨hhost, hanswer, hlog⟩ := step_degraded hhandlers step
    have hnext : AllDegraded (session.step step).2.handlers := by
      rw [handlers_step]
      intro handler hmem
      rcases List.mem_append.1 hmem with hold | hnew
      · exact hhandlers handler hold
      · exact hsteps handler (List.mem_filterMap.2
          ⟨step, List.mem_cons_self, Option.mem_toList.1 hnew⟩)
    have hrest : AllDegraded (rest.filterMap Step.handler?) := by
      intro handler hmem
      obtain ⟨later, hlater, hregisters⟩ := List.mem_filterMap.1 hmem
      exact hsteps handler (List.mem_filterMap.2
        ⟨later, List.mem_cons_of_mem step hlater, hregisters⟩)
    obtain ⟨hhosts, hanswers, hlogs⟩ := ih (session.step step).2 hnext hrest
    rw [hhost] at hhosts hanswers
    refine ⟨hhosts, .cons hanswer hanswers, ?_⟩
    intro issue hmem
    rcases hlogs issue hmem with hearlier | ⟨later, hlater, hexplains⟩
    · rcases hlog issue hearlier with hold | hexplains
      · exact .inl hold
      · exact .inr ⟨step, List.mem_cons_self, hexplains⟩
    · exact .inr ⟨later, List.mem_cons_of_mem step hlater, hexplains⟩

/-- Around a class that is named, a misspelt parameter and a report that a container would have
vetoed, only the parameter is recorded. -/
theorem inert_around_mailer :
    let call (methodId : String) (argument : Expression) : Step :=
      .call { methodId, arguments := [.given argument false none], file := "a.php" } none
    let session : Session := { host := { classes := [⟨"mailer", []⟩] } }
    let steps : List Step :=
      [.setUp .absent, .visit "Psr\\Container\\ContainerInterface" "a.php", .populate,
        call "Psr\\Container\\ContainerInterface::get"
          (.member none (.name none "Mailer" none) (.word none "class")),
        call "Symfony\\Component\\DependencyInjection\\ContainerInterface::getparameter"
          (.literal none "Locale"),
        .report ⟨"PossiblyUnusedMethod", some "__construct", some "mailer::__construct"⟩]
    (session.run steps).2.host = session.host ∧
      List.Forall₂ (AnsweredInertly session.host) steps (session.run steps).1 ∧
      (session.run steps).2.log.issues = [.namingConvention { file := "a.php" }] := by
  intro call session steps
  have hsteps : AllDegraded (steps.filterMap Step.handler?) := by
    have hregistered : steps.filterMap Step.handler? = [.engine .degraded] := rfl
    simp [hregistered, AllDegraded]
  obtain ⟨hhost, hanswers, -⟩ := degraded_mode_is_inert session steps nofun hsteps
  exact ⟨hhost, hanswers, by decide +kernel⟩

end Session

end ServiceWiring
