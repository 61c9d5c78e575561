import ServiceWiring.CommandLine.Execution
import ServiceWiring.Proofs.Arguments
import ServiceWiring.Proofs.Diagnostics

/-!
The command that checks a name, beside the engines that judge calls. The command looks for a
backslash first and for capitals last, the engines have the rules in other orders, one for services
and one for parameters; still the exit code of the command tells what the engines report.
-/

namespace ServiceWiring

namespace Engine

variable {engine : Engine} {codebase : Codebase} {site : CallSite} {place : Option CodeLocation}
  {name : String}

/-- An issue about the spelling of a service does not come from the access to it. -/
theorem misspells_serviceIssues_iff {location : CodeLocation} {found : Option Service} :
    (∃ issue ∈ site.serviceIssues codebase location name found, issue.kind = .namingConvention) ↔
      Naming.offends name = true := by
  obtain ⟨access, haccess, hsplit⟩ := exists_access codebase site location name found
  rw [hsplit]
  simp only [List.mem_append, or_and_right, exists_or, exists_spellingIssue_iff, true_and]
  apply or_iff_left
  rintro ⟨issue, hmem, hkind⟩
  exact haccess.2 issue hmem hkind

theorem recorded_of_open (hopen : site.suppressed = []) :
    engine.recorded codebase site = (engine.inspect codebase site none).issues := by
  simp [recorded_eq, hopen, Issue.isSuppressedBy]

/-- Without a registry nothing is said about services. -/
theorem misspells_service_iff (hfetch : site.Fetches .service)
    (hpasses : site.Passes (.literal place name)) (hopen : site.suppressed = []) :
    (∃ issue ∈ engine.recorded codebase site, issue.kind = .namingConvention) ↔
      engine.isDegraded = false ∧ Naming.offends name = true := by
  rw [recorded_of_open hopen]
  obtain ⟨known⟩ := engine
  cases known with
  | none =>
    have hargument : site.argument? = some (.literal place name) :=
      CallSite.argument?_eq_some_iff.2 hpasses
    have hservice : Accessor.service.isAt site.methodId = true :=
      CallSite.isAt_methodId_iff.2 hfetch
    simp [inspect, hargument, hservice, isDegraded]
  | some registry =>
    have hinspect : inspect ⟨some registry⟩ codebase site none =
        site.serviceFindings codebase none (site.locationOf (.literal place name)) name
          (registry.find? name site.selfClass) := inspect_of_denotes hfetch hpasses .literal none
    rw [hinspect]
    simp [CallSite.serviceFindings, misspells_serviceIssues_iff, isDegraded]

theorem misspells_parameter_iff (hfetch : site.Fetches .parameter)
    (hpasses : site.Passes (.literal place name)) (hopen : site.suppressed = []) :
    (∃ issue ∈ engine.recorded codebase site, issue.kind = .namingConvention) ↔
      Naming.offendsAsParameter name = true := by
  rw [recorded_of_open hopen, issues_of_parameter hfetch hpasses, exists_spellingIssue_iff]
  simp

end Engine

section Handlers

variable {codebase : Codebase} {handlers : List Handler} {site : CallSite}
  {place : Option CodeLocation} {name : String} {candidate : Option String}

theorem exists_issue_jointFindings_iff {kind : IssueKind} :
    (∃ issue ∈ (jointFindings codebase handlers site candidate).issues, issue.kind = kind) ↔
      ∃ engine ∈ enginesOf handlers,
        ∃ issue ∈ engine.recorded codebase site, issue.kind = kind := by
  simp only [jointFindings, List.mem_flatMap]
  constructor
  · rintro ⟨issue, ⟨engine, hmem, hrecorded⟩, hkind⟩
    exact ⟨engine, hmem, issue, hrecorded, hkind⟩
  · rintro ⟨engine, hmem, issue, hrecorded, hkind⟩
    exact ⟨issue, ⟨engine, hmem, hrecorded⟩, hkind⟩

/-- Engines that know a container speak for those that do not. -/
theorem reports_service_iff (hfetch : site.Fetches .service)
    (hpasses : site.Passes (.literal place name)) (hopen : site.suppressed = [])
    (hknown : ∃ engine ∈ enginesOf handlers, engine.isDegraded = false) :
    (∃ issue ∈ (jointFindings codebase handlers site candidate).issues,
      issue.kind = .namingConvention) ↔ Naming.offends name = true := by
  simp only [exists_issue_jointFindings_iff, Engine.misspells_service_iff hfetch hpasses hopen]
  obtain ⟨engine, hmem, hregistry⟩ := hknown
  constructor
  · rintro ⟨-, -, -, hoffends⟩
    exact hoffends
  · intro hoffends
    exact ⟨engine, hmem, hregistry, hoffends⟩

/-- For parameters any engine speaks, whether or not it knows a container. -/
theorem reports_parameter_iff (hfetch : site.Fetches .parameter)
    (hpasses : site.Passes (.literal place name)) (hopen : site.suppressed = [])
    (hengines : enginesOf handlers ≠ []) :
    (∃ issue ∈ (jointFindings codebase handlers site candidate).issues,
      issue.kind = .namingConvention) ↔ Naming.offendsAsParameter name = true := by
  simp only [exists_issue_jointFindings_iff, Engine.misspells_parameter_iff hfetch hpasses hopen]
  obtain ⟨engine, hmem⟩ := List.exists_mem_of_ne_nil _ hengines
  constructor
  · rintro ⟨-, -, hoffends⟩
    exact hoffends
  · intro hoffends
    exact ⟨engine, hmem, hoffends⟩

end Handlers

namespace CommandLine

def checkNameArguments (name : String) (parameter : Bool) : List String :=
  if parameter then ["check-name", "--parameter", "--", name] else ["check-name", "--", name]

theorem ofArguments_checkNameArguments (name : String) (parameter : Bool) :
    Request.ofArguments (checkNameArguments name parameter) =
      .run (.checkName name parameter) false := by
  cases parameter with
  | false => exact ofArguments_of_reading (by decide) rfl (Options.read?_mark _ [name])
  | true =>
    have hread : Options.read? { flags := "--parameter" :: commonFlags }
        ["--parameter", "--", name] =
          some { settings := [.flag "--parameter"], positional := [name] } := by
      rw [Options.read?_flag (by decide) (by decide) (by decide) (by decide), Options.read?_mark]
      rfl
    exact ofArguments_of_reading (by decide) rfl hread

theorem respond_checkNameArguments (tree : FileTree) (screen : Console.Screen) (name : String)
    (parameter : Bool) :
    respond tree screen (checkNameArguments name parameter) = checkName name parameter := by
  simp only [respond, ofArguments_checkNameArguments, execute]

/-- The outcome of judging something: the exit code is 1 if it is at fault, and else 0. -/
def Outcome.Judges (outcome : Outcome) (fault : Prop) : Prop :=
  (outcome.exitCode = 1 ↔ fault) ∧ (outcome.exitCode = 0 ↔ ¬ fault) ∧ outcome.interruption = none

theorem Outcome.Judges.congr {outcome : Outcome} {fault other : Prop}
    (hjudges : outcome.Judges fault) (hsame : fault ↔ other) : outcome.Judges other := by
  rwa [← propext hsame]

/-- A name is at fault for the command if it is for the engines. -/
theorem judges_checkName (name : String) (parameter : Bool) :
    (checkName name parameter).Judges
      ((if parameter then Naming.offendsAsParameter name else Naming.offends name) = true) := by
  cases hclass : Naming.isNamespaced name with
  | true =>
    cases parameter <;>
      simp [Outcome.Judges, checkName, Naming.offends, Naming.offendsAsParameter, hclass]
  | false =>
    cases parameter with
    | false =>
      cases hspelling : Naming.isConventional name <;>
        simp [Outcome.Judges, checkName, Naming.offends, hclass, hspelling]
    | true =>
      cases hspelling : Naming.isConventionalParameter name <;>
        simp [Outcome.Judges, checkName, Naming.offendsAsParameter, hclass, hspelling]

theorem judges_checkNameArguments (tree : FileTree) (screen : Console.Screen) (name : String)
    (parameter : Bool) :
    (respond tree screen (checkNameArguments name parameter)).Judges
      ((if parameter then Naming.offendsAsParameter name else Naming.offends name) = true) := by
  rw [respond_checkNameArguments]
  exact judges_checkName name parameter

/-- Checking a name on the command line tells what engines make of a call that passes that name,
where nothing is suppressed. The exit code is 1 or 0. For a service it is 1 exactly if the spelling
is reported by handlers of which one knows a container, and for a parameter exactly if it is
reported by any engines, whether or not they know one: that is for names with a capital and no
backslash which, as parameters, are not read from the environment. Every name that a service may
have is accepted for a parameter. -/
theorem check_name_predicts_engines (tree : FileTree) (screen : Console.Screen) (name : String) :
    let strict := respond tree screen (checkNameArguments name false)
    let lenient := respond tree screen (checkNameArguments name true)
    strict.Judges (Naming.Misspelt name) ∧
    lenient.Judges (Naming.Misspelt name ∧ ¬ "env(".toList <+: name.toList) ∧
    (strict.exitCode = 0 → lenient.exitCode = 0) ∧
    ∀ (codebase : Codebase) (handlers : List Handler) (site : CallSite)
      (place : Option CodeLocation) (scene : Scene),
      site.Passes (.literal place name) → site.suppressed = [] →
      ∃ issues, (dispatch codebase handlers (.callAnalyzed site) scene).2.log =
          ⟨scene.log.issues ++ issues⟩ ∧
        (site.Fetches .service → (∃ engine ∈ enginesOf handlers, engine.isDegraded = false) →
          strict.Judges (∃ issue ∈ issues, issue.kind = .namingConvention)) ∧
        (site.Fetches .parameter → enginesOf handlers ≠ [] →
          lenient.Judges (∃ issue ∈ issues, issue.kind = .namingConvention)) := by
  intro strict lenient
  have hstrict : strict.Judges (Naming.offends name = true) :=
    judges_checkNameArguments tree screen name false
  have hlenient : lenient.Judges (Naming.offendsAsParameter name = true) :=
    judges_checkNameArguments tree screen name true
  refine ⟨hstrict.congr Naming.offends_iff, hlenient.congr Naming.offendsAsParameter_iff, ?_, ?_⟩
  · rw [hstrict.2.1, hlenient.2.1]
    exact mt Naming.offends_of_offendsAsParameter
  · intro codebase handlers site place scene hpasses hopen
    refine ⟨(jointFindings codebase handlers site scene.candidate).issues, by rw [dispatch_call],
      ?_, ?_⟩
    · intro hfetch hknown
      exact hstrict.congr (reports_service_iff hfetch hpasses hopen hknown).symm
    · intro hfetch hengines
      exact hlenient.congr (reports_parameter_iff hfetch hpasses hopen hengines).symm

/-- A name that is read from the environment, as a service and as a parameter of two engines. -/
theorem checks_of_environment_name :
    let tree := FileTree.ofEntries []
    let handlers : List Handler :=
      [.engine .degraded, .engine (.ofRegistry ⟨fun _ _ => none, []⟩)]
    let site (accessor : Accessor) : CallSite :=
      { methodId := accessor.methodId "Psr\\Container\\ContainerInterface"
        arguments := [.given (.literal none "env(Secret)") false none]
        file := "a.php" }
    let issues (accessor : Accessor) :=
      (dispatch {} handlers (.callAnalyzed (site accessor)) ⟨{}, {}, none⟩).2.log.issues
    (respond tree .plain ["check-name", "--", "env(Secret)"]).exitCode = 1 ∧
      (∃ issue ∈ issues .service, issue.kind = .namingConvention) ∧
      (respond tree .plain ["check-name", "--parameter", "--", "env(Secret)"]).exitCode = 0 ∧
      ¬ ∃ issue ∈ issues .parameter, issue.kind = .namingConvention := by
  intro tree handlers site issues
  have hcontainer : "Psr\\Container\\ContainerInterface" ∈ containerTypes := by decide
  have hfetch (accessor : Accessor) : (site accessor).Fetches accessor := ⟨_, hcontainer, rfl⟩
  obtain ⟨hstrict, hlenient, -, hcalls⟩ := check_name_predicts_engines tree .plain "env(Secret)"
  have hfault : (respond tree .plain ["check-name", "--", "env(Secret)"]).exitCode = 1 :=
    hstrict.1.2 (by decide +kernel)
  have hclean :
      (respond tree .plain ["check-name", "--parameter", "--", "env(Secret)"]).exitCode = 0 :=
    hlenient.2.1.2 (by decide +kernel)
  obtain ⟨found, hfound, hservice, -⟩ :=
    hcalls {} handlers (site .service) none ⟨{}, {}, none⟩ ⟨none, [], rfl⟩ rfl
  obtain ⟨other, hother, -, hparameter⟩ :=
    hcalls {} handlers (site .parameter) none ⟨{}, {}, none⟩ ⟨none, [], rfl⟩ rfl
  have hissues : issues .service = found := congrArg IssueLog.issues hfound
  have hnone : issues .parameter = other := congrArg IssueLog.issues hother
  have hreported := hservice (hfetch .service)
    ⟨.ofRegistry ⟨fun _ _ => none, []⟩, by simp [handlers, enginesOf, Handler.engine?], rfl⟩
  have hsilent := hparameter (hfetch .parameter) (by simp [handlers, enginesOf, Handler.engine?])
  refine ⟨hfault, ?_, hclean, ?_⟩
  · rw [hissues]
    exact hreported.1.1 hfault
  · rw [hnone]
    exact hsilent.2.1.1 hclean

end CommandLine

end ServiceWiring
