import ServiceWiring.Proofs.Dispatches

/-!
The issues of a call. An engine with a registry judges a call that fetches a service by the
identifier that its first argument denotes, and a call that fetches a parameter by the name that
stands there in full; it records nothing about any other call.
-/

namespace ServiceWiring.Engine

open Identifier (Denotes)

variable {registry : Registry} {codebase : Codebase} {site : CallSite} {argument : Expression}

theorem inspect_of_denotes {id : String} (hfetch : site.Fetches .service)
    (hpasses : site.Passes argument) (hdenotes : Denotes codebase site.enclosing argument id)
    (candidate : Option String) :
    (ofRegistry registry).inspect codebase site candidate =
      site.serviceFindings codebase candidate (site.locationOf argument) id
        (registry.find? id site.selfClass) := by
  have hargument : site.argument? = some argument := CallSite.argument?_eq_some_iff.2 hpasses
  have hservice : Accessor.service.isAt site.methodId = true :=
    CallSite.isAt_methodId_iff.2 hfetch
  obtain ⟨identifier, hread, rfl⟩ := Identifier.exists_ofExpression?_iff.2 hdenotes
  simp [inspect, ofRegistry, hargument, hservice, hread]

/-- Parameters are judged alike with and without a registry. -/
theorem issues_of_parameter {engine : Engine} {place : Option CodeLocation} {name : String}
    (hfetch : site.Fetches .parameter) (hpasses : site.Passes (.literal place name))
    (candidate : Option String) :
    (engine.inspect codebase site candidate).issues =
      spellingIssues (Naming.offendsAsParameter name) (site.locationOf (.literal place name)) := by
  have hargument : site.argument? = some (.literal place name) :=
    CallSite.argument?_eq_some_iff.2 hpasses
  have hparameter : Accessor.parameter.isAt site.methodId = true :=
    CallSite.isAt_methodId_iff.2 hfetch
  have hservice : Accessor.service.isAt site.methodId = false := by
    rw [Bool.eq_false_iff]
    intro hservice
    cases Accessor.eq_of_isAt hservice hparameter
  simp [inspect, hargument, hservice, hparameter, CallSite.parameterIssues]

def Judges (codebase : Codebase) (site : CallSite) : Prop :=
  (∃ argument id, site.Fetches .service ∧ site.Passes argument ∧
    Denotes codebase site.enclosing argument id) ∨
  ∃ place name, site.Fetches .parameter ∧ site.Passes (.literal place name)

/-- A call that is not one of the container, or has no identifier, is not reported. -/
theorem issues_of_not_judges (hidle : ¬ Judges codebase site) (candidate : Option String) :
    ((ofRegistry registry).inspect codebase site candidate).issues = [] := by
  unfold inspect
  cases hargument : site.argument? with
  | none => rfl
  | some argument =>
    have hpasses : site.Passes argument := CallSite.argument?_eq_some_iff.1 hargument
    by_cases hservice : Accessor.service.isAt site.methodId = true
    · cases hread : Identifier.ofExpression? codebase.textOf? site.enclosing argument with
      | none => simp [hservice, ofRegistry, hread]
      | some identifier =>
        have hdenotes : Denotes codebase site.enclosing argument identifier.value :=
          Identifier.exists_ofExpression?_iff.1 ⟨identifier, hread, rfl⟩
        exact absurd (.inl ⟨argument, identifier.value, CallSite.isAt_methodId_iff.1 hservice,
          hpasses, hdenotes⟩) hidle
    · by_cases hparameter : Accessor.parameter.isAt site.methodId = true
      · cases argument with
        | literal place name =>
          exact absurd (.inr ⟨place, name, CallSite.isAt_methodId_iff.1 hparameter, hpasses⟩) hidle
        | _ => simp [hservice, hparameter, CallSite.parameterIssues]
      · simp [hservice, hparameter]

/-- At most one issue, about the spelling of a name. -/
def IsSpelling (issues : List Issue) : Prop :=
  issues.length ≤ 1 ∧ ∀ issue ∈ issues, issue.kind = .namingConvention

/-- At most one issue, about the access to a service. -/
def IsAccess (issues : List Issue) : Prop :=
  issues.length ≤ 1 ∧ ∀ issue ∈ issues, issue.kind ≠ .namingConvention

theorem isSpelling_spellingIssues (offends : Bool) (location : CodeLocation) :
    IsSpelling (spellingIssues offends location) := by
  cases offends <;> simp [IsSpelling, spellingIssues, Issue.namingConvention]

theorem isAccess_nil : IsAccess [] := by simp [IsAccess]

theorem isAccess_singleton {issue : Issue} (hkind : issue.kind ≠ .namingConvention) :
    IsAccess [issue] := by
  simpa [IsAccess] using hkind

/-- What is said about a service beyond its spelling is about the access to it. -/
theorem exists_access (codebase : Codebase) (site : CallSite) (location : CodeLocation)
    (id : String) (found : Option Service) :
    ∃ access, IsAccess access ∧ site.serviceIssues codebase location id found =
      spellingIssues (Naming.offends id) location ++ access := by
  refine ⟨_, ?_, rfl⟩
  cases found with
  | none => exact isAccess_singleton nofun
  | some service =>
    by_cases hallowed : (service.isExposed || site.isInTest codebase) = true
    · simpa only [if_pos hallowed] using isAccess_nil
    · simp only [if_neg hallowed]
      exact isAccess_singleton nofun

/-- The issue about the spelling comes first and is the same for all registries. -/
theorem exists_spelling (codebase : Codebase) (site : CallSite) :
    ∃ spelling, IsSpelling spelling ∧ ∀ registry candidate, ∃ access, IsAccess access ∧
      ((ofRegistry registry).inspect codebase site candidate).issues = spelling ++ access := by
  by_cases hjudges : Judges codebase site
  · rcases hjudges with ⟨argument, id, hfetch, hpasses, hdenotes⟩ | ⟨place, name, hfetch, hpasses⟩
    · refine ⟨_, isSpelling_spellingIssues (Naming.offends id) (site.locationOf argument), ?_⟩
      intro registry candidate
      rw [inspect_of_denotes hfetch hpasses hdenotes]
      exact exists_access codebase site (site.locationOf argument) id
        (registry.find? id site.selfClass)
    · refine ⟨_, isSpelling_spellingIssues (Naming.offendsAsParameter name)
        (site.locationOf (.literal place name)), ?_⟩
      intro registry candidate
      refine ⟨[], isAccess_nil, ?_⟩
      rw [issues_of_parameter hfetch hpasses, List.append_nil]
  · refine ⟨[], by simp [IsSpelling], ?_⟩
    intro registry candidate
    exact ⟨[], isAccess_nil, issues_of_not_judges hjudges candidate⟩

theorem eq_nil_of_cons_le_one {issue : Issue} {rest : List Issue}
    (hlength : (issue :: rest).length ≤ 1) : rest = [] := by
  rw [List.length_cons] at hlength
  exact List.eq_nil_of_length_eq_zero (by omega)

section Order

variable {spelling access : List Issue} (hspelling : IsSpelling spelling)
  (haccess : IsAccess access)

include hspelling haccess

/-- No kind of issue is reported twice for a call. -/
theorem countP_kind_le_one (kind : IssueKind) :
    (spelling ++ access).countP (·.kind = kind) ≤ 1 := by
  rw [List.countP_append]
  by_cases hnaming : kind = .namingConvention
  · have hnone : access.countP (·.kind = kind) = 0 := by
      rw [List.countP_eq_zero]
      intro issue hmem
      simpa [hnaming] using haccess.2 issue hmem
    have hone : spelling.countP (·.kind = kind) ≤ 1 := List.countP_le_length.trans hspelling.1
    omega
  · have hnone : spelling.countP (·.kind = kind) = 0 := by
      rw [List.countP_eq_zero]
      intro issue hmem
      simpa [hspelling.2 issue hmem] using Ne.symm hnaming
    have hone : access.countP (·.kind = kind) ≤ 1 := List.countP_le_length.trans haccess.1
    omega

/-- All issues about the access to a service are of the same kind, as there is at most one. -/
theorem kind_eq_of_mem {issue other : Issue} (hissue : issue ∈ spelling ++ access)
    (hother : other ∈ spelling ++ access) (hkind : issue.kind ≠ .namingConvention)
    (hotherKind : other.kind ≠ .namingConvention) : issue.kind = other.kind := by
  have hmem {issue : Issue} (h : issue ∈ spelling ++ access)
      (hkind : issue.kind ≠ .namingConvention) : issue ∈ access := by
    rcases List.mem_append.1 h with hmem | hmem
    · exact absurd (hspelling.2 issue hmem) hkind
    · exact hmem
  have hfirst : issue ∈ access := hmem hissue hkind
  have hsecond : other ∈ access := hmem hother hotherKind
  cases access with
  | nil => cases hfirst
  | cons only rest =>
    rw [eq_nil_of_cons_le_one haccess.1, List.mem_singleton] at hfirst hsecond
    rw [hfirst, hsecond]

theorem not_namingConvention_of_mem_tail :
    ∀ issue ∈ (spelling ++ access).tail, issue.kind ≠ .namingConvention := by
  intro issue hmem
  cases spelling with
  | nil => exact haccess.2 issue (List.mem_of_mem_tail hmem)
  | cons first rest =>
    rw [eq_nil_of_cons_le_one hspelling.1] at hmem
    exact haccess.2 issue hmem

theorem filter_namingConvention :
    (spelling ++ access).filter (·.kind = .namingConvention) = spelling := by
  have hall : spelling.filter (·.kind = .namingConvention) = spelling := by
    rw [List.filter_eq_self]
    intro issue hmem
    simpa using hspelling.2 issue hmem
  have hnone : access.filter (·.kind = .namingConvention) = [] := by
    rw [List.filter_eq_nil_iff]
    intro issue hmem
    simpa using haccess.2 issue hmem
  rw [List.filter_append, hall, hnone, List.append_nil]

end Order

theorem exists_spellingIssue_iff {offends : Bool} {location : CodeLocation} {kind : IssueKind} :
    (∃ issue ∈ spellingIssues offends location, issue.kind = kind) ↔
      kind = .namingConvention ∧ offends = true := by
  cases offends <;> simp [spellingIssues, Issue.namingConvention, @eq_comm _ kind]

theorem spellingIssues_eq {offends : Bool} {location : CodeLocation} {p : Prop} [Decidable p]
    (hoffends : offends = true ↔ p) :
    spellingIssues offends location = if p then [.namingConvention location] else [] := by
  by_cases hp : p
  · rw [hoffends.2 hp, if_pos hp]
    rfl
  · rw [Bool.eq_false_iff.2 fun h => hp (hoffends.1 h), if_neg hp]
    rfl

theorem accessIssues_eq (service : Service) (location : CodeLocation) (id : String) :
    (if service.isExposed || site.isInTest codebase then [] else
      [Issue.privateService id location]) =
      if service.visibility = .internal ∧ ¬ site.StandsInTest codebase then
        [Issue.privateService id location]
      else [] := by
  simp only [← CallSite.isInTest_iff]
  cases hvisibility : service.visibility <;> cases site.isInTest codebase <;>
    simp [Service.isExposed, hvisibility]

/-- Where nothing is suppressed, the log grows by what the inspection says, whatever it holds and
whatever class is known. -/
theorem exists_recorded (codebase : Codebase) (hopen : site.suppressed = []) :
    ∃ issues : Registry → List Issue,
      (∀ registry scene,
        (dispatch codebase [.engine (ofRegistry registry)] (.callAnalyzed site) scene).2.log =
          ⟨scene.log.issues ++ issues registry⟩) ∧
      ∀ registry, issues registry = ((ofRegistry registry).inspect codebase site none).issues := by
  refine ⟨fun registry => (ofRegistry registry).recorded codebase site, ?_, ?_⟩
  · intro registry scene
    exact log_dispatch_alone codebase (ofRegistry registry) site scene
  · intro registry
    simp [recorded_eq, hopen, Issue.isSuppressedBy]

/-- The issues that an engine with a registry records for a call, where nothing is suppressed. For a
service they are an issue about the spelling of its identifier, if it is misspelt, and then one
about the access, if the service is unknown or is internal and fetched outside of tests; for a
parameter named in full there is the one about the spelling only, and for all other calls there are
none. So no kind occurs twice, no call is reported for both kinds of access, and the issue about the
spelling comes first and is the same for every registry. -/
theorem recorded_exactly (codebase : Codebase) (site : CallSite) (hopen : site.suppressed = []) :
    ∃ issues : Registry → List Issue,
      (∀ registry scene,
        (dispatch codebase [.engine (ofRegistry registry)] (.callAnalyzed site) scene).2.log =
          ⟨scene.log.issues ++ issues registry⟩) ∧
      (∀ registry argument id, site.Fetches .service → site.Passes argument →
        Denotes codebase site.enclosing argument id →
        issues registry =
          (if Naming.Misspelt id then [.namingConvention (site.locationOf argument)] else []) ++
          match registry.find? id site.selfClass with
          | none => [.serviceNotFound id (site.locationOf argument)]
          | some service =>
            if service.visibility = .internal ∧ ¬ site.StandsInTest codebase then
              [.privateService id (site.locationOf argument)]
            else []) ∧
      (∀ registry place name, site.Fetches .parameter → site.Passes (.literal place name) →
        issues registry =
          if Naming.Misspelt name ∧ ¬ "env(".toList <+: name.toList then
            [.namingConvention (site.locationOf (.literal place name))]
          else []) ∧
      (∀ registry, ¬ Judges codebase site → issues registry = []) ∧
      (∀ registry kind, (issues registry).countP (·.kind = kind) ≤ 1) ∧
      (∀ registry, (∃ issue ∈ issues registry, issue.kind = .privateService) →
        ∀ issue ∈ issues registry, issue.kind ≠ .serviceNotFound) ∧
      (∀ registry, ∀ issue ∈ (issues registry).tail, issue.kind ≠ .namingConvention) ∧
      ∀ registry other, (issues registry).filter (·.kind = .namingConvention) =
        (issues other).filter (·.kind = .namingConvention) := by
  obtain ⟨issues, hlog, hissues⟩ := exists_recorded codebase hopen
  obtain ⟨spelling, hspelling, haccess⟩ := exists_spelling codebase site
  have hshape (registry : Registry) :
      ∃ access, IsAccess access ∧ issues registry = spelling ++ access := by
    obtain ⟨access, hone, hsplit⟩ := haccess registry none
    exact ⟨access, hone, (hissues registry).trans hsplit⟩
  refine ⟨issues, hlog, ?_, ?_, ?_, ?_, ?_, ?_, ?_⟩
  · intro registry argument id hfetch hpasses hdenotes
    rw [hissues, inspect_of_denotes hfetch hpasses hdenotes]
    simp only [CallSite.serviceFindings, CallSite.serviceIssues,
      spellingIssues_eq Naming.offends_iff]
    cases registry.find? id site.selfClass with
    | none => rfl
    | some service => simp only [accessIssues_eq]
  · intro registry place name hfetch hpasses
    rw [hissues, issues_of_parameter hfetch hpasses,
      spellingIssues_eq Naming.offendsAsParameter_iff]
  · intro registry hidle
    rw [hissues, issues_of_not_judges hidle]
  · intro registry kind
    obtain ⟨access, hone, hsplit⟩ := hshape registry
    rw [hsplit]
    exact countP_kind_le_one hspelling hone kind
  · rintro registry ⟨issue, hmem, hprivate⟩ other hother hmissing
    obtain ⟨access, hone, hsplit⟩ := hshape registry
    rw [hsplit] at hmem hother
    have hsame := kind_eq_of_mem hspelling hone hmem hother (by simp [hprivate])
      (by simp [hmissing])
    rw [hprivate, hmissing] at hsame
    cases hsame
  · intro registry
    obtain ⟨access, hone, hsplit⟩ := hshape registry
    rw [hsplit]
    exact not_namingConvention_of_mem_tail hspelling hone
  · intro registry other
    obtain ⟨access, hone, hsplit⟩ := hshape registry
    obtain ⟨otherAccess, hother, hotherSplit⟩ := hshape other
    rw [hsplit, hotherSplit, filter_namingConvention hspelling hone,
      filter_namingConvention hspelling hother]

/-- An internal service with a capital in its identifier is reported for both, spelling first. -/
theorem recorded_for_hidden_service :
    let registry : Registry := ⟨fun id _ => some ⟨id, some "Hidden", .internal⟩, []⟩
    let site : CallSite :=
      { methodId := "Psr\\Container\\ContainerInterface::get"
        arguments := [.given (.literal none "HiddenService") false none]
        parentClass := some "TestCase"
        file := "a.php" }
    (dispatch {} [.engine (ofRegistry registry)] (.callAnalyzed site) ⟨{}, {}, none⟩).2.log =
      ⟨[.namingConvention { file := "a.php" },
        .privateService "HiddenService" { file := "a.php" }]⟩ := by
  intro registry site
  obtain ⟨issues, hlog, hservice, -⟩ := recorded_exactly {} site rfl
  have hfetch : site.Fetches .service :=
    ⟨"Psr\\Container\\ContainerInterface", by decide, by decide +kernel⟩
  have hissues := hservice registry (.literal none "HiddenService") "HiddenService" hfetch
    ⟨none, [], rfl⟩ .literal
  rw [hlog, hissues]
  decide +kernel

end ServiceWiring.Engine
