import ServiceWiring.Dispatch
import ServiceWiring.Proofs.CallSites
import ServiceWiring.Proofs.ServiceClasses

/-!
What several handlers do together. Each kind of event has its own effect on the scene, which depends
on the engines among the handlers and on the event alone, and touches only its own part of the
scene: visits the references and the queue, the populated codebase the declared classes, calls the
known classes, the log and the candidate.
-/

namespace ServiceWiring

def Handler.engine? : Handler → Option Engine
  | .engine own => some own
  | .fixed _ _ => none

def enginesOf (handlers : List Handler) : List Engine := handlers.filterMap Handler.engine?

theorem enginesOf_append (first second : List Handler) :
    enginesOf (first ++ second) = enginesOf first ++ enginesOf second :=
  List.filterMap_append

def verdictOf (handlers : List Handler) (event : Event) : Verdict :=
  .ofOpinions ((handlersOf handlers event.kind).map (·.opinion event))

/-- Only engines act on a scene, and each of them hears of every event. -/
theorem dispatch_scene (codebase : Codebase) (handlers : List Handler) (event : Event)
    (scene : Scene) :
    (dispatch codebase handlers event scene).2 =
      (enginesOf handlers).foldl (fun scene engine => engine.respond codebase event scene)
        scene := by
  unfold dispatch handlersOf enginesOf
  simp only [List.foldl_filter, List.foldl_filterMap]
  congr 1
  funext scene handler
  cases handler with
  | engine own => rfl
  | fixed kind opinion => simp [Handler.respond, Handler.engine?]

namespace IssueLog

/-- A log takes up the issues that are not suppressed, in order. -/
theorem foldl_offer (log : IssueLog) (issues : List Issue) (suppressed : List String) :
    issues.foldl (fun log issue => (log.offer issue suppressed).2) log =
      ⟨log.issues ++ issues.filter (!·.isSuppressedBy suppressed)⟩ := by
  induction issues generalizing log with
  | nil => simp
  | cons issue rest ih =>
    rw [List.foldl_cons, ih]
    by_cases hsilent : issue.isSuppressedBy suppressed = true
    · simp [offer, hsilent]
    · simp [offer, hsilent]

end IssueLog

namespace ClassRecord

theorem exempt_exempt (declared : ClassRecord) : declared.exempt.exempt = declared.exempt := by
  unfold exempt
  by_cases hdone : unusedClass ∈ declared.suppressed <;> simp [hdone]

@[simp]
theorem key_exempt (declared : ClassRecord) : declared.exempt.key = declared.key := by
  unfold exempt
  split <;> rfl

end ClassRecord

namespace Host

/-- Exempting twice is exempting once what either time would exempt. -/
theorem exempt_exempt (host : Host) (p q : String → Bool) :
    (host.exempt p).exempt q = host.exempt fun key => p key || q key := by
  -- the second pass still sees the key of each class, as the first one keeps it
  have htreat (declared : ClassRecord) :
      (if q (if p declared.key then declared.exempt else declared).key then
          (if p declared.key then declared.exempt else declared).exempt
        else if p declared.key then declared.exempt else declared) =
        if p declared.key || q declared.key then declared.exempt else declared := by
    cases hp : p declared.key <;> cases hq : q declared.key <;>
      simp [hq, ClassRecord.exempt_exempt]
  simp [exempt, htreat]

theorem addReferences_append (references : Table String) (first second : List String) :
    addReferences references (first ++ second) =
      addReferences (addReferences references first) second := by
  simp [addReferences]

/-- References that are added in two steps can be added in one. -/
theorem refer_refer (host : Host) (file : String) (first second : List String) :
    (host.refer file first).refer file second = host.refer file (first ++ second) := by
  simp [refer, Table.put_put, addReferences_append]

end Host

namespace Engine

def foundService? (engine : Engine) (codebase : Codebase) (site : CallSite) : Option Service := do
  let registry ← engine.registry
  let argument ← site.argument?
  let identifier ← Identifier.ofExpression? codebase.textOf? site.enclosing argument
  if Accessor.service.isAt site.methodId then registry.find? identifier.value site.selfClass
  else none

def foundClass? (engine : Engine) (codebase : Codebase) (site : CallSite) : Option String :=
  (engine.foundService? codebase site).bind (·.className)

/-- The class that an engine without a registry supposes a call to return. -/
def guessedClass? (engine : Engine) (site : CallSite) : Option String :=
  if engine.isDegraded && Accessor.service.isAt site.methodId then
    site.argument?.bind (·.namedClass?)
  else none

/-- The issues that an engine records for a call if it is the only handler. -/
def recorded (engine : Engine) (codebase : Codebase) (site : CallSite) : List Issue :=
  (dispatch codebase [.engine engine] (.callAnalyzed site) ⟨{}, {}, none⟩).2.log.issues

/-- A class that is found replaces the candidate, a guess only fills its place; neither the classes
nor the issues depend on the candidate. -/
theorem inspect_eq (engine : Engine) (codebase : Codebase) (site : CallSite)
    (candidate : Option String) :
    engine.inspect codebase site candidate =
      { candidate := (engine.foundClass? codebase site).or
          (candidate.or (engine.guessedClass? site))
        classes := (engine.foundClass? codebase site).toList
        issues := (engine.inspect codebase site none).issues } := by
  unfold inspect foundClass? foundService? guessedClass? isDegraded
  cases hargument : site.argument? with
  | none => cases engine.registry <;> simp
  | some argument =>
    by_cases hservice : Accessor.service.isAt site.methodId = true
    · cases hregistry : engine.registry with
      | none => simp [hservice]
      | some registry =>
        cases hread : Identifier.ofExpression? codebase.textOf? site.enclosing argument with
        | none => simp [hservice, hread]
        | some identifier => simp [hservice, hread, CallSite.serviceFindings]
    · by_cases hparameter : Accessor.parameter.isAt site.methodId = true
      · cases engine.registry <;> simp [hservice, hparameter]
      · cases engine.registry <;> simp [hservice, hparameter]

/-- An engine records what it finds, less what the call suppresses. -/
theorem recorded_eq (engine : Engine) (codebase : Codebase) (site : CallSite) :
    engine.recorded codebase site =
      (engine.inspect codebase site none).issues.filter (!·.isSuppressedBy site.suppressed) := by
  unfold recorded
  rw [dispatch_scene]
  simp [enginesOf, Handler.engine?, respond, Scene.adopt, IssueLog.foldl_offer]

theorem respond_call (engine : Engine) (codebase : Codebase) (site : CallSite) (scene : Scene) :
    engine.respond codebase (.callAnalyzed site) scene =
      { host := scene.host.know (engine.foundClass? codebase site).toList
        log := ⟨scene.log.issues ++ engine.recorded codebase site⟩
        candidate := (engine.foundClass? codebase site).or
          (scene.candidate.or (engine.guessedClass? site)) } := by
  have hadopt : engine.respond codebase (.callAnalyzed site) scene =
      scene.adopt (engine.inspect codebase site scene.candidate) site.suppressed := rfl
  rw [hadopt, inspect_eq, recorded_eq]
  simp [Scene.adopt, IssueLog.foldl_offer]

end Engine

/-- The last class that is found stands in the end. If none is, the candidate is kept, and filled
by the first guess if there was none. -/
theorem foldl_candidate (found guessed : Engine → Option String) (engines : List Engine)
    (candidate : Option String) :
    engines.foldl (fun known engine => (found engine).or (known.or (guessed engine))) candidate =
      ((engines.filterMap found).getLast?).or
        (candidate.or (engines.filterMap guessed).head?) := by
  induction engines generalizing candidate with
  | nil => simp
  | cons engine rest ih =>
    rw [List.foldl_cons, ih]
    -- what a later engine finds replaces all that stood before; else this engine decides
    cases hlater : (rest.filterMap found).getLast? with
    | some className =>
      cases hfound : found engine <;> simp [hfound, hlater, List.getLast?_cons]
    | none =>
      cases hfound : found engine with
      | some className => simp [hfound, hlater, List.getLast?_cons]
      | none => cases hguess : guessed engine <;> simp [hfound, hguess, hlater]

/-- What handlers find out about a call together. The issues are those that each engine records
when it is alone. -/
def jointFindings (codebase : Codebase) (handlers : List Handler) (site : CallSite)
    (candidate : Option String) : Findings where
  candidate := (((enginesOf handlers).filterMap (·.foundClass? codebase site)).getLast?).or
    (candidate.or ((enginesOf handlers).filterMap (·.guessedClass? site)).head?)
  classes := (enginesOf handlers).filterMap (·.foundClass? codebase site)
  issues := (enginesOf handlers).flatMap (·.recorded codebase site)

/-- A call changes the scene by what its handlers find together. -/
theorem dispatch_call (codebase : Codebase) (handlers : List Handler) (site : CallSite)
    (scene : Scene) :
    (dispatch codebase handlers (.callAnalyzed site) scene).2 =
      let findings := jointFindings codebase handlers site scene.candidate
      { host := scene.host.know findings.classes
        log := ⟨scene.log.issues ++ findings.issues⟩
        candidate := findings.candidate } := by
  rw [dispatch_scene]
  unfold jointFindings
  -- as a fold, the candidate takes the same steps as the scene
  rw [← foldl_candidate]
  induction enginesOf handlers generalizing scene with
  | nil => simp [Host.know]
  | cons engine rest ih =>
    rw [List.foldl_cons, ih, Engine.respond_call]
    cases hfound : engine.foundClass? codebase site <;> simp [hfound, Host.know]

theorem log_dispatch_alone (codebase : Codebase) (engine : Engine) (site : CallSite)
    (scene : Scene) :
    (dispatch codebase [.engine engine] (.callAnalyzed site) scene).2.log =
      ⟨scene.log.issues ++ engine.recorded codebase site⟩ := by
  rw [dispatch_call]
  simp [jointFindings, enginesOf, Handler.engine?]

/-- A visit of a container type lets its file refer to the classes of all services at once, unless
no engine has a registry. -/
def visited (handlers : List Handler) (className file : String) (host : Host) : Host :=
  if isContainerType className && (enginesOf handlers).any (!·.isDegraded) then
    host.refer file ((enginesOf handlers).flatMap (·.classNames))
  else host

theorem dispatch_visit (codebase : Codebase) (handlers : List Handler) (className file : String)
    (scene : Scene) :
    (dispatch codebase handlers (.classVisited className file) scene).2 =
      { scene with host := visited handlers className file scene.host } := by
  rw [dispatch_scene]
  unfold visited
  induction enginesOf handlers generalizing scene with
  | nil => simp
  | cons engine rest ih =>
    rw [List.foldl_cons, ih]
    cases hcontainer : isContainerType className with
    | false => simp [Engine.respond, Engine.visit, hcontainer]
    | true =>
      cases hdegraded : engine.isDegraded with
      | true =>
        have hnames : engine.classNames = [] := Engine.classNames_of_isDegraded hdegraded
        simp [Engine.respond, Engine.visit, hdegraded, hnames]
      | false =>
        -- whether a later engine refers the file again decides how the two sides are joined
        cases hrest : rest.any (!·.isDegraded) with
        | true =>
          simp [Engine.respond, Engine.visit, hcontainer, hdegraded, Host.refer_refer]
        | false =>
          have hnames : rest.flatMap (·.classNames) = [] := by
            rw [List.flatMap_eq_nil_iff]
            intro other hmem
            apply Engine.classNames_of_isDegraded
            simpa using List.any_eq_false.1 hrest other hmem
          simp [Engine.respond, Engine.visit, hcontainer, hdegraded, hnames]

/-- Once the codebase is complete, classes are exempted if any engine serves them. -/
theorem dispatch_populated (codebase : Codebase) (handlers : List Handler) (scene : Scene) :
    (dispatch codebase handlers .codebasePopulated scene).2 =
      { scene with
        host := scene.host.exempt fun key => (enginesOf handlers).any (·.isServiceClass key) } := by
  rw [dispatch_scene]
  induction enginesOf handlers generalizing scene with
  | nil => simp [Host.exempt]
  | cons engine rest ih =>
    rw [List.foldl_cons, ih]
    simp [Engine.respond, Host.exempt_exempt]

/-- To judge a report changes nothing. -/
theorem dispatch_report (codebase : Codebase) (handlers : List Handler) (report : IssueReport)
    (scene : Scene) : (dispatch codebase handlers (.issueReported report) scene).2 = scene := by
  rw [dispatch_scene]
  induction enginesOf handlers with
  | nil => rfl
  | cons engine rest ih => exact ih

end ServiceWiring
