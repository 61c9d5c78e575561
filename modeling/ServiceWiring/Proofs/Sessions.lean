import ServiceWiring.Session
import ServiceWiring.Proofs.Dispatches

/-!
What the steps of a session do. Setting up and subscribing register a handler and change nothing
else that later steps depend on; each event changes its own part of the state, in a way that only
the handlers and the codebase determine.
-/

namespace ServiceWiring.Session

def Step.engine? : Step → Option Engine
  | .setUp source => (engineFor source).toOption
  | _ => none

def Step.handler? : Step → Option Handler
  | .setUp source => (engineFor source).toOption.map .engine
  | .subscribe label opinion =>
    match readOpinion opinion, readKind label with
    | .ok given, .ok kind => some (.fixed kind given)
    | _, _ => none
  | _ => none

theorem Step.bind_handler? (step : Step) : step.handler?.bind Handler.engine? = step.engine? := by
  cases step with
  | setUp source =>
    simp only [handler?, engine?]
    cases (engineFor source).toOption <;> rfl
  | subscribe label opinion =>
    simp only [handler?, engine?]
    cases readOpinion opinion with
    | error refusal => rfl
    | ok given => cases readKind label <;> rfl
  | _ => rfl

/-- The session after classes have become known and issues have been recorded. -/
def extended (session : Session) (classes : List String) (issues : List Issue) : Session :=
  { session with
    host := session.host.know classes
    log := ⟨session.log.issues ++ issues⟩ }

theorem run_raise (session : Session) (event : Event) (candidate : Option String) :
    (raise event candidate).run session =
      let scene := (dispatch session.codebase session.handlers event
        ⟨session.host, session.log, candidate⟩).2
      .ok (verdictOf session.handlers event, scene.candidate)
        { session with host := scene.host, log := scene.log } := rfl

theorem step_visit (session : Session) (className file : String) :
    session.step (.visit className file) =
      let host := visited session.handlers className file session.host
      (.ok (.visited (verdictOf session.handlers (.classVisited className file)) host.scanQueue
        host.references), { session with host := host }) := by
  simp only [Session.step, attempt, EStateM.run_bind, run_raise, dispatch_visit]
  rfl

theorem step_populate (session : Session) :
    session.step .populate =
      let host := session.host.exempt fun key =>
        (enginesOf session.handlers).any (·.isServiceClass key)
      (.ok (.populated (verdictOf session.handlers .codebasePopulated) host.classes),
        { session with host := host }) := by
  simp only [Session.step, attempt, EStateM.run_bind, run_raise, dispatch_populated]
  rfl

theorem step_call (session : Session) (site : CallSite) (candidate : Option String) :
    session.step (.call site candidate) =
      let findings := jointFindings session.codebase session.handlers site candidate
      (.ok (.analyzed (verdictOf session.handlers (.callAnalyzed site)) findings),
        session.extended findings.classes findings.issues) := by
  simp only [Session.step, attempt, EStateM.run_bind, run_raise, dispatch_call]
  simp [findingsSince, IssueLog.addedIn, Host.know, extended]

theorem step_report (session : Session) (report : IssueReport) :
    session.step (.report report) =
      (.ok (.verdict (verdictOf session.handlers (.issueReported report))), session) := by
  simp only [Session.step, attempt, EStateM.run_bind, run_raise, dispatch_report]
  rfl

inductive Step.Raises : Step → EventKind → Prop
  | visit {className file : String} : Raises (.visit className file) .classVisited
  | populate : Raises .populate .codebasePopulated
  | call {site : CallSite} {candidate : Option String} : Raises (.call site candidate) .callAnalyzed
  | report {report : IssueReport} : Raises (.report report) .issueReported

theorem handler?_of_raises {step : Step} {kind : EventKind} (hraises : step.Raises kind) :
    step.handler? = none := by
  cases hraises <;> rfl

/-- An event changes the host and the log at most. -/
theorem exists_step_of_raises (session : Session) {step : Step} {kind : EventKind}
    (hraises : step.Raises kind) :
    ∃ host log, (session.step step).2 = { session with host := host, log := log } := by
  cases hraises <;> exact ⟨_, _, rfl⟩

/-- What a step leaves of the log if it raises no event. -/
def Step.logAfter : Step → IssueLog → IssueLog
  | .offer issue suppressed, log => (log.offer issue suppressed).2
  | .clear, _ => {}
  | _, log => log

/-- A step that raises no event registers what it has to register, and touches nothing else but the
log. -/
theorem step_of_not_raises (session : Session) {step : Step} (hquiet : ∀ kind, ¬ step.Raises kind) :
    (session.step step).2 =
      { session with
        log := step.logAfter session.log
        handlers := session.handlers ++ step.handler?.toList
        engine := step.engine?.getD session.engine } := by
  have hidle : session = { session with handlers := session.handlers ++ [] } := by
    rw [List.append_nil]
  cases step with
  | setUp source =>
    simp only [Session.step, attempt, Step.handler?, Step.engine?]
    cases engineFor source with
    | error refusal => exact hidle
    | ok engine => rfl
  | subscribe label opinion =>
    simp only [Session.step, attempt, Step.handler?]
    cases readOpinion opinion with
    | error refusal => exact hidle
    | ok given =>
      cases readKind label with
      | error refusal => exact hidle
      | ok kind => rfl
  | countHandlers label =>
    simp only [Session.step, attempt]
    cases readKind label <;> exact hidle
  | visit className file => exact absurd .visit (hquiet _)
  | populate => exact absurd .populate (hquiet _)
  | call site candidate => exact absurd .call (hquiet _)
  | report report => exact absurd .report (hquiet _)
  | offer issue suppressed =>
    exact congrArg (fun session => { session with log := (session.log.offer issue suppressed).2 })
      hidle
  | clear => exact congrArg (fun session => { session with log := {} }) hidle
  | _ => exact hidle

/-- A step registers at most one handler, behind those that are there. -/
theorem handlers_step (session : Session) (step : Step) :
    (session.step step).2.handlers = session.handlers ++ step.handler?.toList := by
  by_cases hraises : ∃ kind, step.Raises kind
  · obtain ⟨kind, hkind⟩ := hraises
    obtain ⟨host, log, hstep⟩ := exists_step_of_raises session hkind
    rw [hstep, handler?_of_raises hkind]
    exact (List.append_nil session.handlers).symm
  · rw [step_of_not_raises session (not_exists.1 hraises)]

theorem codebase_step (session : Session) (step : Step) :
    (session.step step).2.codebase = session.codebase := by
  by_cases hraises : ∃ kind, step.Raises kind
  · obtain ⟨kind, hkind⟩ := hraises
    obtain ⟨host, log, hstep⟩ := exists_step_of_raises session hkind
    rw [hstep]
  · rw [step_of_not_raises session (not_exists.1 hraises)]

theorem run_cons (session : Session) (step : Step) (rest : List Step) :
    session.run (step :: rest) =
      ((session.step step).1 :: ((session.step step).2.run rest).1,
        ((session.step step).2.run rest).2) := rfl

/-- A run is made of the runs of its parts. -/
theorem run_append (session : Session) (first second : List Step) :
    session.run (first ++ second) =
      ((session.run first).1 ++ ((session.run first).2.run second).1,
        ((session.run first).2.run second).2) := by
  induction first generalizing session with
  | nil => rfl
  | cons step rest ih =>
    rw [List.cons_append, run_cons, run_cons, ih]
    rfl

theorem run_split (session : Session) (before after : List Step) (step : Step) :
    (session.run (before ++ step :: after)).2 =
      (((session.run before).2.step step).2.run after).2 := by
  rw [run_append, run_cons]

/-- What each of the steps preserves is preserved by all of them. -/
theorem run_preserves {P : Session → Prop} {steps : List Step}
    (hstep : ∀ session, ∀ step ∈ steps, P session → P (session.step step).2) {session : Session}
    (hstart : P session) : P (session.run steps).2 := by
  induction steps generalizing session with
  | nil => exact hstart
  | cons step rest ih =>
    have hrest : ∀ session, ∀ later ∈ rest, P session → P (session.step later).2 := by
      intro session later hmem
      exact hstep session later (List.mem_cons_of_mem step hmem)
    exact ih hrest (hstep session step List.mem_cons_self hstart)

/-- The handlers of a session are those that its steps registered, in the order of the steps. -/
theorem handlers_run (session : Session) (steps : List Step) :
    (session.run steps).2.handlers = session.handlers ++ steps.filterMap Step.handler? := by
  induction steps generalizing session with
  | nil => exact (List.append_nil session.handlers).symm
  | cons step rest ih =>
    rw [run_cons, ih, handlers_step, List.append_assoc]
    cases hregistered : step.handler? <;> simp [hregistered]

theorem codebase_run (session : Session) (steps : List Step) :
    (session.run steps).2.codebase = session.codebase := by
  induction steps generalizing session with
  | nil => rfl
  | cons step rest ih =>
    rw [run_cons, ih, codebase_step]

/-- The engines after a run are those before it and those that its steps set up, in this order. -/
theorem enginesOf_run (session : Session) (steps : List Step) :
    enginesOf (session.run steps).2.handlers =
      enginesOf session.handlers ++ steps.filterMap Step.engine? := by
  rw [handlers_run, enginesOf_append]
  congr 1
  rw [enginesOf, List.filterMap_filterMap]
  congr 1
  funext step
  exact step.bind_handler?

end ServiceWiring.Session
