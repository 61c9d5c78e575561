import ServiceWiring.Proofs.Sessions

/-!
The order of events does not matter. Events of different kinds read and write different parts of a
session, and a call reads none of what any event writes. Calls and visits only append to what they
write, so two of them differ in the order of what they append and in nothing else.
-/

namespace ServiceWiring

section Footprints

variable {handlers : List Handler} {className file : String} {host : Host}

theorem visited_exempt (p : String → Bool) :
    visited handlers className file (host.exempt p) =
      (visited handlers className file host).exempt p := by
  unfold visited
  split <;> rfl

theorem visited_know (classNames : List String) :
    visited handlers className file (host.know classNames) =
      (visited handlers className file host).know classNames := by
  unfold visited
  split <;> rfl

theorem classes_visited : (visited handlers className file host).classes = host.classes := by
  unfold visited
  split <;> rfl

theorem visited_of_plain (hplain : isContainerType className = false) :
    visited handlers className file host = host := by
  simp [visited, hplain]

theorem get?_refer_comm {first second asked : String} {classNames : List String} :
    ((host.refer first classNames).refer second classNames).references.get? asked =
      ((host.refer second classNames).refer first classNames).references.get? asked := by
  by_cases hsame : first = second
  · rw [hsame]
  · have hother : ¬ second = first := fun h => hsame h.symm
    by_cases hfirst : asked = first
    · simp [Host.refer, hfirst, hsame]
    · by_cases hsecond : asked = second
      · simp [Host.refer, hsecond, hother]
      · simp [Host.refer, hfirst, hsecond]

/-- Two visits, in either order, refer each file to the same classes and queue the same classes. -/
theorem visited_visited (handlers : List Handler) (className file otherName otherFile : String)
    (host : Host) :
    let forth := visited handlers otherName otherFile (visited handlers className file host)
    let back := visited handlers className file (visited handlers otherName otherFile host)
    (∀ asked, forth.references.get? asked = back.references.get? asked) ∧
      forth = { back with references := forth.references } := by
  cases hname : isContainerType className with
  | false => simp [visited_of_plain hname]
  | true =>
    cases hother : isContainerType otherName with
    | false => simp [visited_of_plain hother]
    | true =>
      cases hregistry : (enginesOf handlers).any (!·.isDegraded) with
      | false => simp [visited, hname, hother, hregistry]
      | true =>
        simp only [visited, hname, hother, hregistry, Bool.and_self, if_true]
        refine ⟨fun asked => get?_refer_comm, ?_⟩
        simp [Host.refer]

end Footprints

namespace Session

/-- In either order both steps are answered alike and lead to the same session. -/
def Commute (session : Session) (first second : Step) : Prop :=
  ∃ answer other last, session.run [first, second] = ([answer, other], last) ∧
    session.run [second, first] = ([other, answer], last)

variable {session : Session}

theorem Commute.symm {first second : Step} (h : session.Commute first second) :
    session.Commute second first := by
  obtain ⟨answer, other, last, hforth, hback⟩ := h
  exact ⟨other, answer, last, hback, hforth⟩

/-- Two steps commute if neither answer depends on the other step and the sessions agree. -/
theorem commute_of_steps {first second : Step}
    (hsecond : ((session.step first).2.step second).1 = (session.step second).1)
    (hfirst : ((session.step second).2.step first).1 = (session.step first).1)
    (hlast : ((session.step first).2.step second).2 = ((session.step second).2.step first).2) :
    session.Commute first second := by
  refine ⟨(session.step first).1, (session.step second).1,
    ((session.step first).2.step second).2, ?_, ?_⟩
  · rw [run_cons, run_cons, hsecond]
    rfl
  · rw [run_cons, run_cons, hfirst, hlast]
    rfl

/-- A visit changes the references and the queue, the complete codebase the exemptions. -/
theorem commute_visit_populate (className file : String) :
    session.Commute (.visit className file) .populate := by
  apply commute_of_steps
  · simp [step_visit, step_populate, Host.exempt, classes_visited]
  · simp only [step_visit, step_populate, visited_exempt]
    rfl
  · simp only [step_visit, step_populate, visited_exempt]

theorem commute_visit_call (className file : String) (site : CallSite)
    (candidate : Option String) :
    session.Commute (.visit className file) (.call site candidate) := by
  apply commute_of_steps
  · simp only [step_visit, step_call]
  · simp only [step_visit, step_call, extended, visited_know]
    rfl
  · simp only [step_visit, step_call, extended, visited_know]

theorem commute_populate_call (site : CallSite) (candidate : Option String) :
    session.Commute .populate (.call site candidate) := by
  apply commute_of_steps
  · simp only [step_populate, step_call]
  · simp only [step_populate, step_call, extended]
    rfl
  · simp only [step_populate, step_call, extended]
    rfl

theorem handlers_of_raises {step : Step} {kind : EventKind} (hraises : step.Raises kind) :
    (session.step step).2.handlers = session.handlers := by
  rw [handlers_step, handler?_of_raises hraises]
  exact List.append_nil session.handlers

theorem commute_report {step : Step} {kind : EventKind} (hraises : step.Raises kind)
    (report : IssueReport) : session.Commute step (.report report) := by
  apply commute_of_steps
  · simp only [step_report, handlers_of_raises hraises]
  · simp only [step_report]
  · simp only [step_report]

/-- Events of different kinds may change places. -/
theorem commute_of_raises {first second : Step} {kind other : EventKind}
    (hfirst : first.Raises kind) (hsecond : second.Raises other) (hkinds : kind ≠ other) :
    session.Commute first second := by
  -- events of one kind are excluded, and the others come in pairs that are proved one way round
  cases hfirst with
  | visit =>
    cases hsecond with
    | visit => exact absurd rfl hkinds
    | populate => exact commute_visit_populate _ _
    | call => exact commute_visit_call _ _ _ _
    | report => exact commute_report .visit _
  | populate =>
    cases hsecond with
    | visit => exact (commute_visit_populate _ _).symm
    | populate => exact absurd rfl hkinds
    | call => exact commute_populate_call _ _
    | report => exact commute_report .populate _
  | call =>
    cases hsecond with
    | visit => exact (commute_visit_call _ _ _ _).symm
    | populate => exact (commute_populate_call _ _).symm
    | call => exact absurd rfl hkinds
    | report => exact commute_report .call _
  | report =>
    cases hsecond with
    | visit => exact (commute_report .visit _).symm
    | populate => exact (commute_report .populate _).symm
    | call => exact (commute_report .call _).symm
    | report => exact absurd rfl hkinds

/-- What a call is answered depends on the codebase and the handlers only, and events leave both as
they are. -/
theorem step_call_after_events {events : List Step}
    (hevents : ∀ event ∈ events, ∃ kind, event.Raises kind) (site : CallSite)
    (candidate : Option String) :
    ((session.run events).2.step (.call site candidate)).1 =
      (session.step (.call site candidate)).1 := by
  have hnone : events.filterMap Step.handler? = [] := by
    rw [List.filterMap_eq_nil_iff]
    intro event hmem
    obtain ⟨kind, hraises⟩ := hevents event hmem
    exact handler?_of_raises hraises
  have hhandlers : (session.run events).2.handlers = session.handlers := by
    rw [handlers_run, hnone, List.append_nil]
  simp only [step_call, codebase_run, hhandlers]

theorem run_two_calls (session : Session) (site otherSite : CallSite)
    (candidate otherCandidate : Option String) :
    session.run [.call site candidate, .call otherSite otherCandidate] =
      let findings := jointFindings session.codebase session.handlers site candidate
      let otherFindings :=
        jointFindings session.codebase session.handlers otherSite otherCandidate
      ([.ok (.analyzed (verdictOf session.handlers (.callAnalyzed site)) findings),
        .ok (.analyzed (verdictOf session.handlers (.callAnalyzed otherSite)) otherFindings)],
        session.extended (findings.classes ++ otherFindings.classes)
          (findings.issues ++ otherFindings.issues)) := by
  simp only [run, step_call]
  simp [extended, Host.know]

theorem run_two_visits (session : Session) (className file otherName otherFile : String) :
    (session.run [.visit className file, .visit otherName otherFile]).2 =
      { session with
        host := visited session.handlers otherName otherFile
          (visited session.handlers className file session.host) } := by
  simp only [run, step_visit]

/-- From any session on, events of different kinds commute: the answers and the session at the end
are the same in either order. Two calls are answered alike in either order and append the same
classes and issues, each after the other; two visits leave the same queue and the same references of
each file. So no events that came before have any bearing on what a call is answered. -/
theorem events_in_any_order (session : Session) :
    (∀ (first second : Step) (kind other : EventKind), first.Raises kind → second.Raises other →
      kind ≠ other → session.Commute first second) ∧
    (∀ (site otherSite : CallSite) (candidate otherCandidate : Option String),
      ∃ verdict findings otherVerdict otherFindings,
        session.run [.call site candidate, .call otherSite otherCandidate] =
          ([.ok (.analyzed verdict findings), .ok (.analyzed otherVerdict otherFindings)],
            session.extended (findings.classes ++ otherFindings.classes)
              (findings.issues ++ otherFindings.issues)) ∧
        session.run [.call otherSite otherCandidate, .call site candidate] =
          ([.ok (.analyzed otherVerdict otherFindings), .ok (.analyzed verdict findings)],
            session.extended (otherFindings.classes ++ findings.classes)
              (otherFindings.issues ++ findings.issues))) ∧
    (∀ className file otherName otherFile : String,
      let forth := (session.run [.visit className file, .visit otherName otherFile]).2
      let back := (session.run [.visit otherName otherFile, .visit className file]).2
      forth.host.scanQueue = back.host.scanQueue ∧
        (∀ asked, forth.host.references.get? asked = back.host.references.get? asked) ∧
        forth = { back with host := { back.host with references := forth.host.references } }) ∧
    (∀ (events : List Step) (site : CallSite) (candidate : Option String),
      (∀ event ∈ events, ∃ kind, event.Raises kind) →
      ((session.run events).2.step (.call site candidate)).1 =
        (session.step (.call site candidate)).1) := by
  refine ⟨?_, ?_, ?_, ?_⟩
  · intro first second kind other hfirst hsecond hkinds
    exact commute_of_raises hfirst hsecond hkinds
  · intro site otherSite candidate otherCandidate
    let findings := jointFindings session.codebase session.handlers site candidate
    let otherFindings := jointFindings session.codebase session.handlers otherSite otherCandidate
    refine ⟨verdictOf session.handlers (.callAnalyzed site), findings,
      verdictOf session.handlers (.callAnalyzed otherSite), otherFindings, ?_, ?_⟩
    · rw [run_two_calls]
    · rw [run_two_calls]
  · intro className file otherName otherFile
    obtain ⟨hreferences, hrest⟩ := visited_visited session.handlers className file otherName
      otherFile session.host
    have hqueue := congrArg Host.scanQueue hrest
    simp only [run_two_visits]
    refine ⟨hqueue, hreferences, ?_⟩
    exact congrArg (fun host => { session with host := host }) hrest
  · intro events site candidate hevents
    exact step_call_after_events hevents site candidate

/-- A controller is visited, its codebase populated and a call in it analysed: the call fetches an
internal service, and is reported wherever it stands in this order. -/
theorem controller_events_in_any_order :
    let session : Session :=
      { handlers := [.engine (.ofRegistry
          ⟨fun id _ => some ⟨id, some "Logger", .internal⟩, ["Logger"]⟩)] }
    let site : CallSite :=
      { methodId := "Psr\\Container\\ContainerInterface::get"
        arguments := [.given (.literal none "logger") false none]
        file := "a.php" }
    session.Commute (.visit "Psr\\Container\\ContainerInterface" "a.php") (.call site none) ∧
      ((session.run [.visit "Psr\\Container\\ContainerInterface" "a.php", .populate]).2.step
        (.call site none)).1 =
          .ok (.analyzed .noOpinion
            ⟨some "Logger", ["Logger"], [.privateService "logger" { file := "a.php" }]⟩) := by
  intro session site
  obtain ⟨hkinds, -, -, hcalls⟩ := events_in_any_order session
  have hfindings : jointFindings session.codebase session.handlers site none =
      ⟨some "Logger", ["Logger"], [.privateService "logger" { file := "a.php" }]⟩ := by
    decide +kernel
  refine ⟨hkinds _ _ _ _ .visit .call (by decide), ?_⟩
  rw [hcalls]
  · rw [step_call, hfindings]
    rfl
  · intro event hmem
    simp only [List.mem_cons, List.not_mem_nil, or_false] at hmem
    rcases hmem with rfl | rfl
    · exact ⟨_, .visit⟩
    · exact ⟨_, .populate⟩

end Session

end ServiceWiring
