import ServiceWiring.Proofs.Labels
import ServiceWiring.Proofs.Sessions

/-!
The rounds that events make among handlers. Setting up and subscribing add one handler each to the
end of the list, and a step that is refused leaves everything as it was. An event calls on every
handler of its kind, once and in the order of registration, whatever the ones before it said; it is
suppressed if one of them says so.
-/

namespace ServiceWiring

/-- An event makes its round: each handler that hears of it gives its opinion and acts on the scene
as the handlers before it left it, and all other handlers are passed over. -/
inductive Round (codebase : Codebase) (event : Event) :
    List Handler → Scene → List (Option Verdict) → Scene → Prop
  | done {scene : Scene} : Round codebase event [] scene [] scene
  | heard {handler : Handler} {rest : List Handler} {scene last : Scene}
      {opinions : List (Option Verdict)} : handler.hears event.kind = true →
      Round codebase event rest (handler.respond codebase event scene) opinions last →
      Round codebase event (handler :: rest) scene (handler.opinion event :: opinions) last
  | passed {handler : Handler} {rest : List Handler} {scene last : Scene}
      {opinions : List (Option Verdict)} : handler.hears event.kind = false →
      Round codebase event rest scene opinions last →
      Round codebase event (handler :: rest) scene opinions last

theorem round_dispatch (codebase : Codebase) (event : Event) (handlers : List Handler)
    (scene : Scene) :
    Round codebase event handlers scene
      ((handlersOf handlers event.kind).map (·.opinion event))
      (dispatch codebase handlers event scene).2 := by
  induction handlers generalizing scene with
  | nil => exact .done
  | cons handler rest ih =>
    cases hhears : handler.hears event.kind with
    | true =>
      have hround := Round.heard hhears (ih (handler.respond codebase event scene))
      simpa [dispatch, handlersOf, hhears] using hround
    | false =>
      have hround := Round.passed hhears (ih scene)
      simpa [dispatch, handlersOf, hhears] using hround

/-- An event is vetoed exactly if one of the handlers that hear of it vetoes it. -/
theorem verdictOf_eq_suppressed_iff {handlers : List Handler} {event : Event} :
    verdictOf handlers event = .suppressed ↔
      ∃ handler ∈ handlersOf handlers event.kind, handler.opinion event = some .suppressed := by
  simp [verdictOf, Verdict.ofOpinions]

theorem Verdict.eq_noOpinion_of_ne {verdict : Verdict} (hne : verdict ≠ .suppressed) :
    verdict = .noOpinion := by
  cases verdict with
  | suppressed => exact absurd rfl hne
  | noOpinion => rfl

/-- More handlers of a kind can only turn the verdict into a veto. -/
theorem verdictOf_suppressed_of_subset {handlers more : List Handler} {event : Event}
    (hsubset : handlersOf handlers event.kind ⊆ handlersOf more event.kind)
    (hsuppressed : verdictOf handlers event = .suppressed) :
    verdictOf more event = .suppressed := by
  obtain ⟨handler, hmem, hopinion⟩ := verdictOf_eq_suppressed_iff.1 hsuppressed
  exact verdictOf_eq_suppressed_iff.2 ⟨handler, hsubset hmem, hopinion⟩

theorem verdictOf_of_subset {handlers more : List Handler} {event : Event}
    (hsubset : handlersOf handlers event.kind ⊆ handlersOf more event.kind) :
    verdictOf more event = verdictOf handlers event ∨
      verdictOf handlers event = .noOpinion ∧ verdictOf more event = .suppressed := by
  rcases Classical.em (verdictOf handlers event = .suppressed) with hsuppressed | hopen
  · left
    rw [hsuppressed, verdictOf_suppressed_of_subset hsubset hsuppressed]
  · have hbefore := Verdict.eq_noOpinion_of_ne hopen
    rcases Classical.em (verdictOf more event = .suppressed) with hafter | hafter
    · exact .inr ⟨hbefore, hafter⟩
    · left
      rw [hbefore, Verdict.eq_noOpinion_of_ne hafter]

/-- The order of the handlers does not matter for the verdict. -/
theorem verdictOf_of_perm {handlers others : List Handler} {event : Event}
    (hperm : (handlersOf handlers event.kind).Perm (handlersOf others event.kind)) :
    verdictOf handlers event = verdictOf others event := by
  rcases verdictOf_of_subset hperm.subset with hsame | ⟨hbefore, hafter⟩
  · exact hsame.symm
  · have hback := verdictOf_suppressed_of_subset hperm.symm.subset hafter
    rw [hbefore] at hback
    cases hback

namespace Session

variable {label : String} {opinion : Option String} {kind : EventKind} {given : Option Verdict}
  {refusal : Refusal}

theorem readKind_eq_ok_iff : readKind label = .ok kind ↔ kind.label = label := by
  rw [← EventKind.ofLabel?_eq_some_iff, readKind]
  cases EventKind.ofLabel? label <;> simp

theorem readKind_eq_error_iff :
    readKind label = .error refusal ↔
      (∀ kind : EventKind, kind.label ≠ label) ∧ .unknownKind label = refusal := by
  simp only [ne_eq, ← EventKind.ofLabel?_eq_some_iff, ← Option.eq_none_iff_forall_ne_some, readKind]
  cases EventKind.ofLabel? label <;> simp

theorem readOpinion_eq_ok_iff :
    readOpinion opinion = .ok given ↔ given.map Verdict.label = opinion := by
  cases opinion with
  | none => cases given <;> simp [readOpinion]
  | some text =>
    simp only [Option.map_eq_some_iff, ← Verdict.ofLabel?_eq_some_iff, readOpinion]
    cases hread : Verdict.ofLabel? text <;> cases given <;> simp

theorem readOpinion_eq_error_iff :
    readOpinion opinion = .error refusal ↔
      ∃ text, opinion = some text ∧ (∀ verdict : Verdict, verdict.label ≠ text) ∧
        .unknownVerdict text = refusal := by
  cases opinion with
  | none => simp [readOpinion]
  | some text =>
    have hunknown : (∀ verdict : Verdict, verdict.label ≠ text) ↔
        Verdict.ofLabel? text = none := by
      simp only [ne_eq, ← Verdict.ofLabel?_eq_some_iff, Option.eq_none_iff_forall_ne_some]
    cases hread : Verdict.ofLabel? text <;> simp [readOpinion, hunknown, hread]

inductive Step.Registers (kind : EventKind) : Step → Handler → Prop
  | setUp {source : Source} {engine : Engine} : engineFor source = .ok engine →
      Registers kind (.setUp source) (.engine engine)
  | subscribe {given : Option Verdict} :
      Registers kind (.subscribe kind.label (given.map Verdict.label)) (.fixed kind given)

/-- The step is refused for this reason, whatever happened before it. -/
inductive Step.Refused : Step → Refusal → Prop
  | foreign {typeName : String} : Refused (.foreign typeName) (.unsupportedEvent typeName)
  | setUp {source : Source} {refusal : Refusal} : engineFor source = .error refusal →
      Refused (.setUp source) refusal
  | opinion {label text : String} : (∀ verdict : Verdict, verdict.label ≠ text) →
      Refused (.subscribe label (some text)) (.unknownVerdict text)
  | kind {label : String} {given : Option Verdict} : (∀ kind : EventKind, kind.label ≠ label) →
      Refused (.subscribe label (given.map Verdict.label)) (.unknownKind label)
  | count {label : String} : (∀ kind : EventKind, kind.label ≠ label) →
      Refused (.countHandlers label) (.unknownKind label)

def Step.event? : Step → Option Event
  | .visit className file => some (.classVisited className file)
  | .populate => some .codebasePopulated
  | .call site _ => some (.callAnalyzed site)
  | .report reported => some (.issueReported reported)
  | _ => none

def Step.candidate? : Step → Option String
  | .call _ candidate => candidate
  | _ => none

def Answer.verdict? : Answer → Option Verdict
  | .visited given _ _ | .populated given _ | .analyzed given _ | .verdict given => some given
  | _ => none

def verdictOn? (session : Session) (step : Step) : Option Verdict :=
  (session.step step).1.toOption.bind Answer.verdict?

variable {session : Session} {step : Step} {handler : Handler}

theorem registers_iff :
    step.Registers kind handler ↔ step.handler? = some handler ∧ handler.hears kind = true := by
  constructor
  · rintro (hengine | _)
    · simp [Step.handler?, hengine, Except.toOption, Handler.hears]
    · simp [Step.handler?, readOpinion_eq_ok_iff.2 rfl, readKind_eq_ok_iff.2 rfl, Handler.hears]
  · rintro ⟨hregisters, hhears⟩
    cases step with
    | setUp source =>
      cases hengine : engineFor source with
      | error refusal => simp [Step.handler?, hengine, Except.toOption] at hregisters
      | ok engine =>
        simp only [Step.handler?, hengine] at hregisters
        cases hregisters
        exact .setUp hengine
    | subscribe label opinion =>
      cases hopinion : readOpinion opinion with
      | error refusal => simp [Step.handler?, hopinion] at hregisters
      | ok given =>
        cases hkind : readKind label with
        | error refusal => simp [Step.handler?, hopinion, hkind] at hregisters
        | ok own =>
          simp only [Step.handler?, hopinion, hkind] at hregisters
          cases hregisters
          obtain rfl : own = kind := by simpa [Handler.hears] using hhears
          rw [← readOpinion_eq_ok_iff.1 hopinion, ← readKind_eq_ok_iff.1 hkind]
          exact .subscribe
    | _ => cases hregisters

/-- The handlers of a kind are those that steps registered for it, in the order of the steps. -/
theorem handlersOf_run (session : Session) (steps : List Step) (kind : EventKind) :
    handlersOf (session.run steps).2.handlers kind =
      handlersOf session.handlers kind ++
        steps.filterMap fun step => step.handler?.filter (·.hears kind) := by
  rw [handlers_run, handlersOf, List.filter_append, List.filter_filterMap]
  rfl

/-- A refused step has done nothing yet. -/
theorem step_of_refused (hrefused : step.Refused refusal) :
    session.step step = (.error refusal, session) := by
  cases hrefused with
  | foreign => rfl
  | setUp hengine =>
    simp only [Session.step, attempt, hengine]
    rfl
  | opinion hunknown =>
    have hopinion := readOpinion_eq_error_iff.2 ⟨_, rfl, hunknown, rfl⟩
    simp only [Session.step, attempt, hopinion]
    rfl
  | @kind label given hunknown =>
    have hopinion := readOpinion_eq_ok_iff.2 (rfl : given.map Verdict.label = _)
    have hkind := readKind_eq_error_iff.2 ⟨hunknown, rfl⟩
    simp only [Session.step, attempt, hopinion, hkind]
    rfl
  | count hunknown =>
    have hkind := readKind_eq_error_iff.2 ⟨hunknown, rfl⟩
    simp only [Session.step, attempt, hkind]
    rfl

/-- Whether a step is refused, and why, can be told from the step alone. -/
theorem step_eq_error_iff : (session.step step).1 = .error refusal ↔ step.Refused refusal := by
  constructor
  · intro herror
    cases step with
    | setUp source =>
      cases hengine : engineFor source with
      | error cause =>
        rw [step_of_refused (.setUp hengine)] at herror
        cases herror
        exact .setUp hengine
      | ok engine =>
        simp only [Session.step, attempt, hengine] at herror
        cases herror
    | subscribe label opinion =>
      cases hopinion : readOpinion opinion with
      | error cause =>
        obtain ⟨text, rfl, hunknown, rfl⟩ := readOpinion_eq_error_iff.1 hopinion
        rw [step_of_refused (.opinion hunknown)] at herror
        cases herror
        exact .opinion hunknown
      | ok given =>
        -- The opinion is read first, so the kind counts only if the opinion is known.
        obtain rfl := readOpinion_eq_ok_iff.1 hopinion
        cases hkind : readKind label with
        | error cause =>
          obtain ⟨hunknown, rfl⟩ := readKind_eq_error_iff.1 hkind
          rw [step_of_refused (.kind hunknown)] at herror
          cases herror
          exact .kind hunknown
        | ok kind =>
          simp only [Session.step, attempt, hopinion, hkind] at herror
          cases herror
    | countHandlers label =>
      cases hkind : readKind label with
      | error cause =>
        obtain ⟨hunknown, rfl⟩ := readKind_eq_error_iff.1 hkind
        rw [step_of_refused (.count hunknown)] at herror
        cases herror
        exact .count hunknown
      | ok kind =>
        simp only [Session.step, attempt, hkind] at herror
        cases herror
    | foreign typeName =>
      cases herror
      exact .foreign
    | _ => cases herror
  · intro hrefused
    rw [step_of_refused hrefused]

theorem step_of_event? (session : Session) {event : Event} (hevent : step.event? = some event) :
    let scene := (dispatch session.codebase session.handlers event
      ⟨session.host, session.log, step.candidate?⟩).2
    (session.step step).2 = { session with host := scene.host, log := scene.log } ∧
      session.verdictOn? step = some (verdictOf session.handlers event) := by
  cases step with
  | visit className file => cases hevent; exact ⟨rfl, rfl⟩
  | populate => cases hevent; exact ⟨rfl, rfl⟩
  | call site candidate => cases hevent; exact ⟨rfl, rfl⟩
  | report reported => cases hevent; exact ⟨rfl, rfl⟩
  | _ => cases hevent

/-- After any steps of a session, the handlers of a kind of events are those there were before, and
then one for each accepted setup and one for each accepted subscription to the kind, in the order of
the steps. A step is refused for what it asks only, and leaves all as it was. A step that raises an
event takes it round the handlers, and the verdict is a veto exactly if one of their opinions is. So
it does not depend on the order in which the handlers of its kind were registered, nor on the
others; and further handlers of its kind turn it into a veto at most. -/
theorem events_make_their_rounds (session : Session) (steps : List Step) :
    let last := (session.run steps).2
    (∀ kind, ∃ registered : Step → Option Handler,
      (∀ step handler, registered step = some handler ↔ step.Registers kind handler) ∧
      handlersOf last.handlers kind =
        handlersOf session.handlers kind ++ steps.filterMap registered ∧
      last.step (.countHandlers kind.label) =
        (.ok (.number (handlersOf last.handlers kind).length), last)) ∧
    (∀ step refusal, ((last.step step).1 = .error refusal ↔ step.Refused refusal) ∧
      (step.Refused refusal → (last.step step).2 = last)) ∧
    (∀ step event, step.event? = some event → ∃ opinions scene,
      Round last.codebase event last.handlers ⟨last.host, last.log, step.candidate?⟩ opinions
        scene ∧
      (last.step step).2 = { last with host := scene.host, log := scene.log } ∧
      last.verdictOn? step =
        some (if some .suppressed ∈ opinions then .suppressed else .noOpinion)) ∧
    (∀ (step : Step) (event : Event) (other : Session), step.event? = some event →
      ((handlersOf last.handlers event.kind).Perm (handlersOf other.handlers event.kind) →
        other.verdictOn? step = last.verdictOn? step) ∧
      (handlersOf last.handlers event.kind ⊆ handlersOf other.handlers event.kind →
        other.verdictOn? step = last.verdictOn? step ∨
          last.verdictOn? step = some .noOpinion ∧
            other.verdictOn? step = some .suppressed)) := by
  intro last
  refine ⟨?_, ?_, ?_, ?_⟩
  · intro kind
    refine ⟨fun step => step.handler?.filter (·.hears kind), ?_,
      handlersOf_run session steps kind, ?_⟩
    · intro step handler
      rw [registers_iff, Option.filter_eq_some_iff]
    · have hkind := readKind_eq_ok_iff.2 (rfl : kind.label = _)
      simp only [Session.step, attempt, hkind]
      rfl
  · intro step refusal
    refine ⟨step_eq_error_iff, ?_⟩
    intro hrefused
    rw [step_of_refused hrefused]
  · intro step event hevent
    obtain ⟨hnext, hverdict⟩ := step_of_event? last hevent
    refine ⟨_, _, round_dispatch last.codebase event last.handlers _, hnext, ?_⟩
    rw [hverdict, verdictOf, Verdict.ofOpinions]
    simp
  · intro step event other hevent
    rw [(step_of_event? last hevent).2, (step_of_event? other hevent).2]
    constructor
    · intro hperm
      rw [verdictOf_of_perm hperm]
    · intro hsubset
      rcases verdictOf_of_subset hsubset with hsame | ⟨hbefore, hafter⟩
      · exact .inl (congrArg some hsame)
      · exact .inr ⟨congrArg some hbefore, congrArg some hafter⟩

/-- A handler that vetoes all calls is registered before a container, or behind it: the verdict is
the same, and an event of no known type in between changes nothing. -/
theorem calls_vetoed_in_either_order :
    let veto : Step := .subscribe "method-call-analyzed" (some "suppressed")
    let container : Step := .setUp (.listing [⟨"mailer", some "Mailer", none⟩] none)
    let call : Step := .call
      { methodId := "Psr\\Container\\ContainerInterface::get"
        arguments := [.given (.literal none "mailer") false none], file := "a.php" } none
    let last := (({} : Session).run [veto, .foreign "int", container]).2
    let other := (({} : Session).run [container, veto]).2
    other.verdictOn? call = last.verdictOn? call ∧
      (last.step (.foreign "int")).2 = last ∧
      (last.step call).2.log.issues = [.privateService "mailer" { file := "a.php" }] := by
  intro veto container call last other
  obtain ⟨-, hrefusals, -, hverdicts⟩ :=
    events_make_their_rounds {} [veto, .foreign "int", container]
  obtain ⟨horder, -⟩ := hverdicts call _ other rfl
  exact ⟨horder (.swap _ _ []), (hrefusals _ _).2 .foreign, by decide +kernel⟩

end Session

end ServiceWiring
