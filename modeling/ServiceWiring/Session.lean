import ServiceWiring.Dispatch
import ServiceWiring.Dump.Loading
import ServiceWiring.Text.Quoted

/-!
Sessions: an analysis as a sequence of steps that set engines up, register handlers, raise events
and ask questions. A step that is refused is an answer like others: the session goes on.
-/

namespace ServiceWiring

/-- A service of a listing with its visibility still unread. -/
structure ListedService where
  id : String
  className : Option String := none
  /-- The label of the visibility, `private` if none is given. -/
  visibility : Option String := none
deriving DecidableEq, Repr

inductive Source where
  | absent
  /-- The text of a container dump. -/
  | document (text : String)
  | listing (services : List ListedService) (classNames : Option (List String))
deriving DecidableEq, Repr

inductive Session.Step where
  | setUp (source : Source)
  | askServiceClass (name : String)
  /-- Registers a handler with a fixed opinion. -/
  | subscribe (kind : String) (opinion : Option String)
  | countHandlers (kind : String)
  | visit (className file : String)
  | populate
  /-- Analyses a call, of which the type `candidate` is already known. -/
  | call (site : CallSite) (candidate : Option String)
  | report (report : IssueReport)
  /-- Raises an event of a type that is not known. -/
  | foreign (typeName : String)
  | offer (issue : Issue) (suppressed : List String)
  | countIssues
  | countByKind
  | listIssues
  | clear

inductive Session.Answer where
  | ready (degraded : Bool) (serviceKeys : List String) (announcement : String)
  | flag (value : Bool)
  | number (value : Nat)
  | visited (verdict : Verdict) (scanQueue : List String) (references : Table (Table String))
  | populated (verdict : Verdict) (classes : List ClassRecord)
  | analyzed (verdict : Verdict) (findings : Findings)
  | verdict (verdict : Verdict)
  | kinds (counts : List (IssueKind × Nat))
  | issues (issues : List Issue)

inductive Session.Refusal where
  | unknownKind (text : String)
  | unknownVerdict (text : String)
  | unknownVisibility (text : String)
  | unsupportedEvent (typeName : String)
  | dump (failure : Dump.Failure)
deriving DecidableEq, Repr

def Session.Refusal.message : Session.Refusal → String
  | .unknownKind text => Text.quoted text ++ " is not a valid EventKind"
  | .unknownVerdict text => Text.quoted text ++ " is not a valid Verdict"
  | .unknownVisibility text => Text.quoted text ++ " is not a valid Visibility"
  | .unsupportedEvent typeName => "unsupported host event: " ++ typeName
  | .dump failure => failure.summary

structure Session where
  codebase : Codebase := {}
  host : Host := {}
  log : IssueLog := {}
  /-- The handlers in the order of their registration. -/
  handlers : List Handler := []
  /-- The engine that was set up last. -/
  engine : Engine := .degraded

namespace Session

def readService (listed : ListedService) : Except Refusal Service :=
  match listed.visibility with
  | none => .ok ⟨listed.id, listed.className, .internal⟩
  | some label =>
    match Visibility.ofLabel? label with
    | some visibility => .ok ⟨listed.id, listed.className, visibility⟩
    | none => .error (.unknownVisibility label)

def engineFor : Source → Except Refusal Engine
  | .absent => .ok .degraded
  | .document text => do
    let dump ← (Dump.ofText Dump.textSource text).mapError .dump
    return .ofRegistry dump.registry
  | .listing services classNames => do
    let services ← services.mapM readService
    return .ofRegistry (Listing.ofServices services classNames).registry

def readKind (label : String) : Except Refusal EventKind :=
  match EventKind.ofLabel? label with
  | some kind => .ok kind
  | none => .error (.unknownKind label)

def readOpinion : Option String → Except Refusal (Option Verdict)
  | none => .ok none
  | some label =>
    match Verdict.ofLabel? label with
    | some verdict => .ok (some verdict)
    | none => .error (.unknownVerdict label)

def countHandlers (session : Session) (kind : EventKind) : Nat :=
  (handlersOf session.handlers kind).length

def register (session : Session) (handler : Handler) : Session :=
  { session with handlers := session.handlers ++ [handler] }

/-- What a step does to the session until it answers or is refused. Nothing is undone by a
refusal. -/
abbrev Attempt := EStateM Refusal Session

/-- Raises an event; gives the verdict and the type known afterwards. -/
def raise (event : Event) (candidate : Option String) : Attempt (Verdict × Option String) := do
  let session ← get
  let (verdict, scene) := dispatch session.codebase session.handlers event
    ⟨session.host, session.log, candidate⟩
  set { session with host := scene.host, log := scene.log }
  return (verdict, scene.candidate)

/-- What a call has brought: the type known for it, and what was added to the host's classes and to
the log since `before`. -/
def findingsSince (before after : Session) (candidate : Option String) : Findings where
  candidate := candidate
  classes := after.host.knownClasses.drop before.host.knownClasses.length
  issues := before.log.addedIn after.log

def attempt : Step → Attempt Answer
  | .setUp source => do
    let engine ← MonadExcept.ofExcept (engineFor source)
    modify fun session => { session.register (.engine engine) with engine := engine }
    return .ready engine.isDegraded engine.sortedKeys engine.announcement
  | .askServiceClass name => return .flag ((← get).engine.isServiceClass name)
  | .subscribe label opinion => do
    let opinion ← MonadExcept.ofExcept (readOpinion opinion)
    let kind ← MonadExcept.ofExcept (readKind label)
    modify (·.register (.fixed kind opinion))
    return .number ((← get).countHandlers kind)
  | .countHandlers label => do
    let kind ← MonadExcept.ofExcept (readKind label)
    return .number ((← get).countHandlers kind)
  | .visit className file => do
    let (verdict, _) ← raise (.classVisited className file) none
    let host := (← get).host
    return .visited verdict host.scanQueue host.references
  | .populate => do
    let (verdict, _) ← raise .codebasePopulated none
    return .populated verdict (← get).host.classes
  | .call site candidate => do
    let before ← get
    let (verdict, candidate) ← raise (.callAnalyzed site) candidate
    return .analyzed verdict (findingsSince before (← get) candidate)
  | .report report => do
    let (verdict, _) ← raise (.issueReported report) none
    return .verdict verdict
  | .foreign typeName => throw (.unsupportedEvent typeName)
  | .offer issue suppressed => do
    let (accepted, log) := (← get).log.offer issue suppressed
    modify ({ · with log := log })
    return .flag accepted
  | .countIssues => return .number (← get).log.count
  | .countByKind => return .kinds (← get).log.byKind
  | .listIssues => return .issues (← get).log.issues
  | .clear => do
    modify ({ · with log := {} })
    return .number (← get).log.count

/-- Takes a step: its answer, or why it is refused, and the session after it. -/
def step (session : Session) (step : Step) : Except Refusal Answer × Session :=
  match (attempt step).run session with
  | .ok answer next => (.ok answer, next)
  | .error refusal next => (.error refusal, next)

def run (session : Session) : List Step → List (Except Refusal Answer) × Session
  | [] => ([], session)
  | first :: rest =>
    let (answer, next) := session.step first
    let (answers, last) := next.run rest
    (answer :: answers, last)

end Session

end ServiceWiring
