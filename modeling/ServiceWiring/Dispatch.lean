import ServiceWiring.Engine.Inspection
import ServiceWiring.Event
import ServiceWiring.Host
import ServiceWiring.IssueLog

/-!
Handlers of events, and the dispatch of an event to all handlers of its kind in the order in which
they were registered. An event is suppressed if one of them vetoes it; a veto keeps no other
handler from running.
-/

namespace ServiceWiring

structure Scene where
  host : Host
  log : IssueLog
  /-- The class that the analysed call returns, as far as it is known. -/
  candidate : Option String := none

/-- Takes over the findings about a call; each issue is offered to the log. -/
def Scene.adopt (scene : Scene) (findings : Findings) (suppressed : List String) : Scene where
  host := scene.host.know findings.classes
  log := findings.issues.foldl (fun log issue => (log.offer issue suppressed).2) scene.log
  candidate := findings.candidate

namespace Engine

def possiblyUnusedMethod : String := "PossiblyUnusedMethod"

def constructorName : String := "__construct"

/-- The class in the key of a constructor; any other key stands for itself. -/
def constructedClass (key : String) : String :=
  let mark := ("::" ++ constructorName).toList
  let cs := key.toList
  if mark.isSuffixOf cs then String.ofList (cs.take (cs.length - mark.length)) else key

/-- Whether the engine vetoes a report: services are constructed by the container, so their
constructors are in use. -/
def vetoes (engine : Engine) (report : IssueReport) : Bool :=
  report.kind == possiblyUnusedMethod && report.selectedText == some constructorName &&
    report.dupeKey.any fun key => engine.isServiceClass (constructedClass key)

/-- Lets the file that declares a container type refer to the classes of all services. -/
def visit (engine : Engine) (className file : String) (host : Host) : Host :=
  if engine.isDegraded || !isContainerType className then host
  else host.refer file engine.classNames

def respond (engine : Engine) (codebase : Codebase) (event : Event) (scene : Scene) : Scene :=
  match event with
  | .classVisited className file =>
    { scene with host := engine.visit className file scene.host }
  | .codebasePopulated => { scene with host := scene.host.exempt engine.isServiceClass }
  | .callAnalyzed site =>
    scene.adopt (engine.inspect codebase site scene.candidate) site.suppressed
  | .issueReported _ => scene

def opinion (engine : Engine) : Event → Option Verdict
  | .issueReported report => some (if engine.vetoes report then .suppressed else .noOpinion)
  | _ => none

end Engine

/-- A registered handler: an engine, which hears of every event, or one that gives a fixed opinion
on the events of a kind. -/
inductive Handler where
  | engine (engine : Engine)
  | fixed (kind : EventKind) (opinion : Option Verdict)

namespace Handler

def hears (handler : Handler) (kind : EventKind) : Bool :=
  match handler with
  | .engine _ => true
  | .fixed own _ => own == kind

def respond (handler : Handler) (codebase : Codebase) (event : Event) (scene : Scene) : Scene :=
  match handler with
  | .engine own => own.respond codebase event scene
  | .fixed _ _ => scene

def opinion (handler : Handler) (event : Event) : Option Verdict :=
  match handler with
  | .engine own => own.opinion event
  | .fixed _ given => given

end Handler

/-- The verdict of several opinions: one veto suppresses. -/
def Verdict.ofOpinions (opinions : List (Option Verdict)) : Verdict :=
  if opinions.contains (some .suppressed) then .suppressed else .noOpinion

def handlersOf (handlers : List Handler) (kind : EventKind) : List Handler :=
  handlers.filter (·.hears kind)

/-- Runs the handlers of an event one after the other, and gives their common verdict. -/
def dispatch (codebase : Codebase) (handlers : List Handler) (event : Event) (scene : Scene) :
    Verdict × Scene :=
  let hearing := handlersOf handlers event.kind
  (.ofOpinions (hearing.map (·.opinion event)),
   hearing.foldl (fun scene handler => handler.respond codebase event scene) scene)

end ServiceWiring
