import ServiceWiring.CommandLine.Request
import ServiceWiring.Console.Message
import ServiceWiring.Dump.Loading
import ServiceWiring.Naming

/-!
Execution of commands. A command gives messages and an exit code: 0 if all went well, 1 if a name
or a service is at fault, 2 if the arguments are wrong or no dump can be loaded.
-/

namespace ServiceWiring.CommandLine

open Console

inductive Piece where
  | message (tone : Tone) (text : String)
  /-- A table as it was drawn. -/
  | table (drawn : String)
deriving DecidableEq, Repr

structure Outcome where
  pieces : List Piece := []
  exitCode : Nat
  interruption : Option Interruption := none
deriving DecidableEq, Repr

namespace Outcome

/-- Nothing printed, with the exit code of wrong usage. -/
def misuse : Outcome := { exitCode := 2 }

/-- An interruption leaves nothing printed. -/
def interrupted (cause : Interruption) : Outcome := { exitCode := 1, interruption := some cause }

def ofHalt : Halt Dump.Failure → Outcome
  | .failed failure => { pieces := [.message .fail failure.message], exitCode := 2 }
  | .interrupted cause => .interrupted cause

end Outcome

/-- The outcome of an argument that is not taken for a path: no path has a NUL character in it, and
what is there has to be open to reading. -/
def argumentFault? (tree : FileTree) (path : Path) : Option Outcome :=
  if path.hasNul then some (.interrupted .nulInPath)
  else if tree.isBarred path then some .misuse
  else none

/-- What comes of the dump in the first of the paths that is a file. All paths are looked at as
arguments before any of them is tried. -/
def withDump (tree : FileTree) (paths : List Path) (use : Dump → Outcome) : Outcome :=
  match paths.findSome? (argumentFault? tree) with
  | some fault => fault
  | none =>
    match Dump.ofPaths tree paths with
    | .ok dump => use dump
    | .error halt => .ofHalt halt

def servicesGrid (services : List Service) : Grid where
  title := "Container services"
  heading := ["Service", "Class", "Visibility"]
  rows := services.map fun service =>
    [service.id, service.namedClass?.getD "-", service.visibility.label]

/-- The table comes first: if it cannot be drawn nothing is printed. -/
def listServices (screen : Screen) (dump : Dump) : Outcome :=
  match screen.draw (servicesGrid dump.services) with
  | none => .interrupted .undrawable
  | some drawn =>
    { pieces :=
        [.table drawn,
         .message .info (toString dump.services.length ++ " services, " ++
           toString dump.classNames.length ++ " classes")]
      exitCode := 0 }

def unconventional (name : String) : String :=
  "\"" ++ name ++ "\" does not follow the snake_case naming convention"

def spellingPieces (id : String) : List Piece :=
  if Naming.offends id then [.message .warn (unconventional id)] else []

def describe (service : Service) : String :=
  service.id ++ " -> " ++ service.namedClass?.getD "unknown class" ++
    " (" ++ service.visibility.label ++ ")"

def lookUp (dump : Dump) (id : String) (context : Option String) : Outcome :=
  match dump.find? id context with
  | some service =>
    { pieces := spellingPieces id ++ [.message .ok (describe service)], exitCode := 0 }
  | none =>
    { pieces := spellingPieces id ++ [.message .fail ("Service \"" ++ id ++ "\" not found")]
      exitCode := 1 }

def checkName (name : String) (parameter : Bool) : Outcome :=
  let conforms :=
    if parameter then Naming.isConventionalParameter name else Naming.isConventional name
  if Naming.isNamespaced name then
    { pieces := [.message .info ("\"" ++ name ++ "\" is a class name and is not checked")]
      exitCode := 0 }
  else if conforms then
    { pieces := [.message .ok ("\"" ++ name ++ "\" follows the naming convention")], exitCode := 0 }
  else { pieces := [.message .fail (unconventional name)], exitCode := 1 }

def execute (tree : FileTree) (screen : Screen) : Command → Outcome
  | .services paths => withDump tree paths (listServices screen)
  | .lookup path id context => withDump tree [path] (lookUp · id context)
  | .checkName name parameter => checkName name parameter

def usage : String :=
  "services DUMP... | lookup DUMP ID [--context CLASS] | check-name NAME [--parameter]"

def respond (tree : FileTree) (screen : Screen) (arguments : List String) : Outcome :=
  match Request.ofArguments arguments with
  | .run command _ => execute tree screen command
  | .help => { pieces := [.message .info usage], exitCode := 0 }
  | .misuse => .misuse

def wantsMarks (arguments : List String) : Bool :=
  match Request.ofArguments arguments with
  | .run _ marked => marked
  | _ => false

def printed (screen : Screen) (style : Style) : Piece → String
  | .message tone text => message screen style tone text
  | .table drawn => drawn

def output (tree : FileTree) (screen : Screen) (terminal : Bool) (arguments : List String) :
    String :=
  let style : Style := { marked := wantsMarks arguments, terminal := terminal }
  String.join ((respond tree screen arguments).pieces.map (printed screen style))

end ServiceWiring.CommandLine
