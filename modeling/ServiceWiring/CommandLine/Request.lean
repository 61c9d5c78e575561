import ServiceWiring.CommandLine.Options
import ServiceWiring.Path

/-!
What a command line asks for: one of the three commands, help, or nothing that can be done.
-/

namespace ServiceWiring.CommandLine

inductive Command where
  /-- Lists the services of the first of the dumps that is a file. -/
  | services (dumps : List Path)
  /-- Looks a service up, on behalf of a class if one is given. -/
  | lookup (dump : Path) (id : String) (context : Option String)
  | checkName (name : String) (parameter : Bool)
deriving DecidableEq, Repr

def Command.dumps : Command → List Path
  | .services dumps => dumps
  | .lookup dump _ _ => [dump]
  | .checkName _ _ => []

inductive Request where
  | run (command : Command) (marked : Bool)
  | help
  | misuse
deriving DecidableEq, Repr

def helpFlag : String := "--help"

def commonFlags : List String := [helpFlag, "--emoji", "--no-emoji"]

/-- The options in front of the command. -/
def rootOptions : Options where
  flags := [helpFlag]
  interspersed := false

def optionsOf? : String → Option Options
  | "services" => some { flags := commonFlags }
  | "lookup" => some { flags := commonFlags, valued := ["--context"] }
  | "check-name" => some { flags := "--parameter" :: commonFlags }
  | _ => none

def commandOf? (name : String) (reading : Reading) : Option Command :=
  match name, reading.positional with
  | "services", first :: more => some (.services ((first :: more).map Path.ofString))
  | "lookup", [dump, id] => some (.lookup (Path.ofString dump) id (reading.lastValue? "--context"))
  | "check-name", [subject] => some (.checkName subject (reading.has "--parameter"))
  | _, _ => none

/-- What the arguments of a command ask for; help goes before a wrong number of arguments. -/
def Request.ofReading (name : String) (reading : Reading) : Request :=
  if reading.has helpFlag then .help
  else match commandOf? name reading with
    | some command => .run command (reading.isOn "--emoji" "--no-emoji")
    | none => .misuse

def Request.ofArguments (arguments : List String) : Request :=
  match rootOptions.read? arguments with
  | none => .misuse
  | some root =>
    if root.has helpFlag then .help
    else match root.positional with
      | [] => .misuse
      | name :: rest =>
        match optionsOf? name with
        | none => .misuse
        | some options =>
          match options.read? rest with
          | none => .misuse
          | some reading => .ofReading name reading

end ServiceWiring.CommandLine
