import ServiceWiring.CommandLine.Execution

/-!
The program. It reads the files that its arguments name, carries the command out and prints what
comes of it; wrong usage and interruptions are reported on the error stream.
-/

namespace ServiceWiring.CommandLine

/-- The number of a failure, which some calls give negated. -/
def numberOf (code : UInt32) : Nat := min code.toNat (-code).toNat

/-- An error as the failure of a call of the system; errors of any other kind have no number. -/
def failureOf : IO.Error → SystemFailure
  | .noFileOrDirectory _ code reason
  | .alreadyExists _ code reason
  | .inappropriateType _ code reason
  | .interrupted _ code reason
  | .invalidArgument _ code reason
  | .noSuchThing _ code reason
  | .permissionDenied _ code reason
  | .resourceExhausted _ code reason
  | .hardwareFault code reason
  | .illegalOperation code reason
  | .otherError code reason
  | .protocolError code reason
  | .resourceBusy code reason
  | .resourceVanished code reason
  | .timeExpired code reason
  | .unsatisfiedConstraints code reason
  | .unsupportedOperation code reason => { code := numberOf code, reason := reason }
  | failure => { code := 0, reason := toString failure, namesPath := false }

def attempt {α : Type} (action : IO α) : IO (Except SystemFailure α) := do
  try
    return .ok (← action)
  catch failure => return .error (failureOf failure)

def kindOf (path : Path) : IO IO.FS.FileType := do
  let entry : IO.FS.DirEntry := ⟨".", path.toString⟩
  return (← entry.path.metadata).type

/-- What the system says of some paths, asked beforehand. -/
def snapshot (paths : List Path) : IO FileTree := do
  let found ← paths.mapM fun path => do
    let kind ← attempt (kindOf path)
    -- a pipe would keep the program waiting, and no command reads one
    let content ←
      if kind.toOption == some .other then pure (.error .missing)
      else attempt (IO.FS.readBinFile path.toString)
    return (path, kind.map (· == .file), content)
  return {
    isRegular := fun path => ((found.lookup path).map (·.1)).getD (.error .missing)
    content := fun path => ((found.lookup path).map (·.2)).getD (.error .missing) }

def interruptionText : Interruption → String
  | .undecodable => "the file is not UTF-8"
  | .nulInPath => "a path has a NUL character in it"
  | .oversizedNumeral digits => "a numeral has " ++ toString digits ++ " digits"
  | .untestable path failure => failure.message path
  | .undrawable => "a cell of the table has markup that makes no sense"

end ServiceWiring.CommandLine

open ServiceWiring.CommandLine in
def main (arguments : List String) : IO UInt32 := do
  let dumps :=
    match Request.ofArguments arguments with
    | .run command _ => command.dumps
    | _ => []
  let tree ← snapshot dumps
  let outcome := respond tree .plain arguments
  IO.print (output tree .plain (← (← IO.getStdout).isTty) arguments)
  if outcome = .misuse then IO.eprintln usage
  if let some cause := outcome.interruption then IO.eprintln (interruptionText cause)
  return UInt32.ofNat outcome.exitCode
