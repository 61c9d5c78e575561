import ServiceWiring.Dump
import ServiceWiring.FileTree
import ServiceWiring.Halt
import ServiceWiring.Text.LineEnd
import ServiceWiring.Xml.Document

/-!
Loading a container dump: from text, from a file, or from the first of several paths that is a
file. The line ends of a file are unified while it is read, which leaves the document as it is.
-/

namespace ServiceWiring.Dump

inductive Failure where
  /-- The text from this source is no document. -/
  | malformed (source : String) (fault : Xml.Fault)
  | unreadable (path : Path) (cause : SystemFailure)
  /-- None of the paths is a file. -/
  | notFound (tried : List Path)
deriving DecidableEq, Repr

namespace Failure

/-- The paths of a message, which says so if there are none. -/
def pathList (paths : List Path) : String :=
  if paths.isEmpty then "no paths configured" else String.intercalate ", " (paths.map (·.toString))

/-- The failure in short, without the fault that was found in the document. -/
def summary : Failure → String
  | .malformed source _ => "invalid container dump " ++ source
  | .unreadable path cause =>
    "cannot read container dump " ++ path.toString ++ ": " ++ cause.message path
  | .notFound tried => "container dump not found (tried: " ++ pathList tried ++ ")"

def message (failure : Failure) : String :=
  match failure with
  | .malformed _ fault => failure.summary ++ ": " ++ fault.message
  | _ => failure.summary

end Failure

def textSource : String := "<string>"

/-- The dump that a text holds; `source` names the text in a failure. -/
def ofText (source text : String) : Except Failure Dump :=
  match Xml.Node.ofText text with
  | .ok root => .ok (ofDocument root)
  | .error fault => .error (.malformed source fault)

def ofFile (tree : FileTree) (path : Path) : Except (Halt Failure) Dump := do
  let text ← (tree.readText path).mapError (Halt.map (.unreadable path))
  (ofText path.toString (String.ofList (Text.unifyLineEnds text.toList))).mapError .failed

/-- The dump in the first of the paths that is a file. -/
def ofPaths (tree : FileTree) (paths : List Path) : Except (Halt Failure) Dump :=
  match tree.firstFile? paths with
  | .ok (some path) => ofFile tree path
  | .ok none => .error (.failed (.notFound paths))
  | .error cause => .error (.interrupted cause)

end ServiceWiring.Dump
