import ServiceWiring.Dump.Loading
import ServiceWiring.Engine
import ServiceWiring.Toml.Document
import ServiceWiring.Validation

/-!
The settings of the analysis: which container dumps to try. They are read from a TOML file, from
its root table or, in a project file, from a section of its own; paths are taken relative to the
file's directory.
-/

namespace ServiceWiring

structure Settings where
  /-- The dumps to try, in this order. -/
  dumps : List Path := []
deriving DecidableEq, Repr

namespace Settings

def resolved (settings : Settings) (base : Path) : Settings :=
  ⟨settings.dumps.map base.join⟩

def dumpsKey : String := "container_xml"

def checkPath : Data → Checked Path
  | .text value => .ok (Path.ofString value)
  | _ => Checked.flawed .notPath

def checkPaths : Data → Checked (List Path)
  | .list items => Checked.items checkPath 0 items
  | _ => Checked.flawed .notList

def unknownKeys (fields : List (String × Data)) : List Complaint :=
  (fields.filter (·.1 != dumpsKey)).map fun field => ⟨[.field field.1], .unknownField⟩

/-- The settings in a record. All flaws of the paths are reported before unknown keys. -/
def ofFields (fields : List (String × Data)) : Checked Settings :=
  match Checked.defaulted fields dumpsKey [] checkPaths, unknownKeys fields with
  | .ok dumps, [] => .ok ⟨dumps⟩
  | checked, unknown => .error (checked.complaints ++ unknown)

inductive Failure where
  | unreadable (path : Path) (cause : SystemFailure)
  | malformed (path : Path) (fault : Toml.Fault)
  /-- The document does not hold settings. -/
  | rejected (path : Path) (complaints : List Complaint)
deriving DecidableEq, Repr

/-- The failure without the details of what was found in the document. -/
def Failure.summary : Failure → String
  | .unreadable path cause =>
    "cannot read configuration " ++ path.toString ++ ": " ++ cause.message path
  | .malformed path _ => "invalid TOML in " ++ path.toString
  | .rejected path _ => "invalid containerlint configuration in " ++ path.toString

/-- The name of files in which settings are a section among others. -/
def projectFile : String := "pyproject.toml"

/-- The table under a key; no table if something else is there. -/
def tableAt (name : String) (fields : List (String × Data)) : List (String × Data) :=
  ((Data.field? name fields).bind Data.fields?).getD []

/-- The section of a project file that holds settings, empty if it is not a table in a table. -/
def projectSection (document : List (String × Data)) : List (String × Data) :=
  tableAt "containerlint" (tableAt "tool" document)

def sectionFor (path : Path) (document : List (String × Data)) : List (String × Data) :=
  if path.name = projectFile then projectSection document else document

def readDocument (tree : FileTree) (path : Path) :
    Except (Halt Failure) (List (String × Data)) := do
  let text ← (tree.readText path).mapError (Halt.map (.unreadable path))
  match Toml.parse text with
  | .ok document => .ok document
  | .error (.oversizedInteger digits) => .error (.interrupted (.oversizedNumeral digits))
  | .error fault => .error (.failed (.malformed path fault))

def ofDocument (path : Path) (document : List (String × Data)) : Except (Halt Failure) Settings :=
  match ofFields (sectionFor path document) with
  | .ok settings => .ok (settings.resolved path.parent)
  | .error complaints => .error (.failed (.rejected path complaints))

def load (tree : FileTree) (path : Path) : Except (Halt Failure) Settings := do
  ofDocument path (← readDocument tree path)

/-- The engine that settings ask for: one that knows the first dump, or one that knows nothing if
no dump is listed. -/
def engine (settings : Settings) (tree : FileTree) : Except (Halt Dump.Failure) Engine :=
  if settings.dumps.isEmpty then .ok .degraded
  else (Dump.ofPaths tree settings.dumps).map fun dump => .ofRegistry dump.registry

end Settings

end ServiceWiring
