import ServiceWiring.Table
import ServiceWiring.Text.Lowercase

/-!
What the host of the analysis keeps and the engine adds to: the classes it knows of, the classes
it has yet to scan, the classes that each file refers to, and what is suppressed for each declared
class.
-/

namespace ServiceWiring

/-- A declared class with the kinds of issues that are not reported for it. -/
structure ClassRecord where
  key : String
  suppressed : List String := []
deriving DecidableEq, Repr

def unusedClass : String := "UnusedClass"

/-- Suppresses reports that the class is unused, if they are not suppressed yet. -/
def ClassRecord.exempt (declared : ClassRecord) : ClassRecord :=
  if declared.suppressed.contains unusedClass then declared
  else { declared with suppressed := declared.suppressed ++ [unusedClass] }

structure Host where
  classes : List ClassRecord := []
  /-- Classes that the engine has named, in order and with repetitions. -/
  knownClasses : List String := []
  /-- Classes to be scanned, in order and with repetitions. -/
  scanQueue : List String := []
  /-- The classes that a file refers to, by their names in lower case. -/
  references : Table (Table String) := {}

namespace Host

def addReferences (references : Table String) (classNames : List String) : Table String :=
  classNames.foldl (fun table name => table.put (Text.lowercase name) name) references

/-- Lets a file refer to classes, all of which are to be scanned. -/
def refer (host : Host) (file : String) (classNames : List String) : Host where
  classes := host.classes
  knownClasses := host.knownClasses
  scanQueue := host.scanQueue ++ classNames
  references :=
    host.references.put file (addReferences ((host.references.get? file).getD {}) classNames)

/-- Exempts the declared classes whose keys satisfy `p` from reports that they are unused. -/
def exempt (host : Host) (p : String → Bool) : Host :=
  let treat (declared : ClassRecord) := if p declared.key then declared.exempt else declared
  { host with classes := host.classes.map treat }

def know (host : Host) (classNames : List String) : Host :=
  { host with knownClasses := host.knownClasses ++ classNames }

end Host

end ServiceWiring
