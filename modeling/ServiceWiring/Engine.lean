import ServiceWiring.Service
import ServiceWiring.Text.Lowercase

/-!
The engine: the registry of services that it was set up with, or none in degraded mode, and the
question whether a class is a service. Class names are compared in lower case.
-/

namespace ServiceWiring

structure Engine where
  registry : Option Registry

namespace Engine

/-- The engine that knows no container. -/
def degraded : Engine := ⟨none⟩

def ofRegistry (registry : Registry) : Engine := ⟨some registry⟩

def isDegraded (engine : Engine) : Bool := engine.registry.isNone

def classNames (engine : Engine) : List String :=
  match engine.registry with
  | some registry => registry.classNames
  | none => []

/-- The classes of the services in lower case, each once. -/
def serviceKeys (engine : Engine) : List String :=
  (engine.classNames.map Text.lowercase).eraseDups

def sortedKeys (engine : Engine) : List String := engine.serviceKeys.mergeSort

/-- Whether a service has this class, however the name is capitalised. -/
def isServiceClass (engine : Engine) (className : String) : Bool :=
  engine.serviceKeys.contains (Text.lowercase className)

def announcement (engine : Engine) : String :=
  if engine.isDegraded then "container metadata not configured; running in degraded mode"
  else "container plugin ready with " ++ toString engine.serviceKeys.length ++ " service classes"

end Engine

end ServiceWiring
