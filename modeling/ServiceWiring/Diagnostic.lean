/-!
The diagnostics of the engine: their kinds, where they point and what they say.
-/

namespace ServiceWiring

/-- A position in a source file, as exactly as it is known. -/
structure CodeLocation where
  file : String
  line : Option Int := none
  column : Option Int := none
  selectedText : Option String := none
deriving DecidableEq, Repr

inductive Severity where
  | error
  | warning
  | info
deriving DecidableEq, Repr

namespace Severity

def all : List Severity := [.error, .warning, .info]

def label : Severity → String
  | .error => "error"
  | .warning => "warning"
  | .info => "info"

def ofLabel? (text : String) : Option Severity := all.find? (·.label == text)

end Severity

inductive IssueKind where
  | namingConvention
  | privateService
  | serviceNotFound
deriving DecidableEq, Repr

namespace IssueKind

def all : List IssueKind := [.namingConvention, .privateService, .serviceNotFound]

/-- The name of a kind, which is also how a call site suppresses it. -/
def label : IssueKind → String
  | .namingConvention => "NamingConventionViolation"
  | .privateService => "PrivateService"
  | .serviceNotFound => "ServiceNotFound"

def ofLabel? (text : String) : Option IssueKind := all.find? (·.label == text)

end IssueKind

/-- A diagnostic for one call of the container. -/
structure Issue where
  kind : IssueKind
  message : String
  location : CodeLocation
  severity : Severity := .error
  serviceId : Option String := none
deriving DecidableEq, Repr

namespace Issue

def namingConvention (location : CodeLocation) : Issue where
  kind := .namingConvention
  message := "Use snake_case for configuration parameter and service names."
  location := location

/-- A service is fetched that is not meant to be fetched. -/
def privateService (id : String) (location : CodeLocation) : Issue where
  kind := .privateService
  message := "Private service \"" ++ id ++ "\" used in container::get()"
  location := location
  serviceId := some id

def serviceNotFound (id : String) (location : CodeLocation) : Issue where
  kind := .serviceNotFound
  message := "Service \"" ++ id ++ "\" not found"
  location := location
  serviceId := some id

/-- Whether a call site that suppresses the kinds in `suppressed` silences the issue. -/
def isSuppressedBy (issue : Issue) (suppressed : List String) : Bool :=
  suppressed.contains issue.kind.label

end Issue

end ServiceWiring
