import ServiceWiring.Accessor
import ServiceWiring.CallSite
import ServiceWiring.Codebase
import ServiceWiring.Engine
import ServiceWiring.Identifier
import ServiceWiring.Naming

/-!
Inspection of call sites: the class of the service that a call fetches, and what is wrong with the
call. The findings of one engine depend only on the call site, the codebase and the type that is
already known for the call.
-/

namespace ServiceWiring

structure Findings where
  /-- The class that the call returns, as far as it is known afterwards. -/
  candidate : Option String
  /-- Classes that the host is to know of. -/
  classes : List String := []
  issues : List Issue := []
deriving DecidableEq, Repr

/-- The base of test classes, which may fetch internal services. -/
def testBase : String := "Symfony\\Bundle\\FrameworkBundle\\Test\\KernelTestCase"

def CallSite.isInTest (site : CallSite) (codebase : Codebase) : Bool :=
  site.parentClass.any (codebase.descends · testBase)

/-- The names that stand for a class without naming it. -/
def relativeClasses : List String := ["self", "parent", "static"]

def Expression.namedClass? (argument : Expression) : Option String :=
  match argument.memberOf? with
  | some (owner, part) =>
    if part = Identifier.classMember && !relativeClasses.contains owner then some owner else none
  | none => none

def spellingIssues (offends : Bool) (location : CodeLocation) : List Issue :=
  if offends then [.namingConvention location] else []

namespace CallSite

/-- The issues of a call that fetches a parameter; only literal names are judged. -/
def parameterIssues (site : CallSite) : Expression → List Issue
  | .literal location name =>
    spellingIssues (Naming.offendsAsParameter name) (site.locationOf (.literal location name))
  | _ => []

/-- The issues of a call that fetches the service `id`, of which `found` is known. -/
def serviceIssues (site : CallSite) (codebase : Codebase) (location : CodeLocation) (id : String)
    (found : Option Service) : List Issue :=
  spellingIssues (Naming.offends id) location ++
    match found with
    | none => [.serviceNotFound id location]
    | some service =>
      if service.isExposed || site.isInTest codebase then [] else [.privateService id location]

def serviceFindings (site : CallSite) (codebase : Codebase) (candidate : Option String)
    (location : CodeLocation) (id : String) (found : Option Service) : Findings :=
  let className := found.bind (·.className)
  { candidate := className.or candidate
    classes := className.toList
    issues := site.serviceIssues codebase location id found }

end CallSite

/-- The findings of an engine for a call whose type is `candidate` so far. Without a registry only
`get(Owner::class)` has a type; with one, every identifier that is known before the program runs
is looked up. -/
def Engine.inspect (engine : Engine) (codebase : Codebase) (site : CallSite)
    (candidate : Option String) : Findings :=
  match site.argument? with
  | none => { candidate }
  | some argument =>
    if Accessor.service.isAt site.methodId then
      match engine.registry with
      | none => { candidate := candidate.or argument.namedClass? }
      | some registry =>
        match Identifier.ofExpression? codebase.textOf? site.enclosing argument with
        | none => { candidate }
        | some identifier =>
          site.serviceFindings codebase candidate (site.locationOf argument) identifier.value
            (registry.find? identifier.value site.selfClass)
    else if Accessor.parameter.isAt site.methodId then
      { candidate, issues := site.parameterIssues argument }
    else { candidate }

end ServiceWiring
