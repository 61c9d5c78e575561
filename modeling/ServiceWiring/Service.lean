import ServiceWiring.Table

/-!
Services and registries of services. A registry answers look-ups and lists the classes of its
services; look-ups may depend on the class on whose behalf they are made. A listing is the
simplest registry: a fixed table of services.
-/

namespace ServiceWiring

/-- Whether a service may be fetched from the container: an `exposed` one may, an `internal` one
is only handed to other services. -/
inductive Visibility where
  | exposed
  | internal
deriving DecidableEq, Repr

namespace Visibility

def all : List Visibility := [.exposed, .internal]

def label : Visibility → String
  | .exposed => "public"
  | .internal => "private"

def ofLabel? (text : String) : Option Visibility := all.find? (·.label == text)

end Visibility

structure Service where
  /-- The identifier that was asked for. -/
  id : String
  /-- The implementing class, if the container knows it. -/
  className : Option String
  visibility : Visibility
deriving DecidableEq, Repr

namespace Service

def isExposed (service : Service) : Bool := service.visibility == .exposed

/-- The class of a service, unless it is unknown or empty. -/
def namedClass? (service : Service) : Option String := service.className.filter (· != "")

end Service

/-- A view of a container: look-ups of an identifier on behalf of a class or of nobody, and the
classes of all services. -/
structure Registry where
  find? : String → Option String → Option Service
  classNames : List String

/-- A fixed table of services, for which it does not matter who asks. -/
structure Listing where
  services : Table Service
  /-- The class names, where they are given apart from the services. -/
  classNames : Option (List String)

namespace Listing

def ofServices (services : List Service) (classNames : Option (List String)) : Listing where
  services := Table.ofList (services.map fun service => (service.id, service))
  classNames := classNames

/-- The listing as a registry. Unless other names are given, its class names are the classes of
the services that have one, as often as they occur. -/
def registry (listing : Listing) : Registry where
  find? id _ := listing.services.get? id
  classNames := listing.classNames.getD (listing.services.values.filterMap Service.namedClass?)

end Listing

end ServiceWiring
