/-!
The methods through which services and parameters are fetched from a container, and the types
that declare them. A call is recognised by the method that it resolves to, written
`Declaring\Type::method`.
-/

namespace ServiceWiring

/-- The types that stand for the container, in the order in which they are declared. -/
def containerTypes : List String :=
  ["Psr\\Container\\ContainerInterface",
   "Symfony\\Component\\DependencyInjection\\ContainerInterface",
   "Symfony\\Component\\DependencyInjection\\Container",
   "Symfony\\Bundle\\FrameworkBundle\\Controller\\AbstractController",
   "Symfony\\Bundle\\FrameworkBundle\\Controller\\ControllerTrait",
   "Symfony\\Bundle\\FrameworkBundle\\Test\\TestContainer"]

def isContainerType (className : String) : Bool := containerTypes.contains className

/-- What is fetched from the container. -/
inductive Accessor where
  | service
  | parameter
deriving DecidableEq, Repr

namespace Accessor

def all : List Accessor := [.service, .parameter]

def method : Accessor → String
  | .service => "get"
  | .parameter => "getparameter"

def methodId (accessor : Accessor) (typeName : String) : String :=
  typeName ++ "::" ++ accessor.method

def methodIds : List String :=
  containerTypes.flatMap fun typeName => all.map fun accessor => accessor.methodId typeName

/-- Splits at the last `::`; of overlapping marks the later one counts. -/
def splitMethod? : List Char → Option (List Char × List Char)
  | [] => none
  | c :: rest =>
    match splitMethod? rest with
    | some (before, after) => some (c :: before, after)
    | none =>
      match c, rest with
      | ':', ':' :: after => some ([], after)
      | _, _ => none

def isAt (accessor : Accessor) (methodId : String) : Bool :=
  match splitMethod? methodId.toList with
  | none => false
  | some (typeName, method) =>
    method == accessor.method.toList && isContainerType (String.ofList typeName)

end Accessor

end ServiceWiring
