import ServiceWiring.Expression

/-!
Call sites: a method call with the place and the class in which it stands.
-/

namespace ServiceWiring

structure CallSite where
  /-- The method that is called, `Declaring\Type::method`. -/
  methodId : String
  arguments : List Argument
  /-- The class on whose behalf services are looked up. -/
  selfClass : Option String := none
  /-- The parent of the class in which the call stands. -/
  parentClass : Option String := none
  /-- The class in which the call stands, with its namespace. -/
  enclosing : Option String := none
  file : String
  /-- The kinds of issues that are not reported here. -/
  suppressed : List String := []
  /-- The method as the call writes it; what it resolves to is `methodId`. -/
  method : String := ""

namespace CallSite

def argument? (site : CallSite) : Option Expression := Argument.first? site.arguments

/-- Where an expression of the call is written; at least the file is known. -/
def locationOf (site : CallSite) (expression : Expression) : CodeLocation :=
  expression.location?.getD { file := site.file }

end CallSite

end ServiceWiring
