import ServiceWiring.Service
import ServiceWiring.Xml.Node

/-!
What a container dump says about services: one entry for each `service` element with an
identifier, in document order. Entries hold all of a document that look-ups depend on.
-/

namespace ServiceWiring.Dump

open Xml

structure Definition where
  className : Option String
  visibility : Visibility
  /-- The service of which this one is another name. -/
  aliasOf : Option String
deriving DecidableEq, Repr

/-- The class that a definition contributes of its own: an alias contributes none, nor does an
empty class. -/
def Definition.ownClass? (definition : Definition) : Option String :=
  match definition.aliasOf with
  | none => definition.className.filter (· != "")
  | some _ => none

structure Entry where
  id : String
  definition : Definition
  /-- The services that it gives out under keys of their own, if it is a locator. -/
  located : Table String
  /-- The locator from which it is made for one subscriber. -/
  madeFrom : Option String
  /-- The locator that it is handed. -/
  handed : Option String

namespace Entry

/-- The class that looks services up in the locator handed to the entry; the identifier stands in
for a class that is not given. -/
def subscriber (entry : Entry) : String :=
  (entry.definition.className.filter (· != "")).getD entry.id

def definitionOf (element : Node) : Definition where
  className := element.attribute? "class"
  visibility := if element.attribute? "public" = some "true" then .exposed else .internal
  aliasOf := element.attribute? "alias"

/-- The keyed arguments inside the arguments of an element. -/
def locatedIn (element : Node) : Table String :=
  let inner := (element.childrenNamed "argument").flatMap (·.childrenNamed "argument")
  Table.ofList (inner.filterMap fun argument => do
    return (← argument.filledAttribute? "key", ← argument.filledAttribute? "id"))

/-- The service whose `withContext` method makes the element; only the first factory counts. -/
def madeFrom? (element : Node) : Option String := do
  let factory ← (element.childrenNamed "factory").head?
  if factory.attribute? "method" = some "withContext" then factory.filledAttribute? "service"
  else none

/-- The service that the last `setContainer` call of an element passes. -/
def handed? (element : Node) : Option String :=
  let calls := (element.childrenNamed "call").filter (·.attribute? "method" == some "setContainer")
  let passed := (calls.flatMap (·.childrenNamed "argument")).filter
    (·.attribute? "type" == some "service")
  (passed.filterMap (·.filledAttribute? "id")).getLast?

/-- The entry of a `service` element, which has to have an identifier. -/
def ofElement? (element : Node) : Option Entry := do
  let id ← element.filledAttribute? "id"
  return { id, definition := definitionOf element, located := locatedIn element,
           madeFrom := madeFrom? element, handed := handed? element }

/-- The `service` elements of a document with the given root, from all blocks of services. -/
def elements (root : Node) : List Node :=
  (root.childrenNamed "services").flatMap (·.childrenNamed "service")

def listOf (root : Node) : List Entry := (elements root).filterMap ofElement?

end Entry

end ServiceWiring.Dump
