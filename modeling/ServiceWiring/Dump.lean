import ServiceWiring.Dump.Wiring

/-!
Compiled container dumps as registries of services. A look-up on behalf of a subscriber tries its
locator first, in which every service is exposed; then, and for everybody else, the definitions
decide. The class of an alias is that of the service it leads to.
-/

namespace ServiceWiring

structure Dump where
  /-- The definition that holds for each service. -/
  definitions : Table Dump.Definition
  /-- What each subscriber finds in its locator: services by key. -/
  locators : Table (Table String)

namespace Dump

/-- The dump that the entries of a document make up; a later definition of a service replaces an
earlier one and keeps its place. -/
def ofEntries (entries : List Entry) : Dump where
  definitions := Table.ofList (entries.map fun entry => (entry.id, entry.definition))
  locators := (Wiring.ofEntries entries).subscriptions

def ofDocument (root : Xml.Node) : Dump := ofEntries (Entry.listOf root)

/-- How many aliases are followed before a chain counts as endless. -/
def aliasLimit : Nat := 32

def aliasOf? (dump : Dump) (id : String) : Option String :=
  (dump.definitions.get? id).bind (·.aliasOf)

def ownDefinition? (dump : Dump) (id : String) : Option Definition :=
  (dump.definitions.get? id).filter (·.aliasOf.isNone)

/-- The class of a service, which is unknown if its aliases lead nowhere or too far. -/
def classOf? (dump : Dump) (id : String) : Option String :=
  (Trail.find? dump.aliasOf? dump.ownDefinition? aliasLimit id).bind (·.className)

def located? (dump : Dump) (context : Option String) (key : String) : Option String := do
  let subscriber ← context
  let contents ← dump.locators.get? subscriber
  contents.get? key

/-- Looks a service up, on behalf of a class if one is given. -/
def find? (dump : Dump) (id : String) (context : Option String) : Option Service :=
  match dump.located? context id with
  | some target => some ⟨id, dump.classOf? target, .exposed⟩
  | none =>
    (dump.definitions.get? id).map fun definition =>
      ⟨id, dump.classOf? id, definition.visibility⟩

/-- All services, in the order in which they first appear. -/
def services (dump : Dump) : List Service :=
  dump.definitions.keys.filterMap (dump.find? · none)

/-- The classes of all definitions, each once. -/
def classNames (dump : Dump) : List String :=
  (dump.definitions.values.filterMap Definition.ownClass?).eraseDups

def registry (dump : Dump) : Registry := ⟨dump.find?, dump.classNames⟩

end Dump

end ServiceWiring
