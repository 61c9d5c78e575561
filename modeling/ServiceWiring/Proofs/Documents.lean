import ServiceWiring.Dump
import ServiceWiring.Proofs.Tables

/-!
What the definitions of a dump owe to its document. Only service elements with an identifier count,
and of several elements with one identifier the last one defines the service.
-/

namespace ServiceWiring.Dump

open Xml

/-- The service elements that have an identifier, each after it, in document order. -/
def identified (root : Node) : List (String × Node) :=
  (Entry.elements root).filterMap fun element => (element.filledAttribute? "id").map (·, element)

def plainElement (name : String) (attributes : List (String × String)) (children : List Node) :
    Node :=
  .element ⟨none, name⟩ (attributes.map fun (key, value) => (⟨none, key⟩, value)) children

/-- The document that defines services by these elements and says nothing else. -/
def documentOf (services : List Node) : Node :=
  plainElement "container" [] [plainElement "services" [] services]

/-- A document in which a controller is handed two locators, one after the other. The later one is
made from a locator that gives out an alias. -/
def mailingDocument : Node :=
  let handing (locator : String) : Node :=
    plainElement "call" [("method", "setContainer")]
      [plainElement "argument" [("type", "service"), ("id", locator)] []]
  documentOf
    [plainElement "service" [("id", "home"), ("class", "Home")] [handing "empty"],
     plainElement "service" [("id", "home"), ("class", "Home")] [handing "scoped"],
     plainElement "service" [("id", "scoped")]
       [plainElement "factory" [("service", "shared"), ("method", "withContext")] []],
     plainElement "service" [("id", "shared")]
       [plainElement "argument" []
         [plainElement "argument" [("key", "mail"), ("id", "mailer")] []]],
     plainElement "service" [("id", "mailer"), ("alias", "smtp")] [],
     plainElement "service" [("id", "smtp"), ("class", "Smtp")] []]

theorem mem_identified_iff {root : Node} {id : String} {element : Node} :
    (id, element) ∈ identified root ↔
      element ∈ Entry.elements root ∧ element.attribute? "id" = some id ∧ id ≠ "" := by
  simp [identified, Node.filledAttribute?, Option.filter_eq_some_iff]

theorem listOf_eq_map_identified (root : Node) :
    Entry.listOf root = (identified root).map fun (id, element) =>
      { id, definition := Entry.definitionOf element, located := Entry.locatedIn element,
        madeFrom := Entry.madeFrom? element, handed := Entry.handed? element } := by
  simp only [Entry.listOf, identified, List.map_filterMap]
  congr 1
  funext element
  cases hid : element.filledAttribute? "id" <;> simp [Entry.ofElement?, hid]

/-- The last element with an identifier defines the service. -/
theorem get?_definitions_ofDocument (root : Node) (id : String) :
    (ofDocument root).definitions.get? id =
      (lastValue? (identified root) id).map Entry.definitionOf := by
  have hpairs : ((Entry.listOf root).map fun entry => (entry.id, entry.definition)) =
      (identified root).map fun pair => (pair.1, Entry.definitionOf pair.2) := by
    simp [listOf_eq_map_identified, Function.comp_def]
  simp only [ofDocument, ofEntries]
  rw [hpairs, Table.get?_ofList, lastValue?_map]

/-- No service has the empty identifier. -/
theorem get?_definitions_empty (root : Node) : (ofDocument root).definitions.get? "" = none := by
  rw [get?_definitions_ofDocument, Option.map_eq_none_iff, lastValue?_eq_none_iff]
  intro hmem
  obtain ⟨⟨id, element⟩, hpair, hid⟩ := List.mem_map.1 hmem
  exact (mem_identified_iff.1 hpair).2.2 hid

@[simp]
theorem visibility_definitionOf (element : Node) :
    (Entry.definitionOf element).visibility = .exposed ↔
      element.attribute? "public" = some "true" := by
  simp [Entry.definitionOf]

end ServiceWiring.Dump
