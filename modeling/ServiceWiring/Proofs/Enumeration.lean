import ServiceWiring.Proofs.ClassNames

/-!
The list of all services. It is made by looking up what is defined, while the class names are read
off the definitions; both stand in the order in which the identifiers first occur in the document,
and in both an identifier stands for the last of its elements.
-/

namespace ServiceWiring.Dump

open Xml

section Listed

variable {dump : Dump} {id : String} {context : Option String} {service : Service}

theorem id_of_find? (hfound : dump.find? id context = some service) : service.id = id := by
  simp only [find?] at hfound
  split at hfound
  · cases hfound
    rfl
  · obtain ⟨definition, -, rfl⟩ := Option.map_eq_some_iff.1 hfound
    rfl

/-- A service is not found exactly if it is not defined. -/
theorem find?_alone_eq_none_iff : dump.find? id none = none ↔ id ∉ dump.definitions.keys := by
  rw [find?_alone, Option.map_eq_none_iff, Option.eq_none_iff_forall_ne_some, Table.mem_keys_iff,
    not_exists]

theorem ids_services (dump : Dump) : dump.services.map (·.id) = dump.definitions.keys := by
  have hself : ∀ id ∈ dump.definitions.keys, (dump.find? id none).map (·.id) = some id := by
    intro id hmem
    obtain ⟨definition, hdefined⟩ := (Table.mem_keys_iff _ _).1 hmem
    simp [find?_alone, hdefined]
  rw [services, List.map_filterMap, List.filterMap_congr hself, List.filterMap_some]

/-- The services that are listed are those that are found. -/
theorem mem_services_iff : service ∈ dump.services ↔ dump.find? service.id none = some service := by
  rw [services, List.mem_filterMap]
  constructor
  · rintro ⟨id, -, hfound⟩
    rwa [id_of_find? hfound]
  · intro hfound
    have hlisted : service.id ∈ dump.definitions.keys := by
      by_contra habsent
      rw [find?_alone_eq_none_iff.2 habsent] at hfound
      cases hfound
    exact ⟨service.id, hlisted, hfound⟩

theorem firstOccurrences_classNames (dump : Dump) :
    FirstOccurrences
      ((dump.services.map (·.id)).filterMap fun id =>
        (dump.definitions.get? id).bind Definition.ownClass?)
      dump.classNames := by
  have howned : dump.definitions.values.filterMap Definition.ownClass? =
      (dump.services.map (·.id)).filterMap fun id =>
        (dump.definitions.get? id).bind Definition.ownClass? := by
    rw [ids_services, Table.values_eq_filterMap_keys, List.filterMap_filterMap]
  rw [classNames, ← howned]
  exact .eraseDups _

end Listed

/-- The class that an element gives its service; another name for a service is given none. -/
def ownClassOf? (element : Node) : Option String :=
  if element.attribute? "alias" = none then element.filledAttribute? "class" else none

/-- The service for which the last element of an identifier makes it another name. -/
def aliasIn? (root : Node) (id : String) : Option String :=
  (lastValue? (identified root) id).bind (·.attribute? "alias")

theorem ownClass?_definitionOf (element : Node) :
    (Entry.definitionOf element).ownClass? = ownClassOf? element := by
  cases halias : element.attribute? "alias" <;>
    simp [Entry.definitionOf, Definition.ownClass?, ownClassOf?, Node.filledAttribute?, halias]

theorem keysOf_identified (root : Node) :
    keysOf (identified root) = (Entry.elements root).filterMap (·.filledAttribute? "id") := by
  simp [keysOf, identified, List.map_filterMap, Function.comp_def]

section Document

variable {root : Node} {id : String}

theorem firstOccurrences_keys_ofDocument (root : Node) :
    FirstOccurrences ((Entry.elements root).filterMap (·.filledAttribute? "id"))
      (ofDocument root).definitions.keys := by
  have hkeys : keysOf ((Entry.listOf root).map fun entry => (entry.id, entry.definition)) =
      keysOf (identified root) := by
    simp [keysOf, listOf_eq_map_identified]
  rw [← keysOf_identified, ← hkeys]
  exact Table.firstOccurrences_keys_ofList _

theorem aliasOf?_ofDocument (root : Node) : (ofDocument root).aliasOf? = aliasIn? root := by
  funext id
  rw [aliasOf?, aliasIn?, get?_definitions_ofDocument]
  cases lastValue? (identified root) id <;> rfl

/-- The class of a service, read off the elements at which the aliases end. -/
theorem classOf?_ofDocument_eq_some_iff {className : String} :
    (ofDocument root).classOf? id = some className ↔
      ∃ hops ≤ 32, ∃ target last, Trail.keyAt? (aliasIn? root) id hops = some target ∧
        lastValue? (identified root) target = some last ∧ last.attribute? "alias" = none ∧
        last.attribute? "class" = some className := by
  simp only [classOf?_eq_some_iff, LeadsTo, aliasOf?_ofDocument, get?_definitions_ofDocument,
    Option.map_eq_some_iff]
  constructor
  · rintro ⟨hops, hle, -, ⟨target, hreach, ⟨last, hlast, rfl⟩, halias⟩, hclass⟩
    exact ⟨hops, hle, target, last, hreach, hlast, halias, hclass⟩
  · rintro ⟨hops, hle, target, last, hreach, hlast, halias, hclass⟩
    exact ⟨hops, hle, _, ⟨target, hreach, ⟨last, hlast, rfl⟩, halias⟩, hclass⟩

/-- A service that is found is defined by the last element with its identifier. -/
theorem exists_element_of_find? {service : Service}
    (hfound : (ofDocument root).find? id none = some service) :
    ∃ element, lastValue? (identified root) id = some element ∧
      service = ⟨id, (ofDocument root).classOf? id, (Entry.definitionOf element).visibility⟩ := by
  rw [find?_alone, get?_definitions_ofDocument, Option.map_map, Option.map_eq_some_iff] at hfound
  obtain ⟨element, hlast, rfl⟩ := hfound
  exact ⟨element, hlast, rfl⟩

end Document

/-- The services of a document are listed under its identifiers, each once and in the order of first
occurrence, and each is what a look-up without a context answers: exposed if the last element of the
identifier says so, and of the class that this element gives it or that its aliases end at. Nothing
else can be looked up. The class names are those that these elements give to services that are no
aliases, in the same order and each once. -/
theorem services_enumerate_look_ups (root : Node) :
    let dump := ofDocument root
    let ids := dump.services.map (·.id)
    FirstOccurrences ((Entry.elements root).filterMap (·.filledAttribute? "id")) ids ∧
    (∀ service ∈ dump.services, dump.find? service.id none = some service ∧
      ∃ element, lastValue? (identified root) service.id = some element ∧
        (service.visibility = .exposed ↔ element.attribute? "public" = some "true") ∧
        (element.attribute? "alias" = none → service.className = element.attribute? "class") ∧
        ∀ className, service.className = some className ↔
          ∃ hops ≤ 32, ∃ target last,
            Trail.keyAt? (aliasIn? root) service.id hops = some target ∧
            lastValue? (identified root) target = some last ∧ last.attribute? "alias" = none ∧
            last.attribute? "class" = some className) ∧
    (∀ id, dump.find? id none = none ↔ id ∉ ids) ∧
    FirstOccurrences
      (ids.filterMap fun id => (lastValue? (identified root) id).bind ownClassOf?)
      dump.classNames := by
  intro dump ids
  have hids : ids = dump.definitions.keys := ids_services dump
  refine ⟨?_, ?_, ?_, ?_⟩
  · rw [hids]
    exact firstOccurrences_keys_ofDocument root
  · intro service hmem
    have hfound : dump.find? service.id none = some service := mem_services_iff.1 hmem
    obtain ⟨element, hlast, hservice⟩ := exists_element_of_find? hfound
    have hclass : service.className = dump.classOf? service.id :=
      congrArg Service.className hservice
    refine ⟨hfound, element, hlast, ?_, ?_, ?_⟩
    · rw [congrArg Service.visibility hservice]
      exact visibility_definitionOf element
    · intro halias
      have hdefined : dump.definitions.get? service.id = some (Entry.definitionOf element) := by
        rw [get?_definitions_ofDocument, hlast]
        rfl
      rw [hclass, classOf?_of_own hdefined halias]
      rfl
    · intro className
      rw [hclass]
      exact classOf?_ofDocument_eq_some_iff
  · intro id
    rw [hids]
    exact find?_alone_eq_none_iff
  · have hown : (fun id => (dump.definitions.get? id).bind Definition.ownClass?) =
        fun id => (lastValue? (identified root) id).bind ownClassOf? := by
      funext id
      rw [get?_definitions_ofDocument, Option.bind_map]
      congr 1
      funext element
      exact ownClass?_definitionOf element
    rw [← hown]
    exact firstOccurrences_classNames dump

/-- A service that is redefined as an alias keeps its first place, in front of the service that it
is an alias of. What stands inside another service or has an empty identifier is not listed. -/
theorem services_of_redefined_mailer :
    let service (attributes : List (String × String)) (children : List Node) : Node :=
      plainElement "service" attributes children
    let root := documentOf
      [service [("id", "mailer"), ("class", "Mailer"), ("public", "true")] [],
       service [("id", "smtp"), ("class", "Smtp")]
         [plainElement "services" [] [service [("id", "inner"), ("class", "Inner")] []]],
       service [("id", ""), ("class", "Nameless")] [],
       service [("id", "mailer"), ("alias", "smtp")] []]
    (ofDocument root).services.map (·.id) = ["mailer", "smtp"] ∧
      (ofDocument root).find? "mailer" none = some ⟨"mailer", some "Smtp", .internal⟩ ∧
      (ofDocument root).find? "inner" none = none := by
  intro service root
  obtain ⟨-, hlisted, habsent, -⟩ := services_enumerate_look_ups root
  have hids : (ofDocument root).services.map (·.id) = ["mailer", "smtp"] := by decide +kernel
  refine ⟨hids, ?_, ?_⟩
  · exact (hlisted ⟨"mailer", some "Smtp", .internal⟩ (by decide +kernel)).1
  · apply (habsent "inner").2
    rw [hids]
    decide

end ServiceWiring.Dump
