import ServiceWiring.Proofs.Aliases
import ServiceWiring.Proofs.ServiceClasses

/-!
The class names of a dump. They are the classes that its look-ups answer, each once: whatever a
look-up finds, through aliases and locators, is the class of a service that is no alias.
-/

namespace ServiceWiring.Dump

private theorem nodup_eraseDups (names : List String) : names.eraseDups.Nodup := by
  induction hlength : names.length using Nat.strong_induction_on generalizing names with
  | _ length ih =>
    cases names with
    | nil => simp
    | cons name rest =>
      have hshorter : (rest.filter fun other => !other == name).length < length := by
        have hle := List.length_filter_le (fun other => !other == name) rest
        rw [List.length_cons] at hlength
        omega
      rw [List.eraseDups_cons, List.nodup_cons]
      exact ⟨by simp, ih _ hshorter _ rfl⟩

theorem nodup_classNames (dump : Dump) : dump.classNames.Nodup := nodup_eraseDups _

theorem ownClass?_eq_some_iff {definition : Definition} {className : String} :
    definition.ownClass? = some className ↔
      definition.aliasOf = none ∧ definition.className = some className ∧ className ≠ "" := by
  cases halias : definition.aliasOf <;>
    simp [Definition.ownClass?, halias, Option.filter_eq_some_iff]

/-- The class names are the classes of the services that are no aliases. -/
theorem mem_classNames_iff {dump : Dump} {className : String} :
    className ∈ dump.classNames ↔
      ∃ id own, dump.definitions.get? id = some own ∧ own.aliasOf = none ∧
        own.className = some className ∧ className ≠ "" := by
  simp only [classNames, List.mem_eraseDups, List.mem_filterMap, Table.mem_values_iff,
    ownClass?_eq_some_iff]
  constructor
  · rintro ⟨own, ⟨id, hdefined⟩, hclass⟩
    exact ⟨id, own, hdefined, hclass⟩
  · rintro ⟨id, own, hdefined, hclass⟩
    exact ⟨own, ⟨id, hdefined⟩, hclass⟩

/-- A class that a service has, through whatever aliases, is the class of some definition. -/
theorem mem_classNames_of_classOf? {dump : Dump} {id className : String}
    (hclass : dump.classOf? id = some className) (hfilled : className ≠ "") :
    className ∈ dump.classNames := by
  obtain ⟨hops, -, own, ⟨target, -, hdefined, halias⟩, hown⟩ := classOf?_eq_some_iff.1 hclass
  exact mem_classNames_iff.2 ⟨target, own, hdefined, halias, hown, hfilled⟩

theorem classOf?_of_own {dump : Dump} {id : String} {own : Definition}
    (hdefined : dump.definitions.get? id = some own) (halias : own.aliasOf = none) :
    dump.classOf? id = own.className := by
  have hown : dump.ownDefinition? id = some own :=
    ownDefinition?_eq_some_iff.2 ⟨hdefined, halias⟩
  simp [classOf?, Trail.find?, aliasLimit, hown]

/-- The class that a look-up answers is that of some service, whoever asks. -/
theorem exists_classOf?_of_find? {dump : Dump} {id : String} {context : Option String}
    {service : Service} (hfound : dump.find? id context = some service) :
    ∃ target, service.className = dump.classOf? target := by
  simp only [find?] at hfound
  cases hlocated : dump.located? context id with
  | some target =>
    simp only [hlocated, Option.some.injEq] at hfound
    exact ⟨target, by rw [← hfound]⟩
  | none =>
    simp only [hlocated, Option.map_eq_some_iff] at hfound
    obtain ⟨definition, -, rfl⟩ := hfound
    exact ⟨id, rfl⟩

/-- Every class that a look-up answers, empty ones apart, is a class name of the dump and counts as
the class of a service; every class name is the class that some look-up answers without a context;
and the class names are filled and different from each other. -/
theorem lookups_and_class_names_agree (root : Xml.Node) :
    (∀ (id : String) (context : Option String) (service : Service) (className : String),
      (ofDocument root).find? id context = some service → service.className = some className →
      className ≠ "" →
      className ∈ (ofDocument root).classNames ∧
        (Engine.ofRegistry (ofDocument root).registry).isServiceClass className = true) ∧
    (∀ className ∈ (ofDocument root).classNames, ∃ id service,
      (ofDocument root).find? id none = some service ∧ service.className = some className) ∧
    (ofDocument root).classNames.Nodup ∧ "" ∉ (ofDocument root).classNames := by
  refine ⟨?_, ?_, nodup_eraseDups _, ?_⟩
  · intro id context service className hfound hclass hfilled
    obtain ⟨target, htarget⟩ := exists_classOf?_of_find? hfound
    have hmem : className ∈ (ofDocument root).classNames :=
      mem_classNames_of_classOf? (htarget.symm.trans hclass) hfilled
    exact ⟨hmem, (Engine.isServiceClass_iff _ _).2 ⟨className, hmem, rfl⟩⟩
  · intro className hmem
    obtain ⟨id, own, hdefined, halias, hclass, -⟩ := mem_classNames_iff.1 hmem
    refine ⟨id, ⟨id, (ofDocument root).classOf? id, own.visibility⟩, ?_, ?_⟩
    · simp [find?_alone, hdefined]
    · rw [classOf?_of_own hdefined halias, hclass]
  · intro hmem
    obtain ⟨id, own, -, -, -, hfilled⟩ := mem_classNames_iff.1 hmem
    exact hfilled rfl

/-- A class behind a locator and an alias is a class name. -/
theorem class_names_of_mailingDocument :
    "Smtp" ∈ (ofDocument mailingDocument).classNames ∧
      (∃ id service, (ofDocument mailingDocument).find? id none = some service ∧
        service.className = some "Smtp") := by
  obtain ⟨hlisted, hanswered, -⟩ := lookups_and_class_names_agree mailingDocument
  have hmem := (hlisted "mail" (some "Home") ⟨"mail", some "Smtp", .exposed⟩ "Smtp"
    (by decide +kernel) rfl (by decide)).1
  exact ⟨hmem, hanswered "Smtp" hmem⟩

end ServiceWiring.Dump
