import ServiceWiring.Proofs.Documents
import ServiceWiring.Proofs.Trails

/-!
Where aliases lead. The class of a service is the class of the service at the end of its aliases,
provided that the end is no more than 32 aliases away. A chain that leads to an unknown service,
into a circle or further than that has no class.
-/

namespace ServiceWiring.Dump

/-- On behalf of nobody every defined service is found, even one whose class is unknown. -/
theorem find?_alone (dump : Dump) (id : String) :
    dump.find? id none =
      (dump.definitions.get? id).map fun definition =>
        ⟨id, dump.classOf? id, definition.visibility⟩ := rfl

/-- `hops` aliases, taken one after the other from `id`, lead to a service that is no alias; it is
defined by `own`. -/
def LeadsTo (dump : Dump) (id : String) (hops : Nat) (own : Definition) : Prop :=
  ∃ target, Trail.keyAt? dump.aliasOf? id hops = some target ∧
    dump.definitions.get? target = some own ∧ own.aliasOf = none

theorem ownDefinition?_eq_some_iff {dump : Dump} {id : String} {own : Definition} :
    dump.ownDefinition? id = some own ↔
      dump.definitions.get? id = some own ∧ own.aliasOf = none := by
  simp [ownDefinition?, Option.filter_eq_some_iff]

theorem aliasOf?_of_ownDefinition? (dump : Dump) (id : String) (own : Definition)
    (hown : dump.ownDefinition? id = some own) : dump.aliasOf? id = none := by
  obtain ⟨hdefined, halias⟩ := ownDefinition?_eq_some_iff.1 hown
  simp [aliasOf?, hdefined, halias]

/-- The class of a service is that of the service at the end of its aliases. -/
theorem classOf?_eq_some_iff {dump : Dump} {id className : String} :
    dump.classOf? id = some className ↔
      ∃ hops ≤ 32, ∃ own, dump.LeadsTo id hops own ∧ own.className = some className := by
  simp only [classOf?, Option.bind_eq_some_iff,
    Trail.find?_eq_some_iff_of_ends dump.aliasOf?_of_ownDefinition?, ownDefinition?_eq_some_iff]
  constructor
  · rintro ⟨own, ⟨hops, hle, target, hreach, hown⟩, hclass⟩
    exact ⟨hops, hle, own, ⟨target, hreach, hown⟩, hclass⟩
  · rintro ⟨hops, hle, own, ⟨target, hreach, hown⟩, hclass⟩
    exact ⟨own, ⟨hops, hle, target, hreach, hown⟩, hclass⟩

/-- The class of a service depends on the definitions alone. -/
theorem classOf?_congr {first second : Dump}
    (hdefined : ∀ id, first.definitions.get? id = second.definitions.get? id) (id : String) :
    first.classOf? id = second.classOf? id := by
  have haliases : first.aliasOf? = second.aliasOf? := by
    funext id
    simp only [aliasOf?, hdefined]
  have hown : first.ownDefinition? = second.ownDefinition? := by
    funext id
    simp only [ownDefinition?, hdefined]
  rw [classOf?, haliases, hown, classOf?]

theorem find?_alone_congr {first second : Dump}
    (hdefined : ∀ id, first.definitions.get? id = second.definitions.get? id) (id : String) :
    first.find? id none = second.find? id none := by
  rw [find?_alone, find?_alone, hdefined, classOf?_congr hdefined]

/-- Behind a service that is no alias there is nothing. -/
theorem LeadsTo.keyAt?_eq_none {dump : Dump} {id : String} {hops : Nat} {own : Definition}
    (hend : dump.LeadsTo id hops own) {further : Nat} (hlt : hops < further) :
    Trail.keyAt? dump.aliasOf? id further = none := by
  obtain ⟨target, hreach, hdefined, halias⟩ := hend
  have hstop : dump.aliasOf? target = none := by simp [aliasOf?, hdefined, halias]
  cases hfurther : Trail.keyAt? dump.aliasOf? id further with
  | none => rfl
  | some beyond =>
    obtain ⟨same, following, hsame, hlink⟩ := Trail.exists_next_of_lt hfurther hlt
    rw [hreach, Option.some.injEq] at hsame
    rw [← hsame, hstop] at hlink
    cases hlink

/-- On the way to the end of its aliases a service meets defined services only. -/
theorem LeadsTo.exists_definition {dump : Dump} {id target : String} {hops further : Nat}
    {own : Definition} (hend : dump.LeadsTo id hops own)
    (hreach : Trail.keyAt? dump.aliasOf? id further = some target) :
    ∃ definition, dump.definitions.get? target = some definition := by
  have hlast := hend
  obtain ⟨last, hreachLast, hdefined, -⟩ := hlast
  rcases Nat.lt_trichotomy further hops with hlt | heq | hgt
  · obtain ⟨place, following, hplace, hlink⟩ := Trail.exists_next_of_lt hreachLast hlt
    rw [hreach, Option.some.injEq] at hplace
    obtain ⟨definition, hplaced, -⟩ := Option.bind_eq_some_iff.1 hlink
    exact ⟨definition, hplace ▸ hplaced⟩
  · rw [heq, hreachLast, Option.some.injEq] at hreach
    exact ⟨own, hreach ▸ hdefined⟩
  · rw [hend.keyAt?_eq_none hgt] at hreach
    cases hreach

/-- A service whose aliases do not end within 32 steps has no class. -/
theorem classOf?_eq_none {dump : Dump} {id : String}
    (hendless : ∀ hops ≤ 32, ∀ own, ¬ dump.LeadsTo id hops own) : dump.classOf? id = none := by
  rw [Option.eq_none_iff_forall_ne_some]
  intro className hclass
  obtain ⟨hops, hle, own, hend, -⟩ := classOf?_eq_some_iff.1 hclass
  exact hendless hops hle own hend

/-- Aliases that end at no service give no class. -/
theorem classOf?_of_dangling {dump : Dump} {id target : String} {hops : Nat}
    (hreach : Trail.keyAt? dump.aliasOf? id hops = some target)
    (hunknown : dump.definitions.get? target = none) : dump.classOf? id = none := by
  refine classOf?_eq_none fun steps _ own hend => ?_
  obtain ⟨definition, hdefined⟩ := hend.exists_definition hreach
  rw [hunknown] at hdefined
  cases hdefined

/-- Aliases that come to the same service twice give no class. -/
theorem classOf?_of_circle {dump : Dump} {id target : String} {first second : Nat}
    (hfirst : Trail.keyAt? dump.aliasOf? id first = some target)
    (hsecond : Trail.keyAt? dump.aliasOf? id second = some target) (hlt : first < second) :
    dump.classOf? id = none := by
  refine classOf?_eq_none fun steps _ own hend => ?_
  obtain ⟨beyond, hbeyond⟩ := Trail.exists_keyAt?_of_repeated hfirst hsecond hlt (steps + 1)
  rw [hend.keyAt?_eq_none (Nat.lt_succ_self steps)] at hbeyond
  cases hbeyond

/-- A service behind more than 32 aliases gives them no class. -/
theorem classOf?_of_far {dump : Dump} {id target : String} {hops : Nat}
    (hreach : Trail.keyAt? dump.aliasOf? id hops = some target) (hfar : 32 < hops) :
    dump.classOf? id = none := by
  refine classOf?_eq_none fun steps hle own hend => ?_
  rw [hend.keyAt?_eq_none (by omega)] at hreach
  cases hreach

/-- Without a context exactly the defined services are found, each with its own visibility. Its
class is the one at the end of its aliases, if they end within 32 steps; a chain into the unknown,
into a circle or beyond that gives none. In a document the last element with an identifier tells
the visibility, and an alias of the empty identifier leads into the unknown. -/
theorem find?_alone_follows_aliases :
    (∀ (dump : Dump) (id : String) (definition : Definition),
      dump.definitions.get? id = some definition →
      ∃ className, dump.find? id none = some ⟨id, className, definition.visibility⟩ ∧
        (∀ c, className = some c ↔
          ∃ hops ≤ 32, ∃ own, dump.LeadsTo id hops own ∧ own.className = some c) ∧
        (∀ hops target, Trail.keyAt? dump.aliasOf? id hops = some target →
          dump.definitions.get? target = none → className = none) ∧
        (∀ first second target, Trail.keyAt? dump.aliasOf? id first = some target →
          Trail.keyAt? dump.aliasOf? id second = some target → first < second →
          className = none) ∧
        (∀ hops target, Trail.keyAt? dump.aliasOf? id hops = some target → 32 < hops →
          className = none)) ∧
    (∀ (root : Xml.Node) (id : String) (definition : Definition),
      (ofDocument root).definitions.get? id = some definition →
      ∃ before element after, identified root = before ++ (id, element) :: after ∧
        id ∉ keysOf after ∧ definition.className = element.attribute? "class" ∧
        definition.aliasOf = element.attribute? "alias" ∧
        (definition.visibility = .exposed ↔ element.attribute? "public" = some "true") ∧
        ∀ hops, Trail.keyAt? (ofDocument root).aliasOf? id hops = some "" →
          (ofDocument root).find? id none = some ⟨id, none, definition.visibility⟩) := by
  constructor
  · intro dump id definition hdefined
    refine ⟨dump.classOf? id, by simp [find?_alone, hdefined], ?_, ?_, ?_, ?_⟩
    · exact fun c => classOf?_eq_some_iff
    · exact fun hops target hreach hunknown => classOf?_of_dangling hreach hunknown
    · exact fun first second target hfirst hsecond hlt => classOf?_of_circle hfirst hsecond hlt
    · exact fun hops target hreach hfar => classOf?_of_far hreach hfar
  · intro root id definition hdefined
    have hmapped := hdefined
    rw [get?_definitions_ofDocument] at hmapped
    obtain ⟨element, helement, rfl⟩ := Option.map_eq_some_iff.1 hmapped
    obtain ⟨before, after, hsplit, hlast⟩ := lastValue?_eq_some_iff.1 helement
    refine ⟨before, element, after, hsplit, hlast, rfl, rfl, visibility_definitionOf element, ?_⟩
    intro hops hreach
    have hnone := classOf?_of_dangling hreach (get?_definitions_empty root)
    simp [find?_alone, hdefined, hnone]

/-- A chain of services: each is an alias of the one before it, and service 0 has a class. -/
def chain (length : Nat) : Dump where
  definitions := Table.ofList (("0", ⟨some "End", .exposed, none⟩) ::
    (List.range length).map fun n => (toString (n + 1), ⟨none, .internal, some (toString n)⟩))
  locators := {}

/-- The end of a chain is seen 32 aliases away and no more 33 aliases away. -/
theorem find?_chain_at_limit :
    (chain 33).find? "32" none = some ⟨"32", some "End", .internal⟩ ∧
      (chain 33).find? "33" none = some ⟨"33", none, .internal⟩ ∧
      (ofDocument (documentOf [plainElement "service" [("id", "a"), ("alias", "")] []])).find? "a"
        none = some ⟨"a", none, .internal⟩ := by
  obtain ⟨near, hnear, hclass, -⟩ := find?_alone_follows_aliases.1 (chain 33) "32"
    ⟨none, .internal, some "31"⟩ (by decide +kernel)
  obtain ⟨far, hfar, -, -, -, hnone⟩ := find?_alone_follows_aliases.1 (chain 33) "33"
    ⟨none, .internal, some "32"⟩ (by decide +kernel)
  obtain ⟨_, _, _, -, -, -, -, -, hempty⟩ := find?_alone_follows_aliases.2
    (documentOf [plainElement "service" [("id", "a"), ("alias", "")] []]) "a"
    ⟨none, .internal, some ""⟩ (by decide +kernel)
  have hend : near = some "End" := (hclass "End").2
    ⟨32, Nat.le_refl 32, ⟨some "End", .exposed, none⟩,
      ⟨"0", by decide +kernel, by decide +kernel, rfl⟩, rfl⟩
  have hlost : far = none := hnone 33 "0" (by decide +kernel) (by decide)
  exact ⟨hend ▸ hnear, hlost ▸ hfar, hempty 1 (by decide +kernel)⟩

end ServiceWiring.Dump
