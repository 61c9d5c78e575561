import ServiceWiring.Proofs.Diagnostics

/-!
Which calls stand in a test. The question whether a class inherits from another one is for the host
to answer, which walks through the parents of the class and stops where they end or come back. For
any table of parents, with circles in it or without, the engine takes a call for one of a test
exactly if the base of test classes is the parent of the class in which the call stands or one of
that parent's ancestors, and internal services are reported for all other calls.
-/

namespace ServiceWiring

namespace Trail

variable {links : Table String} {goal key : String}

/-- With each key that is met for the first time fewer keys are left. -/
theorem card_unmet_lt {met : List String} {following : String}
    (hlink : links.get? key = some following) (hfresh : following ∉ met) :
    (links.values.toFinset \ (following :: met).toFinset).card <
      (links.values.toFinset \ met.toFinset).card := by
  have hvalue : following ∈ links.values.toFinset :=
    List.mem_toFinset.2 ((links.mem_values_iff following).2 ⟨key, hlink⟩)
  have hunmet : following ∈ links.values.toFinset \ met.toFinset :=
    Finset.mem_sdiff.2 ⟨hvalue, fun hmet => hfresh (List.mem_toFinset.1 hmet)⟩
  rw [List.toFinset_cons, Finset.sdiff_insert]
  exact Finset.card_lt_card (Finset.erase_ssubset hunmet)

/-- Whether a walk along the links from `key` meets `goal` behind `key`. The walk ends where there
is no link or at a key that it has met. -/
def walkMeets (links : Table String) (goal : String) (met : List String) (key : String) : Bool :=
  match _ : links.get? key with
  | none => false
  | some following =>
    if following ∈ met then false
    else if following = goal then true
    else walkMeets links goal (following :: met) following
termination_by (links.values.toFinset \ met.toFinset).card
decreasing_by exact card_unmet_lt ‹_› ‹_›

/-- A key that the walk finds lies behind its start. -/
theorem exists_keyAt?_of_walkMeets {met : List String}
    (hmeets : walkMeets links goal met key = true) :
    ∃ steps, keyAt? links.get? key (steps + 1) = some goal := by
  fun_induction walkMeets links goal met key with
  | case1 met key hlink => cases hmeets
  | case2 met key following hlink hmet => cases hmeets
  | case3 met key hlink hfresh => exact ⟨0, by rw [keyAt?_succ, hlink]; rfl⟩
  | case4 met key following hlink hfresh hother ih =>
    obtain ⟨steps, hreach⟩ := ih hmeets
    exact ⟨steps + 1, by rw [keyAt?_succ, hlink]; exact hreach⟩

/-- All that is met before the walk comes to `key` has its next key among what is met. -/
def Closed (links : Table String) (met : List String) (key : String) : Prop :=
  ∀ place ∈ met, place ≠ key → ∃ following ∈ met, links.get? place = some following

/-- The trail never leaves keys that lead to each other. -/
theorem keyAt?_mem_of_closed {met : List String}
    (hclosed : ∀ place ∈ met, ∃ following ∈ met, links.get? place = some following)
    (hkey : key ∈ met) {steps : Nat} {there : String}
    (hreach : keyAt? links.get? key steps = some there) : there ∈ met := by
  induction steps generalizing key with
  | zero =>
    rw [keyAt?_zero, Option.some.injEq] at hreach
    exact hreach ▸ hkey
  | succ steps ih =>
    obtain ⟨following, hfollowing, hlink⟩ := hclosed key hkey
    rw [keyAt?_succ, hlink] at hreach
    exact ih hfollowing hreach

/-- Where the walk gives up, the goal does not lie behind its start: the trail ends, or goes in
circles through keys that have been met. -/
theorem keyAt?_ne_of_not_walkMeets {met : List String} (hgoal : goal ∉ met)
    (hclosed : Closed links met key) (hmeets : walkMeets links goal met key = false)
    (steps : Nat) : keyAt? links.get? key (steps + 1) ≠ some goal := by
  fun_induction walkMeets links goal met key generalizing steps with
  | case1 met key hlink => simp [keyAt?_succ, hlink]
  | case2 met key following hlink hmet =>
    have hcircle : ∀ place ∈ met, ∃ next ∈ met, links.get? place = some next := by
      intro place hplace
      by_cases hhere : place = key
      · exact ⟨following, hmet, hhere ▸ hlink⟩
      · exact hclosed place hplace hhere
    intro hreach
    rw [keyAt?_succ, hlink] at hreach
    exact hgoal (keyAt?_mem_of_closed hcircle hmet hreach)
  | case3 met key hlink hfresh => cases hmeets
  | case4 met key following hlink hfresh hother ih =>
    have hnext : Closed links (following :: met) following := by
      intro place hplace hbefore
      have hold : place ∈ met := (List.mem_cons.1 hplace).resolve_left hbefore
      by_cases hhere : place = key
      · exact ⟨following, List.mem_cons_self, hhere ▸ hlink⟩
      · obtain ⟨next, hmem, honward⟩ := hclosed place hold hhere
        exact ⟨next, List.mem_cons_of_mem following hmem, honward⟩
    rw [keyAt?_succ, hlink]
    cases steps with
    | zero => simpa using hother
    | succ steps =>
      have hgoal' : goal ∉ following :: met := by
        rw [List.mem_cons, not_or]
        exact ⟨Ne.symm hother, hgoal⟩
      exact ih hgoal' hnext hmeets steps

/-- The walk that stops at a repeated key misses nothing. -/
theorem walkMeets_iff :
    walkMeets links goal [] key = true ↔
      ∃ steps, keyAt? links.get? key (steps + 1) = some goal := by
  refine ⟨exists_keyAt?_of_walkMeets, fun ⟨steps, hreach⟩ => ?_⟩
  by_contra hmeets
  rw [Bool.not_eq_true] at hmeets
  exact keyAt?_ne_of_not_walkMeets List.not_mem_nil (List.forall_mem_nil _) hmeets steps hreach

end Trail

namespace Codebase

def inherits (codebase : Codebase) (className ancestor : String) : Bool :=
  Trail.walkMeets codebase.parents ancestor [] className

theorem inherits_iff {codebase : Codebase} {className ancestor : String} :
    codebase.inherits className ancestor = true ↔
      ∃ steps, Trail.keyAt? codebase.parents.get? className (steps + 1) = some ancestor :=
  Trail.walkMeets_iff

/-- A class descends from itself and from what the host says that it inherits from. -/
theorem descends_eq (codebase : Codebase) (className ancestor : String) :
    codebase.descends className ancestor =
      (className == ancestor || codebase.inherits className ancestor) := by
  rw [Bool.eq_iff_iff, Bool.or_eq_true, beq_iff_eq, inherits_iff, descends, Trail.meets_size_iff]
  constructor
  · rintro ⟨steps, hreach⟩
    cases steps with
    | zero => exact .inl (by simpa using hreach)
    | succ steps => exact .inr ⟨steps, hreach⟩
  · rintro (hsame | ⟨steps, hreach⟩)
    · exact ⟨0, by simpa using hsame⟩
    · exact ⟨steps + 1, hreach⟩

end Codebase

/-- The engine asks itself whether the parent is the base of test classes, and the host whether it
inherits from it. -/
theorem CallSite.isInTest_eq (site : CallSite) (codebase : Codebase) :
    site.isInTest codebase =
      site.parentClass.any fun parent =>
        parent == testBase || codebase.inherits parent testBase := by
  simp only [isInTest, Codebase.descends_eq]

namespace Engine

open Identifier (Denotes)

/-- What comes of a call that fetches a service of which the registry knows, where nothing is
suppressed. -/
theorem dispatch_of_found {registry : Registry} {codebase : Codebase} {site : CallSite}
    {argument : Expression} {id : String} {service : Service} (hfetch : site.Fetches .service)
    (hpasses : site.Passes argument) (hdenotes : Denotes codebase site.enclosing argument id)
    (hfound : registry.find? id site.selfClass = some service) (hopen : site.suppressed = [])
    (scene : Scene) :
    (dispatch codebase [.engine (ofRegistry registry)] (.callAnalyzed site) scene).2 =
      { host := scene.host.know service.className.toList
        log := ⟨scene.log.issues ++
          site.serviceIssues codebase (site.locationOf argument) id (some service)⟩
        candidate := service.className.or scene.candidate } := by
  have hrespond : (dispatch codebase [.engine (ofRegistry registry)] (.callAnalyzed site) scene).2 =
      scene.adopt ((ofRegistry registry).inspect codebase site scene.candidate)
        site.suppressed := by
    rw [dispatch_scene]
    rfl
  rw [hrespond, inspect_of_denotes hfetch hpasses hdenotes, hfound, hopen]
  simp [Scene.adopt, IssueLog.foldl_offer, CallSite.serviceFindings, Issue.isSuppressedBy]

/-- An internal service that a call fetches is reported exactly if the class in which the call
stands has no parent, or neither this parent nor any ancestor of it is the base of test classes,
whatever the table of parents holds; the decision is the engine's comparison of the parent itself
and the host's walk through the ancestors, which comes to an end in every table. The class that the
call returns, the classes made known and the issue about the spelling depend on none of this. -/
theorem internal_services_reported_outside_tests (registry : Registry) (codebase : Codebase)
    (site : CallSite) {argument : Expression} {id : String} {service : Service}
    (hfetch : site.Fetches .service) (hpasses : site.Passes argument)
    (hdenotes : Denotes codebase site.enclosing argument id)
    (hfound : registry.find? id site.selfClass = some service)
    (hinternal : service.visibility = .internal) (hopen : site.suppressed = []) (scene : Scene)
    (parents : Table String) (parentClass : Option String) :
    let location := site.locationOf argument
    ∃ access,
      (dispatch { codebase with parents := parents } [.engine (ofRegistry registry)]
          (.callAnalyzed { site with parentClass := parentClass }) scene).2 =
        { host := scene.host.know service.className.toList
          log := ⟨scene.log.issues ++
            ((if Naming.Misspelt id then [.namingConvention location] else []) ++ access)⟩
          candidate := service.className.or scene.candidate } ∧
      (access = [.privateService id location] ∨ access = []) ∧
      (access = [.privateService id location] ↔
        parentClass = none ∨ ∃ parent, parentClass = some parent ∧
          ∀ steps, Trail.keyAt? parents.get? parent steps ≠ some testBase) ∧
      (access = [] ↔ ∃ parent, parentClass = some parent ∧
        (parent = testBase ∨
          Codebase.inherits { codebase with parents := parents } parent testBase = true)) := by
  intro location
  let place : Codebase := { codebase with parents := parents }
  let here : CallSite := { site with parentClass := parentClass }
  have hdenotesHere : Denotes place here.enclosing argument id := by
    obtain ⟨identifier, hread, hvalue⟩ := Identifier.exists_ofExpression?_iff.2 hdenotes
    exact Identifier.exists_ofExpression?_iff.1 ⟨identifier, hread, hvalue⟩
  have hhidden : service.isExposed = false := by simp [Service.isExposed, hinternal]
  have hinside : here.isInTest place = true ↔
      ∃ parent, parentClass = some parent ∧
        (parent = testBase ∨ place.inherits parent testBase = true) := by
    simp [here, CallSite.isInTest_eq, Option.any_eq_true]
  have houtside : here.isInTest place = false ↔
      parentClass = none ∨ ∃ parent, parentClass = some parent ∧
        ∀ steps, Trail.keyAt? parents.get? parent steps ≠ some testBase := by
    rw [Bool.eq_false_iff, ne_eq, CallSite.isInTest_iff]
    cases parentClass <;> simp [here, place, CallSite.StandsInTest]
  refine ⟨if here.isInTest place then [] else [.privateService id location], ?_, ?_, ?_, ?_⟩
  · have hfetchHere : here.Fetches .service := hfetch
    have hpassesHere : here.Passes argument := hpasses
    refine (dispatch_of_found hfetchHere hpassesHere hdenotesHere hfound hopen scene).trans ?_
    simp [CallSite.serviceIssues, spellingIssues_eq Naming.offends_iff, hhidden,
      CallSite.locationOf, here, location]
  · cases here.isInTest place <;> simp
  · rw [← houtside]
    cases here.isInTest place <;> simp
  · rw [← hinside]
    cases here.isInTest place <;> simp

/-- Fetched in a class whose ancestors go in a circle, an internal service is reported unless the
base of test classes is one of them. -/
theorem hidden_mailer_among_circular_ancestors :
    let registry : Registry := ⟨fun id _ => some ⟨id, some "Smtp", .internal⟩, []⟩
    let site : CallSite :=
      { methodId := "Psr\\Container\\ContainerInterface::get"
        arguments := [.given (.literal none "mailer") false none]
        parentClass := some "Unit"
        file := "a.php" }
    let fetched (parents : Table String) : Scene :=
      (dispatch { parents := parents } [.engine (ofRegistry registry)] (.callAnalyzed site)
        ⟨{}, {}, none⟩).2
    let around := Table.ofList [("Unit", "Base"), ("Base", testBase), (testBase, "Unit")]
    let beside := Table.ofList [("Unit", "Base"), ("Base", "Unit"), (testBase, "Unit")]
    (fetched around).log = {} ∧
      (fetched beside).log = ⟨[.privateService "mailer" { file := "a.php" }]⟩ ∧
      (fetched around).candidate = some "Smtp" ∧ (fetched beside).candidate = some "Smtp" := by
  intro registry site fetched around beside
  have hfetch : site.Fetches .service :=
    ⟨"Psr\\Container\\ContainerInterface", by decide, by decide +kernel⟩
  have hplain : ¬ Naming.Misspelt "mailer" := by decide +kernel
  have hreported (parents : Table String) :=
    internal_services_reported_outside_tests registry {} site hfetch ⟨none, [], rfl⟩ .literal rfl
      rfl rfl ⟨{}, {}, none⟩ parents (some "Unit")
  simp only [if_neg hplain, List.nil_append] at hreported
  obtain ⟨inside, hinside, -, -, hnone⟩ := hreported around
  obtain ⟨outside, houtside, heither, -, hsome⟩ := hreported beside
  have hreached : inside = [] :=
    hnone.2 ⟨"Unit", rfl, .inr (Codebase.inherits_iff.2 ⟨1, by decide +kernel⟩)⟩
  have hmissed : outside ≠ [] := by
    intro hempty
    obtain ⟨parent, hparent, htest⟩ := hsome.1 hempty
    cases hparent
    have hdescends : Codebase.descends { parents := beside } "Unit" testBase = true := by
      simpa [Codebase.descends_eq] using htest
    have hcomputed : Codebase.descends { parents := beside } "Unit" testBase = false := by
      decide +kernel
    rw [hcomputed] at hdescends
    cases hdescends
  rw [show fetched around = _ from hinside, show fetched beside = _ from houtside, hreached,
    heither.resolve_right hmissed]
  exact ⟨rfl, rfl, rfl, rfl⟩

end Engine

end ServiceWiring
