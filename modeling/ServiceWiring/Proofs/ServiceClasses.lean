import ServiceWiring.Dispatch
import ServiceWiring.Proofs.LetterCase
import ServiceWiring.Proofs.Tables

/-!
What counts as the class of a service. The engine answers this question in three places: when it
exempts declared classes, when it vetoes reports about constructors and when it refers a file to
all services. The places agree with each other, for any class name and any capitalisation.
-/

namespace ServiceWiring.Engine

open Text

/-- A service of the engine has this class, up to capitalisation. -/
def HasClass (engine : Engine) (className : String) : Prop :=
  ∃ known ∈ engine.classNames, lowercase known = lowercase className

theorem isServiceClass_iff (engine : Engine) (className : String) :
    engine.isServiceClass className = true ↔ engine.HasClass className := by
  simp [isServiceClass, serviceKeys, HasClass]

/-- The keys are the classes of the services in lower case. -/
theorem mem_serviceKeys_iff {engine : Engine} {key : String} :
    key ∈ engine.serviceKeys ↔ ∃ className ∈ engine.classNames, lowercase className = key := by
  simp [serviceKeys]

theorem classNames_of_isDegraded {engine : Engine} (hdegraded : engine.isDegraded = true) :
    engine.classNames = [] := by
  have hnone : engine.registry = none := by simpa [isDegraded] using hdegraded
  simp [classNames, hnone]

/-- When the codebase is known, a class is exempted exactly if it is the class of a service. -/
theorem populated_exempts_iff (engine : Engine) (codebase : Codebase) (scene : Scene)
    {place : Nat} {declared : ClassRecord} (hplace : scene.host.classes[place]? = some declared)
    (hopen : unusedClass ∉ declared.suppressed) :
    (∃ exempted,
      (engine.respond codebase .codebasePopulated scene).host.classes[place]? = some exempted ∧
        unusedClass ∈ exempted.suppressed) ↔ engine.HasClass declared.key := by
  have hafter :
      (engine.respond codebase .codebasePopulated scene).host.classes[place]? =
        some (if engine.isServiceClass declared.key then declared.exempt else declared) := by
    simp [respond, Host.exempt, hplace]
  rw [hafter, ← isServiceClass_iff]
  by_cases hservice : engine.isServiceClass declared.key = true
  · simp [hservice, ClassRecord.exempt, hopen]
  · simp [hservice, hopen]

theorem constructedClass_append (className : String) :
    constructedClass (className ++ "::__construct") = className := by
  have hmark : ("::" ++ constructorName).toList = "::__construct".toList := by decide
  have hsuffix : ("::__construct".toList).isSuffixOf
      (className.toList ++ "::__construct".toList) = true := by
    rw [List.isSuffixOf_iff_suffix]
    exact List.suffix_append _ _
  simp only [constructedClass, hmark, String.toList_append, hsuffix, if_true]
  simp

/-- A report about the constructor of a class is vetoed exactly if it is the class of a service. -/
theorem vetoes_constructor_iff (engine : Engine) (className : String) :
    engine.opinion (.issueReported
      ⟨possiblyUnusedMethod, some constructorName, some (className ++ "::__construct")⟩) =
        some .suppressed ↔ engine.HasClass className := by
  rw [← isServiceClass_iff]
  simp [opinion, vetoes, constructedClass_append]

theorem lowercase_constructor (className : String) :
    lowercase (className ++ "::__construct") = lowercase className ++ "::__construct" := by
  have hcased : meetsCased "::__construct".toList = false := by decide +kernel
  have hsettled : "::__construct".toList.all (decide <| IsSettled ·) = true := by decide +kernel
  apply lowercase_append className hcased
  intro c hc
  exact of_decide_eq_true (List.all_eq_true.1 hsettled c hc)

theorem mem_keys_addReferences (references : Table String) (classNames : List String)
    (key : String) :
    key ∈ (Host.addReferences references classNames).keys ↔
      key ∈ references.keys ∨ ∃ name ∈ classNames, lowercase name = key := by
  induction classNames generalizing references with
  | nil => simp [Host.addReferences]
  | cons name rest ih =>
    have hstep : Host.addReferences references (name :: rest) =
        Host.addReferences (references.put (lowercase name) name) rest := rfl
    rw [hstep, ih, Table.mem_keys_put]
    simp [eq_comm, or_assoc, or_left_comm]

/-- A visit of a container type lets a file without references refer to the classes of services,
and to no others. -/
theorem visited_refers_iff (engine : Engine) (codebase : Codebase) (scene : Scene)
    {containerType file key : String} (hcontainer : isContainerType containerType = true)
    (hfresh : scene.host.references.get? file = none) :
    (∃ references,
      (engine.respond codebase (.classVisited containerType file) scene).host.references.get? file =
        some references ∧ key ∈ references.keys) ↔
      ∃ name ∈ engine.classNames, lowercase name = key := by
  cases hdegraded : engine.isDegraded with
  | true =>
    have hvisit : engine.visit containerType file scene.host = scene.host := by
      simp [visit, hdegraded]
    simp [respond, hvisit, hfresh, classNames_of_isDegraded hdegraded]
  | false =>
    have hvisit : engine.visit containerType file scene.host =
        scene.host.refer file engine.classNames := by
      simp [visit, hdegraded, hcontainer]
    have hkeys := mem_keys_addReferences {} engine.classNames key
    have hempty : key ∉ ({} : Table String).keys := List.not_mem_nil
    simp [respond, hvisit, Host.refer, hfresh, hkeys, hempty]

/-- All places agree on what a service class is: a name that one of the engine's classes has up to
capitalisation is exempted when the codebase is known, vetoed as a constructor in each of the three
ways in which its key may be written, and referred to from a file that declares a container type.
An engine without a registry knows no service class. -/
theorem service_class_views_agree (engine : Engine) (codebase : Codebase) (className : String) :
    (∀ (scene : Scene) (place : Nat) (declared : ClassRecord),
      scene.host.classes[place]? = some declared → declared.key = lowercase className →
      unusedClass ∉ declared.suppressed →
      (engine.HasClass className ↔ ∃ exempted,
        (engine.respond codebase .codebasePopulated scene).host.classes[place]? =
          some exempted ∧ unusedClass ∈ exempted.suppressed)) ∧
    (∀ key ∈ [className ++ "::__construct", lowercase className ++ "::__construct",
        lowercase (className ++ "::__construct")],
      (engine.HasClass className ↔
        engine.opinion (.issueReported ⟨possiblyUnusedMethod, some constructorName, some key⟩) =
          some .suppressed)) ∧
    (∀ (scene : Scene) (containerType file : String), isContainerType containerType = true →
      scene.host.references.get? file = none →
      (engine.HasClass className ↔ ∃ references,
        (engine.respond codebase (.classVisited containerType file) scene).host.references.get?
          file = some references ∧ lowercase className ∈ references.keys)) ∧
    (engine.isDegraded = true → ¬ engine.HasClass className) := by
  have hlower : engine.HasClass (lowercase className) ↔ engine.HasClass className := by
    simp [HasClass]
  refine ⟨?_, ?_, ?_, ?_⟩
  · intro scene place declared hplace hkey hopen
    rw [populated_exempts_iff engine codebase scene hplace hopen, hkey, hlower]
  · intro key hmem
    simp only [List.mem_cons, List.not_mem_nil, or_false] at hmem
    rcases hmem with rfl | rfl | rfl
    · exact (vetoes_constructor_iff engine className).symm
    · rw [vetoes_constructor_iff, hlower]
    · rw [lowercase_constructor, vetoes_constructor_iff, hlower]
  · intro scene containerType file hcontainer hfresh
    exact (visited_refers_iff engine codebase scene hcontainer hfresh).symm
  · rintro hdegraded ⟨known, hmem, -⟩
    simp [classNames_of_isDegraded hdegraded] at hmem

/-- A class whose name grows in lower case and ends in a capital sigma is seen by all places. -/
theorem service_class_views_of_sigma :
    let engine := ofRegistry ⟨fun _ _ => none, ["\u0130ΑΣ"]⟩
    let declared : ClassRecord := ⟨"i\u0307ας", []⟩
    (∃ exempted,
      (engine.respond {} .codebasePopulated
        ⟨{ classes := [declared] }, {}, none⟩).host.classes[0]? = some exempted ∧
        unusedClass ∈ exempted.suppressed) ∧
    engine.opinion (.issueReported ⟨possiblyUnusedMethod, some constructorName,
      some (lowercase ("\u0130ΑΣ" ++ "::__construct"))⟩) = some .suppressed ∧
    ∃ references,
      (engine.respond {} (.classVisited "Psr\\Container\\ContainerInterface" "a.php")
        ⟨{}, {}, none⟩).host.references.get? "a.php" = some references ∧
      lowercase "\u0130ΑΣ" ∈ references.keys := by
  intro engine declared
  obtain ⟨hpopulated, hreported, hvisited, -⟩ := service_class_views_agree engine {} "\u0130ΑΣ"
  have hclass : engine.HasClass "\u0130ΑΣ" := ⟨"\u0130ΑΣ", List.mem_singleton.2 rfl, rfl⟩
  refine ⟨?_, ?_, ?_⟩
  · exact (hpopulated ⟨{ classes := [declared] }, {}, none⟩ 0 declared rfl (by decide +kernel)
      (by decide)).1 hclass
  · exact (hreported (lowercase ("\u0130ΑΣ" ++ "::__construct")) (by simp)).1 hclass
  · exact (hvisited ⟨{}, {}, none⟩ "Psr\\Container\\ContainerInterface" "a.php" (by decide) rfl).1
      hclass

end ServiceWiring.Engine
