import Mathlib.Data.List.Forall2
import ServiceWiring.Proofs.EventOrder

/-!
Which declared classes a whole session exempts from reports that they are unused. Only populating
the codebase changes the declared classes, and exempting twice is exempting once, so a run exempts
what at least one of its populations does.
-/

namespace ServiceWiring

namespace Engine

def Serves (engine : Engine) (key : String) : Prop :=
  engine.isDegraded = false ∧ engine.HasClass key

theorem isServiceClass_iff_serves (engine : Engine) (key : String) :
    engine.isServiceClass key = true ↔ engine.Serves key := by
  rw [isServiceClass_iff]
  constructor
  · intro hclass
    refine ⟨?_, hclass⟩
    cases hdegraded : engine.isDegraded with
    | false => rfl
    | true =>
      obtain ⟨known, hmem, -⟩ := hclass
      rw [classNames_of_isDegraded hdegraded] at hmem
      cases hmem
  · exact And.right

end Engine

namespace ClassRecord

variable {declared : ClassRecord}

theorem exempt_of_mem (hdone : unusedClass ∈ declared.suppressed) : declared.exempt = declared := by
  simp [exempt, hdone]

theorem exempt_of_not_mem (hopen : unusedClass ∉ declared.suppressed) :
    declared.exempt = { declared with suppressed := declared.suppressed ++ [unusedClass] } := by
  simp [exempt, hopen]

end ClassRecord

namespace Host

/-- What is exempted depends on the declared classes of the host only. -/
theorem classes_exempt_congr {host other : Host} (hsame : host.classes = other.classes)
    (p : String → Bool) : (host.exempt p).classes = (other.exempt p).classes := by
  simp [exempt, hsame]

theorem classes_exempt_nothing (host : Host) :
    (host.exempt fun _ => false).classes = host.classes := by
  simp [exempt]

end Host

namespace Session

def Serves (session : Session) (key : String) : Prop :=
  ∃ engine ∈ enginesOf session.handlers, engine.Serves key

/-- One of the steps populates the codebase when an engine, set up at the start or by a step before
it, serves the class with this key. -/
def PopulatesServed (session : Session) (steps : List Step) (key : String) : Prop :=
  ∃ before after, steps = before ++ .populate :: after ∧
    ∃ engine ∈ enginesOf session.handlers ++ before.filterMap Step.engine?, engine.Serves key

variable {session : Session}

instance (session : Session) (key : String) : Decidable (session.Serves key) :=
  decidable_of_iff ((enginesOf session.handlers).any (·.isServiceClass key) = true) (by
    simp [Serves, Engine.isServiceClass_iff_serves])

/-- The engines after a run are those before it and those that its steps set up. -/
theorem serves_run_iff {steps : List Step} {key : String} :
    (session.run steps).2.Serves key ↔
      ∃ engine ∈ enginesOf session.handlers ++ steps.filterMap Step.engine?, engine.Serves key := by
  rw [Serves, enginesOf_run]

theorem not_populatesServed_nil {key : String} : ¬ session.PopulatesServed [] key := by
  rintro ⟨before, after, hsplit, -⟩
  exact List.append_ne_nil_of_right_ne_nil before (List.cons_ne_nil _ after) hsplit.symm

/-- The first step decides by the engines there are, and the rest by those there are then. -/
theorem populatesServed_cons_iff {step : Step} {rest : List Step} {key : String} :
    session.PopulatesServed (step :: rest) key ↔
      step = .populate ∧ session.Serves key ∨
        (session.step step).2.PopulatesServed rest key := by
  simp only [PopulatesServed, ← serves_run_iff]
  constructor
  · rintro ⟨before, after, hsplit, hserves⟩
    cases before with
    | nil =>
      obtain ⟨rfl, rfl⟩ := List.cons.inj hsplit
      exact .inl ⟨rfl, hserves⟩
    | cons first others =>
      obtain ⟨rfl, rfl⟩ := List.cons.inj hsplit
      exact .inr ⟨others, after, rfl, hserves⟩
  · rintro (⟨rfl, hserves⟩ | ⟨before, after, rfl, hserves⟩)
    · exact ⟨[], rest, rfl, hserves⟩
    · exact ⟨step :: before, after, rfl, hserves⟩

theorem classes_step_of_ne_populate {step : Step} (hother : step ≠ .populate) :
    (session.step step).2.host.classes = session.host.classes := by
  by_cases hraises : ∃ kind, step.Raises kind
  · obtain ⟨kind, hkind⟩ := hraises
    cases hkind with
    | visit =>
      rw [step_visit]
      exact classes_visited
    | populate => exact absurd rfl hother
    | call => rw [step_call]; rfl
    | report => rw [step_report]
  · rw [step_of_not_raises session (not_exists.1 hraises)]

/-- A step exempts the classes that are served if it populates the codebase, and else nothing. -/
theorem exists_classes_step (session : Session) (step : Step) :
    ∃ p, (session.step step).2.host.classes = (session.host.exempt p).classes ∧
      ∀ key, p key = true ↔ step = .populate ∧ session.Serves key := by
  by_cases hpopulate : step = .populate
  · subst hpopulate
    refine ⟨fun key => (enginesOf session.handlers).any (·.isServiceClass key), ?_, ?_⟩
    · rw [step_populate]
    · intro key
      simp [Serves, Engine.isServiceClass_iff_serves]
  · refine ⟨fun _ => false, ?_, ?_⟩
    · rw [classes_step_of_ne_populate hpopulate, Host.classes_exempt_nothing]
    · simp [hpopulate]

/-- A run exempts the classes that are served when one of its steps populates the codebase. -/
theorem exists_classes_run (session : Session) (steps : List Step) :
    ∃ p, (session.run steps).2.host.classes = (session.host.exempt p).classes ∧
      ∀ key, p key = true ↔ session.PopulatesServed steps key := by
  induction steps generalizing session with
  | nil =>
    refine ⟨fun _ => false, (Host.classes_exempt_nothing session.host).symm, ?_⟩
    simp [not_populatesServed_nil]
  | cons step rest ih =>
    obtain ⟨first, hfirst, hserved⟩ := exists_classes_step session step
    obtain ⟨later, hlater, hpopulates⟩ := ih (session.step step).2
    refine ⟨fun key => first key || later key, ?_, ?_⟩
    · calc
        (session.run (step :: rest)).2.host.classes
          = ((session.step step).2.host.exempt later).classes := by rw [run_cons, hlater]
        _ = ((session.host.exempt first).exempt later).classes :=
          Host.classes_exempt_congr hfirst later
        _ = (session.host.exempt fun key => first key || later key).classes := by
          rw [Host.exempt_exempt]
    · intro key
      rw [Bool.or_eq_true, hserved, hpopulates, populatesServed_cons_iff]

/-- Populating the codebase again changes nothing while no class is served that was not served when
it was populated before. -/
theorem step_populate_of_exempted {steps : List Step}
    (hexempted : ∀ key, (session.run steps).2.Serves key → session.PopulatesServed steps key) :
    ((session.run steps).2.step .populate).2 = (session.run steps).2 := by
  obtain ⟨p, hrun, hpopulates⟩ := exists_classes_run session steps
  let served (key : String) : Bool :=
    (enginesOf (session.run steps).2.handlers).any (·.isServiceClass key)
  have hcovered : (fun key => p key || served key) = p := by
    funext key
    cases hserved : served key with
    | false => simp
    | true =>
      have hserves : (session.run steps).2.Serves key := by
        simpa [served, Serves, Engine.isServiceClass_iff_serves] using hserved
      rw [(hpopulates key).2 (hexempted key hserves), Bool.true_or]
  have hclasses : ((session.run steps).2.host.exempt served).classes =
      (session.run steps).2.host.classes := by
    rw [Host.classes_exempt_congr hrun served, Host.exempt_exempt, hcovered, hrun]
  have hhost : (session.run steps).2.host.exempt served = (session.run steps).2.host :=
    congrArg (fun classes => { (session.run steps).2.host with classes := classes }) hclasses
  rw [step_populate]
  exact congrArg (fun host => { (session.run steps).2 with host := host }) hhost

/-- As long as no engine is set up, exempting the classes again changes nothing. -/
theorem step_populate_after_populate {between : List Step}
    (hquiet : between.filterMap Step.engine? = []) :
    ((session.run (.populate :: between)).2.step .populate).2 =
      (session.run (.populate :: between)).2 := by
  apply step_populate_of_exempted
  intro key hserves
  obtain ⟨engine, hmem, hkey⟩ := serves_run_iff.1 hserves
  have hengines : (Step.populate :: between).filterMap Step.engine? = [] := by
    rw [List.filterMap_cons_none rfl, hquiet]
  rw [hengines, List.append_nil] at hmem
  exact populatesServed_cons_iff.2 (.inl ⟨rfl, engine, hmem, hkey⟩)

/-- A run keeps the declared classes in their places. A class whose unused reports were suppressed
before is as it was, and so is a class that no engine served when the codebase was populated; any
other has reports that it is unused suppressed once, after all that was suppressed for it before.
Populating the codebase again changes nothing, whatever the steps in between, unless they set
another engine up. -/
theorem run_exempts_once (session : Session) (steps : List Step) :
    List.Forall₂
      (fun before after =>
        (unusedClass ∈ before.suppressed ∨ ¬ session.PopulatesServed steps before.key →
          after = before) ∧
        (unusedClass ∉ before.suppressed → session.PopulatesServed steps before.key →
          after = { before with suppressed := before.suppressed ++ [unusedClass] }))
      session.host.classes (session.run steps).2.host.classes ∧
    ∀ between, between.filterMap Step.engine? = [] →
      ((session.run (.populate :: between)).2.step .populate).2 =
        (session.run (.populate :: between)).2 := by
  constructor
  · obtain ⟨p, hrun, hpopulates⟩ := exists_classes_run session steps
    rw [hrun, Host.exempt, List.forall₂_map_right_iff, List.forall₂_same]
    intro declared _
    constructor
    · rintro (hdone | hunserved)
      · rw [ClassRecord.exempt_of_mem hdone, ite_self]
      · rw [if_neg (mt (hpopulates declared.key).1 hunserved)]
    · intro hopen hserved
      rw [if_pos ((hpopulates declared.key).2 hserved), ClassRecord.exempt_of_not_mem hopen]
  · intro between hquiet
    exact step_populate_after_populate hquiet

/-- Two engines serve the logger and the codebase is populated twice with both; the mailer had been
exempted by hand, and the storage is served only after the last population. -/
theorem run_exempts_logger :
    let listing (id className : String) : Source := .listing [⟨id, some className, none⟩] none
    let session : Session :=
      { host.classes :=
          [⟨"mailer", ["UnusedClass", "Deprecated", "UnusedClass"]⟩,
           ⟨"monolog\\logger", ["Deprecated", "Deprecated"]⟩, ⟨"storage", []⟩] }
    let steps : List Step :=
      [.populate, .setUp .absent, .setUp (listing "logger" "Monolog\\Logger"), .populate,
       .setUp (listing "app.logger" "monolog\\logger"), .setUp (listing "mailer" "Mailer"), .clear,
       .populate, .setUp (listing "storage" "Storage")]
    (session.run steps).2.host.classes =
      [⟨"mailer", ["UnusedClass", "Deprecated", "UnusedClass"]⟩,
       ⟨"monolog\\logger", ["Deprecated", "Deprecated", "UnusedClass"]⟩, ⟨"storage", []⟩] := by
  intro listing session steps
  obtain ⟨hclasses, -⟩ := run_exempts_once session steps
  have hlogger : session.PopulatesServed steps "monolog\\logger" := by
    simp only [steps, populatesServed_cons_iff, reduceCtorEq, false_and, false_or, true_and]
    exact .inr (.inl (by decide +kernel))
  have hstorage : ¬ session.PopulatesServed steps "storage" := by
    simp only [steps, populatesServed_cons_iff, not_populatesServed_nil, reduceCtorEq, false_and,
      false_or, true_and, or_false, not_or]
    exact ⟨by decide +kernel, by decide +kernel, by decide +kernel⟩
  generalize (session.run steps).2.host.classes = last at hclasses
  obtain _ | ⟨⟨hmailer, -⟩, _ | ⟨⟨-, hlogged⟩, _ | ⟨⟨hkept, -⟩, _ | _⟩⟩⟩ := hclasses
  rw [hmailer (.inl (by decide)), hlogged (by decide) hlogger, hkept (.inr hstorage)]
  rfl

end Session

end ServiceWiring
