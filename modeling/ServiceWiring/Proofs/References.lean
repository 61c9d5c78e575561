import ServiceWiring.Proofs.EventOrder

/-!
Which files refer to which classes in the course of a session. Only a visit of a container type lets
a file refer to anything, and then to the classes of all engines that are set up by then. Engines
are never taken away again, so a later visit refers to all that an earlier one did: what a file
refers to is what its last visit alone would have written.
-/

namespace ServiceWiring

open Text

/-- The name is one of `names`, has this key in lower case, and no later one has the same key. -/
def LastSpelling (names : List String) (key name : String) : Prop :=
  ∃ earlier later, names = earlier ++ name :: later ∧ lowercase name = key ∧
    ∀ other ∈ later, lowercase other ≠ key

theorem lastValue?_spellings_eq_some_iff {names : List String} {key name : String} :
    lastValue? (names.map fun name => (lowercase name, name)) key = some name ↔
      LastSpelling names key name := by
  rw [lastValue?_eq_some_iff]
  constructor
  · rintro ⟨before, after, hsplit, hlast⟩
    obtain ⟨earlier, tail, rfl, rfl, htail⟩ := List.map_eq_append_iff.1 hsplit
    obtain ⟨first, later, rfl, hfirst, rfl⟩ := List.map_eq_cons_iff.1 htail
    obtain ⟨hkey, rfl⟩ := Prod.mk.inj hfirst
    refine ⟨earlier, later, rfl, hkey, ?_⟩
    intro other hmem hsame
    apply hlast
    rw [← hsame, keysOf, List.map_map]
    exact List.mem_map_of_mem hmem
  · rintro ⟨earlier, later, rfl, rfl, hlast⟩
    refine ⟨_, _, List.map_append, ?_⟩
    simpa [keysOf] using hlast

namespace Host

/-- Of several names with one key in lower case the last is kept. -/
theorem get?_addReferences (references : Table String) (names : List String) (key : String) :
    (addReferences references names).get? key =
      (lastValue? (names.map fun name => (lowercase name, name)) key).or (references.get? key) := by
  rw [← Table.get?_foldl_put, List.foldl_map]
  rfl

theorem keys_addReferences_of_mem {references : Table String} {names : List String}
    (hknown : ∀ name ∈ names, lowercase name ∈ references.keys) :
    (addReferences references names).keys = references.keys := by
  induction names generalizing references with
  | nil => rfl
  | cons name rest ih =>
    have hfirst : (references.put (lowercase name) name).keys = references.keys := by
      rw [Table.keys_put, if_pos (hknown name List.mem_cons_self)]
    have hrest : ∀ other ∈ rest,
        lowercase other ∈ (references.put (lowercase name) name).keys := by
      intro other hmem
      rw [hfirst]
      exact hknown other (List.mem_cons_of_mem name hmem)
    exact (ih hrest).trans hfirst

/-- Referring to the same classes again changes nothing, not even the order of the keys. -/
theorem addReferences_self (references : Table String) (names : List String) :
    addReferences (addReferences references names) names = addReferences references names := by
  apply Table.ext_of_keys
  · -- The first round has brought all the keys, so the second one only overwrites.
    apply keys_addReferences_of_mem
    intro name hmem
    apply (Engine.mem_keys_addReferences references names (lowercase name)).2
    exact .inr ⟨name, hmem, rfl⟩
  · intro key
    rw [get?_addReferences (addReferences references names), get?_addReferences references,
      ← Option.or_assoc, Option.or_self]

end Host

namespace Session

def fresh (codebase : Codebase) (classes : List ClassRecord) : Session :=
  { codebase, host := { classes } }

def serviceClasses (session : Session) : List String :=
  (enginesOf session.handlers).flatMap (·.classNames)

def HasContainer (session : Session) : Prop :=
  ∃ engine ∈ enginesOf session.handlers, engine.isDegraded = false

def ConfiguredIn (steps : List Step) : Prop :=
  ∃ engine ∈ steps.filterMap Step.engine?, engine.isDegraded = false

def Step.VisitsContainer (step : Step) (file : String) : Prop :=
  ∃ className, step = .visit className file ∧ isContainerType className = true

variable {session : Session} {step : Step} {steps : List Step} {file : String}

/-- The service classes after a run are those before it and those of the engines set up in it. -/
theorem serviceClasses_run (session : Session) (steps : List Step) :
    (session.run steps).2.serviceClasses =
      session.serviceClasses ++ (steps.filterMap Step.engine?).flatMap (·.classNames) := by
  rw [serviceClasses, enginesOf_run, List.flatMap_append]
  rfl

theorem serviceClasses_step (session : Session) (step : Step) :
    session.serviceClasses <+: (session.step step).2.serviceClasses := by
  rw [show (session.step step).2 = (session.run [step]).2 from rfl, serviceClasses_run]
  exact List.prefix_append _ _

/-- A container is known after a run if it was before, or if a step brings one. -/
theorem hasContainer_run_iff :
    (session.run steps).2.HasContainer ↔ session.HasContainer ∨ ConfiguredIn steps := by
  simp only [HasContainer, ConfiguredIn, enginesOf_run, List.mem_append, or_and_right, exists_or]

/-- A step either refers one file to all service classes, which it queues, or leaves the references
and the queue alone. -/
theorem host_step_cases (session : Session) (step : Step) :
    (∃ file, step.VisitsContainer file ∧ session.HasContainer ∧
      (session.step step).2.host = session.host.refer file session.serviceClasses) ∨
    ((∀ file, step.VisitsContainer file → ¬ session.HasContainer) ∧
      (session.step step).2.host.references = session.host.references ∧
      (session.step step).2.host.scanQueue = session.host.scanQueue) := by
  rcases Classical.em (∃ kind, step.Raises kind) with ⟨kind, hraises⟩ | hquiet
  · cases hraises with
    | @visit className file =>
      have hany : (enginesOf session.handlers).any (!·.isDegraded) = true ↔
          session.HasContainer := by
        simp [HasContainer]
      rw [step_visit]
      unfold visited
      split
      · next hrefers =>
        obtain ⟨hcontainer, hconfigured⟩ := Bool.and_eq_true_iff.1 hrefers
        exact .inl ⟨file, ⟨className, rfl, hcontainer⟩, hany.1 hconfigured, rfl⟩
      · next hrefers =>
        refine .inr ⟨?_, rfl, rfl⟩
        rintro other ⟨name, hname, hcontainer⟩ hconfigured
        cases hname
        exact hrefers (Bool.and_eq_true_iff.2 ⟨hcontainer, hany.2 hconfigured⟩)
    | populate =>
      rw [step_populate]
      exact .inr ⟨by simp [Step.VisitsContainer], rfl, rfl⟩
    | call =>
      rw [step_call]
      exact .inr ⟨by simp [Step.VisitsContainer], rfl, rfl⟩
    | report =>
      rw [step_report]
      exact .inr ⟨by simp [Step.VisitsContainer], rfl, rfl⟩
  · rw [step_of_not_raises session (not_exists.1 hquiet)]
    refine .inr ⟨?_, rfl, rfl⟩
    rintro file ⟨className, rfl, -⟩
    exact absurd ⟨_, .visit⟩ hquiet

theorem host_step_of_visit (hvisits : step.VisitsContainer file)
    (hcontainer : session.HasContainer) :
    (session.step step).2.host = session.host.refer file session.serviceClasses := by
  rcases host_step_cases session step with ⟨other, hother, -, hhost⟩ | ⟨hnone, -⟩
  · obtain ⟨className, rfl, -⟩ := hvisits
    obtain ⟨_, hsame, -⟩ := hother
    cases hsame
    exact hhost
  · exact absurd hcontainer (hnone file hvisits)

theorem get?_references_step_of_visit (hvisits : step.VisitsContainer file)
    (hcontainer : session.HasContainer) :
    (session.step step).2.host.references.get? file =
      some (Host.addReferences ((session.host.references.get? file).getD {})
        session.serviceClasses) := by
  rw [host_step_of_visit hvisits hcontainer]
  simp [Host.refer]

theorem get?_references_step_of_other
    (hother : step.VisitsContainer file → ¬ session.HasContainer) :
    (session.step step).2.host.references.get? file = session.host.references.get? file := by
  rcases host_step_cases session step with ⟨visited, hvisits, hcontainer, hhost⟩ | ⟨-, hsame, -⟩
  · have hne : file ≠ visited := by
      rintro rfl
      exact hother hvisits hcontainer
    rw [hhost]
    simp [Host.refer, hne]
  · rw [hsame]

/-- If the file refers to anything, it refers to the classes of the engines that were set up
first. -/
def FollowsSetups (session : Session) (file : String) : Prop :=
  ∀ table, session.host.references.get? file = some table →
    ∃ known, known <+: session.serviceClasses ∧ table = Host.addReferences {} known

/-- A visit makes up for all that was set up since the visits before it. -/
theorem get?_references_step_of_follows (hfollows : session.FollowsSetups file)
    (hvisits : step.VisitsContainer file) (hcontainer : session.HasContainer) :
    (session.step step).2.host.references.get? file =
      some (Host.addReferences {} session.serviceClasses) := by
  rw [get?_references_step_of_visit hvisits hcontainer]
  cases hget : session.host.references.get? file with
  | none => rfl
  | some table =>
    -- The first of the classes are written twice, and the second time changes nothing.
    obtain ⟨known, ⟨later, hsplit⟩, rfl⟩ := hfollows table hget
    rw [Option.getD_some, ← hsplit, Host.addReferences_append, Host.addReferences_self,
      ← Host.addReferences_append]

/-- No step makes a file depart from the engines that were set up first. -/
theorem followsSetups_step (hfollows : session.FollowsSetups file) (step : Step) :
    (session.step step).2.FollowsSetups file := by
  intro table hget
  rcases Classical.em (step.VisitsContainer file ∧ session.HasContainer) with
    ⟨hvisits, hcontainer⟩ | hother
  · rw [get?_references_step_of_follows hfollows hvisits hcontainer] at hget
    exact ⟨_, serviceClasses_step session step, (Option.some.inj hget).symm⟩
  · rw [get?_references_step_of_other (not_and.1 hother)] at hget
    obtain ⟨known, hknown, htable⟩ := hfollows table hget
    exact ⟨known, hknown.trans (serviceClasses_step session step), htable⟩

def RefersUnder (session : Session) (file : String) (keys : List String) : Prop :=
  ∃ table, session.host.references.get? file = some table ∧ ∀ key ∈ keys, key ∈ table.keys

/-- No step takes a reference away. -/
theorem refersUnder_step {keys : List String} (hrefers : session.RefersUnder file keys)
    (step : Step) : (session.step step).2.RefersUnder file keys := by
  obtain ⟨table, hget, hkeys⟩ := hrefers
  rcases Classical.em (step.VisitsContainer file ∧ session.HasContainer) with
    ⟨hvisits, hcontainer⟩ | hother
  · refine ⟨_, get?_references_step_of_visit hvisits hcontainer, ?_⟩
    intro key hmem
    apply (Engine.mem_keys_addReferences _ _ key).2
    rw [hget]
    exact .inl (hkeys key hmem)
  · refine ⟨table, ?_, hkeys⟩
    rw [get?_references_step_of_other (not_and.1 hother), hget]

theorem get?_references_run_of_unvisited
    (hunvisited : ∀ step ∈ steps, ¬ step.VisitsContainer file) :
    (session.run steps).2.host.references.get? file = session.host.references.get? file := by
  refine run_preserves
    (P := fun later => later.host.references.get? file = session.host.references.get? file)
    ?_ rfl
  intro later step hmem hsame
  rw [get?_references_step_of_other fun hvisits => absurd hvisits (hunvisited step hmem), hsame]

theorem serviceClasses_step_of_degraded
    (hquiet : ∀ engine ∈ step.engine?, engine.isDegraded = true) :
    (session.step step).2.serviceClasses = session.serviceClasses := by
  have hstep : (session.step step).2.serviceClasses =
      session.serviceClasses ++ ([step].filterMap Step.engine?).flatMap (·.classNames) :=
    serviceClasses_run session [step]
  have hnone : ([step].filterMap Step.engine?).flatMap (·.classNames) = [] := by
    rw [List.flatMap_eq_nil_iff]
    intro engine hmem
    apply Engine.classNames_of_isDegraded
    apply hquiet
    simpa using hmem
  rw [hstep, hnone, List.append_nil]

/-- The file refers to all service classes and these are queued, so a further visit brings nothing
new. -/
structure Settled (session : Session) (file : String) (names : List String) : Prop where
  services : session.serviceClasses = names
  references : ∃ table, session.host.references.get? file = some table ∧
    Host.addReferences table names = table
  queued : ∀ name ∈ names, name ∈ session.host.scanQueue

theorem settled_step_of_visit (hvisits : step.VisitsContainer file)
    (hcontainer : session.HasContainer) :
    (session.step step).2.Settled file session.serviceClasses where
  services := by
    obtain ⟨className, rfl, -⟩ := hvisits
    exact serviceClasses_step_of_degraded nofun
  references :=
    ⟨_, get?_references_step_of_visit hvisits hcontainer, Host.addReferences_self _ _⟩
  queued := by
    intro name hmem
    rw [host_step_of_visit hvisits hcontainer]
    exact List.mem_append_right _ hmem

/-- Only an engine with a registry unsettles a file. -/
theorem settled_step {names : List String} (hsettled : session.Settled file names)
    (hquiet : ∀ engine ∈ step.engine?, engine.isDegraded = true) :
    (session.step step).2.Settled file names := by
  have hservices : (session.step step).2.serviceClasses = names := by
    rw [serviceClasses_step_of_degraded hquiet, hsettled.services]
  obtain ⟨table, hget, htable⟩ := hsettled.references
  rcases host_step_cases session step with ⟨visited, hvisits, hcontainer, hhost⟩ |
    ⟨-, hreferences, hqueue⟩
  · have hqueued : ∀ name ∈ names, name ∈ (session.step step).2.host.scanQueue := by
      intro name hmem
      rw [hhost]
      exact List.mem_append_left _ (hsettled.queued name hmem)
    refine ⟨hservices, ⟨table, ?_, htable⟩, hqueued⟩
    rcases eq_or_ne file visited with rfl | hne
    · rw [get?_references_step_of_visit hvisits hcontainer, hget, Option.getD_some,
        hsettled.services, htable]
    · rw [hhost]
      simp [Host.refer, hne, hget]
  · exact ⟨hservices, ⟨table, hreferences ▸ hget, htable⟩, hqueue ▸ hsettled.queued⟩

theorem host_step_of_settled {names : List String} (hsettled : session.Settled file names)
    (hvisits : step.VisitsContainer file) (hcontainer : session.HasContainer) :
    (session.step step).2.host.references = session.host.references ∧
      (session.step step).2.host.scanQueue = session.host.scanQueue ++ names := by
  obtain ⟨table, hget, htable⟩ := hsettled.references
  rw [host_step_of_visit hvisits hcontainer, hsettled.services]
  refine ⟨?_, rfl⟩
  simp only [Host.refer, hget, Option.getD_some, htable]
  exact Table.put_of_get? hget

/-- A visit that is repeated before another container is set up leaves all references as they are,
and queues no class that is not queued already. -/
theorem visit_again (session : Session) (className file : String) {between : List Step}
    (hquiet : ∀ engine ∈ between.filterMap Step.engine?, engine.isDegraded = true) :
    let once := (session.run (.visit className file :: between)).2
    let again := (once.step (.visit className file)).2
    again.host.references = once.host.references ∧
      ∃ added, again.host.scanQueue = once.host.scanQueue ++ added ∧
        ∀ name ∈ added, name ∈ once.host.scanQueue := by
  intro once again
  rcases host_step_cases once (.visit className file) with ⟨other, hvisits, hcontainer, -⟩ |
    ⟨-, hreferences, hqueue⟩
  · have hbefore : session.HasContainer := by
      rcases hasContainer_run_iff.1 hcontainer with hbefore | ⟨engine, hmem, hconfigured⟩
      · exact hbefore
      · rw [hquiet engine hmem] at hconfigured
        cases hconfigured
    -- The first visit settles the file, and no step in between has a container to unsettle it.
    have hfirst := settled_step_of_visit hvisits hbefore
    have hsettled : once.Settled other session.serviceClasses := by
      change ((session.step (.visit className file)).2.run between).2.Settled other
        session.serviceClasses
      refine run_preserves (P := fun later => later.Settled other session.serviceClasses) ?_ hfirst
      intro later step hmem hsettled
      apply settled_step hsettled
      intro engine hengine
      exact hquiet engine (List.mem_filterMap.2 ⟨step, hmem, hengine⟩)
    obtain ⟨hreferences, hqueue⟩ := host_step_of_settled hsettled hvisits hcontainer
    exact ⟨hreferences, session.serviceClasses, hqueue, hsettled.queued⟩
  · exact ⟨hreferences, [], by rw [hqueue, List.append_nil], nofun⟩

section Fresh

variable {codebase : Codebase} {classes : List ClassRecord}

theorem serviceClasses_run_fresh :
    ((fresh codebase classes).run steps).2.serviceClasses =
      (steps.filterMap Step.engine?).flatMap (·.classNames) := by
  rw [serviceClasses_run]
  rfl

theorem hasContainer_run_fresh_iff :
    ((fresh codebase classes).run steps).2.HasContainer ↔ ConfiguredIn steps := by
  have hnone : ¬ (fresh codebase classes).HasContainer := by
    rintro ⟨engine, hmem, -⟩
    cases hmem
  rw [hasContainer_run_iff, or_iff_right hnone]

theorem followsSetups_run_fresh (codebase : Codebase) (classes : List ClassRecord)
    (steps : List Step) (file : String) :
    ((fresh codebase classes).run steps).2.FollowsSetups file := by
  refine run_preserves (P := (·.FollowsSetups file)) ?_ nofun
  intro session step _ hfollows
  exact followsSetups_step hfollows step

/-- A file that refers to anything was visited. -/
theorem exists_visit_of_mem_keys
    (hmem : file ∈ ((fresh codebase classes).run steps).2.host.references.keys) :
    ∃ before visit after, steps = before ++ visit :: after ∧ visit.VisitsContainer file ∧
      ConfiguredIn before := by
  -- From the end: the last step has either written to the file or left it alone.
  induction steps using List.reverseRecOn with
  | nil => cases hmem
  | append_singleton steps step ih =>
    rcases Classical.em (step.VisitsContainer file ∧
        ((fresh codebase classes).run steps).2.HasContainer) with ⟨hvisits, hcontainer⟩ | hother
    · exact ⟨steps, step, [], rfl, hvisits, hasContainer_run_fresh_iff.1 hcontainer⟩
    · have hlast : ((fresh codebase classes).run (steps ++ [step])).2 =
          (((fresh codebase classes).run steps).2.step step).2 := by
        rw [run_append]
        rfl
      obtain ⟨table, hget⟩ := (Table.mem_keys_iff _ _).1 hmem
      rw [hlast, get?_references_step_of_other (not_and.1 hother)] at hget
      obtain ⟨before, visit, after, rfl, hvisits, hconfigured⟩ :=
        ih (Table.mem_keys_of_get? hget)
      exact ⟨before, visit, after ++ [step], by simp, hvisits, hconfigured⟩

theorem spelling_of_references {table : Table String} {key name : String}
    (hget : ((fresh codebase classes).run steps).2.host.references.get? file = some table)
    (hname : table.get? key = some name) :
    key = lowercase name ∧ ∃ engine ∈ steps.filterMap Step.engine?,
      engine.isDegraded = false ∧ name ∈ engine.classNames := by
  obtain ⟨known, hknown, rfl⟩ := followsSetups_run_fresh codebase classes steps file table hget
  rw [Host.get?_addReferences, Table.get?_emptyCollection, Option.or_none,
    lastValue?_spellings_eq_some_iff] at hname
  obtain ⟨earlier, later, rfl, hkey, -⟩ := hname
  have hserved : name ∈ ((fresh codebase classes).run steps).2.serviceClasses :=
    hknown.subset (List.mem_append_right earlier List.mem_cons_self)
  rw [serviceClasses_run_fresh] at hserved
  obtain ⟨engine, hengine, hmem⟩ := List.mem_flatMap.1 hserved
  refine ⟨hkey.symm, engine, hengine, ?_, hmem⟩
  rw [Bool.eq_false_iff]
  intro hdegraded
  rw [Engine.classNames_of_isDegraded hdegraded] at hmem
  cases hmem

/-- What a visit that counts has written. -/
theorem get?_references_run_of_visit {before : List Step} {visit : Step}
    (hvisits : visit.VisitsContainer file) (hconfigured : ConfiguredIn before) :
    (((fresh codebase classes).run before).2.step visit).2.host.references.get? file =
      some (Host.addReferences {}
        ((before.filterMap Step.engine?).flatMap (·.classNames))) := by
  have hclasses : ((fresh codebase classes).run before).2.serviceClasses =
      (before.filterMap Step.engine?).flatMap (·.classNames) := serviceClasses_run_fresh
  rw [← hclasses]
  exact get?_references_step_of_follows (followsSetups_run_fresh codebase classes before file)
    hvisits (hasContainer_run_fresh_iff.2 hconfigured)

theorem refersUnder_run_of_visit {before : List Step} {visit : Step} {engine : Engine}
    (after : List Step) (hvisits : visit.VisitsContainer file) (hconfigured : ConfiguredIn before)
    (hengine : engine ∈ before.filterMap Step.engine?) :
    ((fresh codebase classes).run (before ++ visit :: after)).2.RefersUnder file
      engine.serviceKeys := by
  rw [run_split]
  refine run_preserves (P := fun later => later.RefersUnder file engine.serviceKeys) ?_ ?_
  · intro later step _ hrefers
    exact refersUnder_step hrefers step
  · refine ⟨_, get?_references_run_of_visit hvisits hconfigured, ?_⟩
    intro key hkey
    obtain ⟨name, hname, hlower⟩ := Engine.mem_serviceKeys_iff.1 hkey
    apply (Engine.mem_keys_addReferences _ _ key).2
    exact .inr ⟨name, List.mem_flatMap.2 ⟨engine, hengine, hname⟩, hlower⟩

theorem get?_references_run_of_last_visit {before after : List Step} {visit : Step}
    (hvisits : visit.VisitsContainer file) (hconfigured : ConfiguredIn before)
    (hlast : ∀ later ∈ after, ¬ later.VisitsContainer file) :
    ((fresh codebase classes).run (before ++ visit :: after)).2.host.references.get? file =
      some (Host.addReferences {}
        ((before.filterMap Step.engine?).flatMap (·.classNames))) := by
  rw [run_split, get?_references_run_of_unvisited hlast]
  exact get?_references_run_of_visit hvisits hconfigured

end Fresh

/-- What files refer to after any steps of a session. A file refers to classes under their names in
lower case, and only to classes of containers that were set up. It refers to anything at all only if
a container type was visited in it after a container had been set up. From such a visit on it refers
to all that was set up before; and after the last of them, of the names that differ in
capitalisation only, to the last one in the order of the setups and of their class names. Repeating
a visit with no other container set up in between leaves all references as they are, and queues only
what is queued already. -/
theorem files_refer_to_services (codebase : Codebase) (classes : List ClassRecord)
    (steps : List Step) :
    let start := fresh codebase classes
    let references := (start.run steps).2.host.references
    (∀ file table key name, references.get? file = some table → table.get? key = some name →
      key = lowercase name ∧ ∃ engine ∈ steps.filterMap Step.engine?,
        engine.isDegraded = false ∧ name ∈ engine.classNames) ∧
    (∀ file, file ∈ references.keys ↔ ∃ before visit after,
      steps = before ++ visit :: after ∧ visit.VisitsContainer file ∧ ConfiguredIn before) ∧
    (∀ file before visit after, steps = before ++ visit :: after → visit.VisitsContainer file →
      ConfiguredIn before → ∃ table, references.get? file = some table ∧
        (∀ engine ∈ before.filterMap Step.engine?, ∀ key ∈ engine.serviceKeys,
          key ∈ table.keys) ∧
        ((∀ later ∈ after, ¬ later.VisitsContainer file) → ∀ key name,
          table.get? key = some name ↔
            LastSpelling ((before.filterMap Step.engine?).flatMap (·.classNames)) key name)) ∧
    (∀ className file between,
      (∀ engine ∈ between.filterMap Step.engine?, engine.isDegraded = true) →
      let once := ((start.run steps).2.run (.visit className file :: between)).2
      let again := (once.step (.visit className file)).2
      again.host.references = once.host.references ∧
        ∃ added, again.host.scanQueue = once.host.scanQueue ++ added ∧
          ∀ name ∈ added, name ∈ once.host.scanQueue) := by
  intro start references
  refine ⟨?_, ?_, ?_, ?_⟩
  · intro file table key name hget hname
    exact spelling_of_references hget hname
  · intro file
    constructor
    · exact exists_visit_of_mem_keys
    · rintro ⟨before, visit, after, rfl, hvisits, hconfigured⟩
      have ⟨engine, hengine, _⟩ := hconfigured
      obtain ⟨table, hget, -⟩ :=
        refersUnder_run_of_visit after hvisits hconfigured hengine
      exact Table.mem_keys_of_get? hget
  · rintro file before visit after rfl hvisits hconfigured
    have ⟨engine, hengine, _⟩ := hconfigured
    obtain ⟨table, hget, -⟩ :=
      refersUnder_run_of_visit after hvisits hconfigured hengine
    refine ⟨table, hget, ?_, ?_⟩
    · intro other hother
      obtain ⟨same, hsame, hkeys⟩ :=
        refersUnder_run_of_visit after hvisits hconfigured hother
      cases hget.symm.trans hsame
      exact hkeys
    · intro hlast key name
      cases hget.symm.trans (get?_references_run_of_last_visit hvisits hconfigured hlast)
      rw [Host.get?_addReferences, Table.get?_emptyCollection, Option.or_none,
        lastValue?_spellings_eq_some_iff]
  · intro className file between hquiet
    exact visit_again (start.run steps).2 className file hquiet

/-- A file is visited before and after a second container spells one of the classes in two other
ways: the last spelling of the last visit stands, and what only the first container has is kept. -/
theorem mailer_under_last_spelling :
    let listing (names : List String) : Source := .listing [] (some names)
    let visit : Step := .visit "Psr\\Container\\ContainerInterface" "a.php"
    let before : List Step :=
      [visit, .setUp .absent, .setUp (listing ["Mailer", "Storage"]), visit,
        .setUp (listing ["MAILER", "mailer"])]
    let steps := before ++ visit :: [.populate, .visit "Mailer" "a.php"]
    ∃ table, ((fresh {} []).run steps).2.host.references.get? "a.php" = some table ∧
      table.get? "mailer" = some "mailer" ∧ table.get? "storage" = some "Storage" := by
  intro listing visit before steps
  have hclasses : (before.filterMap Step.engine?).flatMap (·.classNames) =
      ["Mailer", "Storage", "MAILER", "mailer"] := rfl
  have hvisits : visit.VisitsContainer "a.php" := ⟨_, rfl, by decide⟩
  have hconfigured : ConfiguredIn before :=
    ⟨.ofRegistry _, List.mem_cons_of_mem _ List.mem_cons_self, rfl⟩
  obtain ⟨-, -, hwritten, -⟩ := files_refer_to_services {} [] steps
  obtain ⟨table, hget, -, hnames⟩ := hwritten "a.php" before visit _ rfl hvisits hconfigured
  rw [hclasses] at hnames
  have hlast : ∀ later ∈ [Step.populate, .visit "Mailer" "a.php"],
      ¬ later.VisitsContainer "a.php" := by
    simp [Step.VisitsContainer, isContainerType, containerTypes]
  refine ⟨table, hget, (hnames hlast _ _).2 ?_, (hnames hlast _ _).2 ?_⟩
  · exact ⟨["Mailer", "Storage", "MAILER"], [], rfl, by decide +kernel, List.forall_mem_nil _⟩
  · exact ⟨["Mailer"], ["MAILER", "mailer"], rfl, by decide +kernel, by decide +kernel⟩

end Session

end ServiceWiring
