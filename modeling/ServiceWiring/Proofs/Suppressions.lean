import ServiceWiring.Proofs.Dispatches

/-!
What it means to suppress kinds of issues at a call. The engines inspect the call as if nothing were
suppressed, and only what they would record is sifted: an issue that is dropped takes nothing else
with it, neither a later issue nor the class that was found.
-/

namespace ServiceWiring

def CallSite.suppressing (site : CallSite) (kinds : List String) : CallSite :=
  { site with suppressed := kinds }

theorem Issue.not_isSuppressedBy (issue : Issue) (kinds : List String) :
    (!issue.isSuppressedBy kinds) = decide (issue.kind.label ∉ kinds) := by
  simp [isSuppressedBy]

section Suppressing

variable (codebase : Codebase) (handlers : List Handler) (site : CallSite) (kinds : List String)

theorem Engine.recorded_suppressing (engine : Engine) :
    engine.recorded codebase (site.suppressing kinds) =
      (engine.inspect codebase site none).issues.filter (·.kind.label ∉ kinds) := by
  have hinspect : engine.inspect codebase (site.suppressing kinds) none =
      engine.inspect codebase site none := rfl
  have hkinds : (site.suppressing kinds).suppressed = kinds := rfl
  rw [recorded_eq, hinspect, hkinds]
  simp only [Issue.not_isSuppressedBy]

/-- All that handlers find about a call, whatever is suppressed there. -/
def foundIssues : List Issue :=
  (enginesOf handlers).flatMap fun engine => (engine.inspect codebase site none).issues

/-- What a call suppresses is missing from the issues, and nothing else changes. -/
theorem jointFindings_suppressing (candidate : Option String) :
    jointFindings codebase handlers (site.suppressing kinds) candidate =
      { jointFindings codebase handlers site candidate with
        issues := (foundIssues codebase handlers site).filter (·.kind.label ∉ kinds) } := by
  have hissues : (jointFindings codebase handlers (site.suppressing kinds) candidate).issues =
      (foundIssues codebase handlers site).filter (·.kind.label ∉ kinds) := by
    simp only [jointFindings, foundIssues, Engine.recorded_suppressing, List.filter_flatMap]
  -- which class an engine finds or supposes is read off the call without what is suppressed there
  rw [← hissues]
  rfl

end Suppressing

theorem verdictOf_call (handlers : List Handler) (site other : CallSite) :
    verdictOf handlers (.callAnalyzed site) = verdictOf handlers (.callAnalyzed other) := by
  have hopinion (handler : Handler) :
      handler.opinion (.callAnalyzed site) = handler.opinion (.callAnalyzed other) := by
    cases handler <;> rfl
  unfold verdictOf
  simp only [hopinion]
  rfl

/-- Suppressing kinds of issues at a call sifts what is recorded and changes nothing else. Whatever
is suppressed, the verdict, the class that the call returns and the classes that become known are
the same; and of the issues that are recorded where nothing is suppressed, which are all that the
engines find, those of other kinds are recorded, in the same order. -/
theorem suppression_only_filters (codebase : Codebase) (handlers : List Handler) (site : CallSite)
    (scene : Scene) :
    let found := foundIssues codebase handlers site
    ∃ verdict classes candidate,
      dispatch codebase handlers (.callAnalyzed (site.suppressing [])) scene =
        (verdict, ⟨scene.host.know classes, ⟨scene.log.issues ++ found⟩, candidate⟩) ∧
      ∀ kinds, dispatch codebase handlers (.callAnalyzed (site.suppressing kinds)) scene =
        (verdict, ⟨scene.host.know classes,
          ⟨scene.log.issues ++ found.filter (·.kind.label ∉ kinds)⟩, candidate⟩) := by
  intro found
  let findings := jointFindings codebase handlers site scene.candidate
  have hdispatch (kinds : List String) :
      dispatch codebase handlers (.callAnalyzed (site.suppressing kinds)) scene =
        (verdictOf handlers (.callAnalyzed site), ⟨scene.host.know findings.classes,
          ⟨scene.log.issues ++ found.filter (·.kind.label ∉ kinds)⟩, findings.candidate⟩) := by
    apply Prod.ext
    · exact verdictOf_call handlers (site.suppressing kinds) site
    · rw [dispatch_call, jointFindings_suppressing]
  refine ⟨_, findings.classes, findings.candidate, ?_, hdispatch⟩
  rw [hdispatch []]
  simp

end ServiceWiring
