import Mathlib.Algebra.BigOperators.Group.List.Basic
import Mathlib.Algebra.GroupWithZero.Nat
import ServiceWiring.Proofs.Sessions
import ServiceWiring.Proofs.Suppressions

/-!
The log of issues as a history. Issues are offered to it by hand and by the engines that inspect a
call, each with the kinds that are suppressed where it arose. The log holds what was offered since
it was last cleared and was not suppressed, and its counts are read off that.
-/

namespace ServiceWiring

/-- An issue that is offered to the log, and the kinds that are suppressed where it arose. -/
structure Offer where
  issue : Issue
  suppressed : List String

/-- The issues of those offers whose kind is not suppressed, in the order of the offers. -/
def admitted (offers : List Offer) : List Issue :=
  (offers.filter fun offer => offer.issue.kind.label ∉ offer.suppressed).map (·.issue)

theorem admitted_append (first second : List Offer) :
    admitted (first ++ second) = admitted first ++ admitted second := by
  simp [admitted]

theorem admitted_at_call (issues : List Issue) (suppressed : List String) :
    admitted (issues.map (⟨·, suppressed⟩)) = issues.filter (·.kind.label ∉ suppressed) := by
  rw [admitted, List.filter_map, List.map_map]
  simp [Function.comp_def]

namespace IssueLog

theorem offer_of_admitted {issue : Issue} {suppressed : List String}
    (hopen : issue.kind.label ∉ suppressed) (log : IssueLog) :
    log.offer issue suppressed = (true, ⟨log.issues ++ [issue]⟩) := by
  simp [offer, Issue.isSuppressedBy, hopen]

theorem offer_of_suppressed {issue : Issue} {suppressed : List String}
    (hsilent : issue.kind.label ∈ suppressed) (log : IssueLog) :
    log.offer issue suppressed = (false, log) := by
  simp [offer, Issue.isSuppressedBy, hsilent]

/-- The counts by kind are the numbers of issues of the kinds that occur. -/
theorem mem_byKind_iff {log : IssueLog} {kind : IssueKind} {number : Nat} :
    (kind, number) ∈ log.byKind ↔
      (∃ issue ∈ log.issues, issue.kind = kind) ∧
        number = log.issues.countP (·.kind == kind) := by
  have hlisted : kind ∈ IssueKind.all := by cases kind <;> decide
  have hoccurs : log.countOf kind ≠ 0 ↔ ∃ issue ∈ log.issues, issue.kind = kind := by
    rw [← Nat.pos_iff_ne_zero, countOf, List.countP_pos_iff]
    simp
  rw [byKind, List.mem_filter, List.mem_map, ← hoccurs]
  constructor
  · rintro ⟨⟨same, -, hpair⟩, hfilled⟩
    obtain ⟨rfl, rfl⟩ := Prod.mk.inj hpair
    exact ⟨by simpa using hfilled, rfl⟩
  · rintro ⟨hfilled, rfl⟩
    exact ⟨⟨kind, hlisted, rfl⟩, by simpa [countOf] using hfilled⟩

theorem nodup_kinds_byKind (log : IssueLog) : (log.byKind.map (·.1)).Nodup := by
  have hkinds : (IssueKind.all.map fun kind => (kind, log.countOf kind)).map (·.1) =
      IssueKind.all := by
    simp [Function.comp_def]
  have hsublist : (log.byKind.map (·.1)).Sublist IssueKind.all := by
    rw [← hkinds]
    exact List.filter_sublist.map _
  exact hsublist.nodup (by decide)

/-- Every issue is counted under one kind. -/
theorem sum_countP_kinds (issues : List Issue) :
    (IssueKind.all.map fun kind => issues.countP (·.kind == kind)).sum = issues.length := by
  induction issues with
  | nil => rfl
  | cons issue rest ih =>
    -- A further issue adds one to the number of its own kind, and nothing to the others.
    have hone : (IssueKind.all.map fun kind => if (issue.kind == kind) = true then 1 else 0).sum =
        1 := by
      cases issue.kind <;> rfl
    simp only [List.countP_cons, List.sum_map_add, ih, hone, List.length_cons]

theorem sum_filter_ne_zero {α : Type} (counts : List (α × Nat)) :
    ((counts.filter (·.2 != 0)).map (·.2)).sum = (counts.map (·.2)).sum := by
  induction counts with
  | nil => rfl
  | cons pair rest ih =>
    obtain ⟨item, number⟩ := pair
    cases number with
    | zero => simpa using ih
    | succ n => simpa using ih

/-- Every issue is counted under its kind, and under no other. -/
theorem sum_byKind (log : IssueLog) : (log.byKind.map (·.2)).sum = log.issues.length := by
  rw [byKind, sum_filter_ne_zero, List.map_map]
  exact sum_countP_kinds log.issues

end IssueLog

namespace Session

/-- What a step offers to the log. For a call it is all that the engines find there. -/
def offersOf (session : Session) : Step → List Offer
  | .offer issue suppressed => [⟨issue, suppressed⟩]
  | .call site _ =>
    (foundIssues session.codebase session.handlers site).map (⟨·, site.suppressed⟩)
  | _ => []

def offersIn (session : Session) : List Step → List Offer
  | [] => []
  | step :: rest => session.offersOf step ++ (session.step step).2.offersIn rest

variable {session : Session}

theorem issues_jointFindings (site : CallSite) (candidate : Option String) :
    (jointFindings session.codebase session.handlers site candidate).issues =
      admitted (session.offersOf (.call site candidate)) := by
  have hsame : site.suppressing site.suppressed = site := rfl
  rw [offersOf, admitted_at_call, ← hsame, jointFindings_suppressing]
  rfl

theorem step_offer (session : Session) (issue : Issue) (suppressed : List String) :
    session.step (.offer issue suppressed) =
      (.ok (.flag (session.log.offer issue suppressed).1),
        { session with log := (session.log.offer issue suppressed).2 }) := rfl

/-- A step adds to the log what it offers, unless that is suppressed or the step clears the log. -/
theorem issues_step {step : Step} (hkept : step ≠ .clear) :
    (session.step step).2.log.issues =
      session.log.issues ++ admitted (session.offersOf step) := by
  cases step with
  | offer issue suppressed =>
    rcases Classical.em (issue.kind.label ∈ suppressed) with hsilent | hopen
    · rw [step_offer, IssueLog.offer_of_suppressed hsilent]
      simp [offersOf, admitted, hsilent]
    · rw [step_offer, IssueLog.offer_of_admitted hopen]
      simp [offersOf, admitted, hopen]
  | call site candidate =>
    rw [step_call, ← issues_jointFindings]
    rfl
  | clear => exact absurd rfl hkept
  | visit className file =>
    rw [step_visit]
    exact (List.append_nil _).symm
  | populate =>
    rw [step_populate]
    exact (List.append_nil _).symm
  | report reported =>
    rw [step_report]
    exact (List.append_nil _).symm
  | _ =>
    rw [step_of_not_raises session fun kind hraises => by cases hraises]
    exact (List.append_nil _).symm

/-- As long as the log is not cleared it gathers what is admitted. -/
theorem issues_run {steps : List Step} (hkept : Step.clear ∉ steps) :
    (session.run steps).2.log.issues =
      session.log.issues ++ admitted (session.offersIn steps) := by
  induction steps generalizing session with
  | nil => exact (List.append_nil _).symm
  | cons step rest ih =>
    have hstep : step ≠ .clear := by
      rintro rfl
      exact hkept List.mem_cons_self
    have hrest : Step.clear ∉ rest := fun hmem => hkept (List.mem_cons_of_mem step hmem)
    calc
      (session.run (step :: rest)).2.log.issues
        = (session.step step).2.log.issues ++
            admitted ((session.step step).2.offersIn rest) := ih hrest
      _ = session.log.issues ++ (admitted (session.offersOf step) ++
            admitted ((session.step step).2.offersIn rest)) := by
        rw [issues_step hstep, List.append_assoc]
      _ = session.log.issues ++ admitted (session.offersIn (step :: rest)) := by
        rw [offersIn, admitted_append]

theorem issues_run_cleared {before after : List Step} (hkept : Step.clear ∉ after) :
    (session.run (before ++ .clear :: after)).2.log.issues =
      admitted ((session.run (before ++ [.clear])).2.offersIn after) := by
  have hcleared :
      (session.run (before ++ [.clear])).2 = ((session.run before).2.step .clear).2 := by
    rw [run_split]
    rfl
  rw [run_split, issues_run hkept, hcleared]
  rfl

/-- The log is a faithful record. Over any steps it grows by what is offered and not suppressed, in
the order of the offers; and once it has been cleared, that is all it holds. An issue offered by
hand is answered according to its kind alone, and changes nothing if it is refused; what a call is
said to have recorded is what was admitted of its offers. Asking changes nothing: the number of
issues, the issues themselves and, for the kinds that occur, the number of issues of the kind are
those of the record, and the latter add up to the former. -/
theorem log_records_what_is_admitted (session : Session) :
    (∀ steps, Step.clear ∉ steps →
      (session.run steps).2.log.issues =
        session.log.issues ++ admitted (session.offersIn steps)) ∧
    (∀ before after, Step.clear ∉ after →
      (session.run (before ++ .clear :: after)).2.log.issues =
        admitted ((session.run (before ++ [.clear])).2.offersIn after)) ∧
    (∀ issue suppressed, ∃ accepted,
      (session.step (.offer issue suppressed)).1 = .ok (.flag accepted) ∧
      (accepted = true ↔ issue.kind.label ∉ suppressed) ∧
      (accepted = false → (session.step (.offer issue suppressed)).2 = session)) ∧
    (∀ site candidate, ∃ verdict findings,
      (session.step (.call site candidate)).1 = .ok (.analyzed verdict findings) ∧
      findings.issues = admitted (session.offersOf (.call site candidate))) ∧
    session.step .listIssues = (.ok (.issues session.log.issues), session) ∧
    session.step .countIssues = (.ok (.number session.log.issues.length), session) ∧
    ∃ counts, session.step .countByKind = (.ok (.kinds counts), session) ∧
      (counts.map (·.1)).Nodup ∧
      (∀ kind number, (kind, number) ∈ counts ↔
        (∃ issue ∈ session.log.issues, issue.kind = kind) ∧
          number = session.log.issues.countP (·.kind == kind)) ∧
      (counts.map (·.2)).sum = session.log.issues.length := by
  refine ⟨fun _ => issues_run, fun _ _ => issues_run_cleared, ?_, ?_, rfl, rfl, ?_⟩
  · intro issue suppressed
    rcases Classical.em (issue.kind.label ∈ suppressed) with hsilent | hopen
    · rw [step_offer, IssueLog.offer_of_suppressed hsilent]
      exact ⟨false, rfl, by simp [hsilent], fun _ => rfl⟩
    · rw [step_offer, IssueLog.offer_of_admitted hopen]
      exact ⟨true, rfl, by simp [hopen], nofun⟩
  · intro site candidate
    rw [step_call]
    exact ⟨_, _, rfl, issues_jointFindings site candidate⟩
  · exact ⟨session.log.byKind, rfl, session.log.nodup_kinds_byKind,
      fun _ _ => IssueLog.mem_byKind_iff, session.log.sum_byKind⟩

/-- After the log has been cleared, a hidden service is reported by a call and once more by hand,
and a misspelt one that does not exist by a call where misspellings are suppressed. -/
theorem issues_after_clearing :
    let container : Step := .setUp (.listing [⟨"mailer", some "Mailer", none⟩] none)
    let call (id : String) (suppressed : List String) : Step := .call
      { methodId := "Psr\\Container\\ContainerInterface::get"
        arguments := [.given (.literal none id) false none], file := "a.php", suppressed } none
    let hidden : Issue := .privateService "mailer" { file := "a.php" }
    let after : List Step :=
      [call "mailer" [], .offer hidden [], .offer hidden ["PrivateService"],
        call "Mailer" ["NamingConventionViolation"], .countByKind]
    (({} : Session).run ([container, .offer hidden []] ++ .clear :: after)).2.log.issues =
      [hidden, hidden, .serviceNotFound "Mailer" { file := "a.php" }] := by
  intro container call hidden after
  have hkept : Step.clear ∉ after := by simp [after, call]
  obtain ⟨-, hcleared, -⟩ := log_records_what_is_admitted {}
  rw [hcleared _ _ hkept]
  decide +kernel

end Session

end ServiceWiring
