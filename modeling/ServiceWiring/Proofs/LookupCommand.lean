import ServiceWiring.Proofs.Arguments
import ServiceWiring.Proofs.ConsoleTexts
import ServiceWiring.Proofs.Diagnostics
import ServiceWiring.Proofs.Enumeration
import ServiceWiring.Proofs.Loading

/-!
The command that looks a service up, beside the engine that judges a call. Both read the same dump
for the same class: the warning, the exit code and the line that the command prints tell what the
engine records and injects for a call that fetches the service from outside of tests.
-/

namespace ServiceWiring

theorem Service.namedClass?_eq_some_iff {service : Service} {className : String} :
    service.namedClass? = some className ↔
      service.className = some className ∧ className ≠ "" := by
  simp [namedClass?, Option.filter_eq_some_iff]

section Engine

variable {site : CallSite} {codebase : Codebase} {location : CodeLocation} {id : String}
  {found : Option Service}

/-- The issues and the class of a call that names its service in full, where nothing is suppressed
and no class is known beforehand. -/
theorem dispatch_literal (codebase : Codebase) (registry : Registry) {place : Option CodeLocation}
    (hfetch : site.Fetches .service) (hpasses : site.Passes (.literal place id))
    (hopen : site.suppressed = []) (host : Host) (log : IssueLog) :
    let after := (dispatch codebase [.engine (.ofRegistry registry)] (.callAnalyzed site)
      ⟨host, log, none⟩).2
    after.log.issues = log.issues ++ site.serviceIssues codebase
        (site.locationOf (.literal place id)) id (registry.find? id site.selfClass) ∧
      after.candidate = (registry.find? id site.selfClass).bind (·.className) := by
  have hafter : (dispatch codebase [.engine (.ofRegistry registry)] (.callAnalyzed site)
      ⟨host, log, none⟩).2 = Scene.adopt ⟨host, log, none⟩
        ((Engine.ofRegistry registry).inspect codebase site none) site.suppressed := by
    rw [dispatch_scene]
    rfl
  rw [hafter, Engine.inspect_of_denotes hfetch hpasses .literal, hopen]
  constructor
  · simp [Scene.adopt, IssueLog.foldl_offer, CallSite.serviceFindings, Issue.isSuppressedBy]
  · simp [Scene.adopt, CallSite.serviceFindings]

/-- Outside of tests an internal service is always reported. -/
theorem serviceIssues_of_no_parent (hparent : site.parentClass = none) :
    site.serviceIssues codebase location id found =
      spellingIssues (Naming.offends id) location ++
        match found with
        | none => [.serviceNotFound id location]
        | some service => if service.isExposed then [] else [.privateService id location] := by
  have houtside : site.isInTest codebase = false := by simp [CallSite.isInTest, hparent]
  cases found with
  | none => rfl
  | some service => simp [CallSite.serviceIssues, houtside]

/-- The kinds of issues that such a call is reported for. -/
theorem exists_issue_iff (hparent : site.parentClass = none) {kind : IssueKind} :
    (∃ issue ∈ site.serviceIssues codebase location id found, issue.kind = kind) ↔
      kind = .namingConvention ∧ Naming.offends id = true ∨
      kind = .serviceNotFound ∧ found = none ∨
      kind = .privateService ∧
        ∃ service, found = some service ∧ service.visibility = .internal := by
  rw [serviceIssues_of_no_parent hparent]
  simp only [List.mem_append, or_and_right, exists_or, Engine.exists_spellingIssue_iff]
  apply or_congr_right
  cases found with
  | none => simp [Issue.serviceNotFound, @eq_comm _ kind]
  | some service =>
    cases hvisibility : service.visibility <;>
      simp [Service.isExposed, hvisibility, Issue.privateService, @eq_comm _ kind]

end Engine

namespace CommandLine

open Console

def lookupArguments (file id : String) (context : Option String) : List String :=
  match context with
  | some className => ["lookup", "--context", className, "--", file, id]
  | none => ["lookup", "--", file, id]

theorem ofArguments_lookupArguments (file id : String) (context : Option String) :
    Request.ofArguments (lookupArguments file id context) =
      .run (.lookup (Path.ofString file) id context) false := by
  cases context with
  | none => exact ofArguments_of_reading (by decide) rfl (Options.read?_mark _ [file, id])
  | some className =>
    have hread : Options.read? { flags := commonFlags, valued := ["--context"] }
        ["--context", className, "--", file, id] =
          some { settings := [.value "--context" className], positional := [file, id] } := by
      rw [Options.read?_valued (by decide) (by decide) (by decide) (by decide) (by decide),
        Options.read?_mark]
      rfl
    exact ofArguments_of_reading (by decide) rfl hread

theorem exists_readText_of_ofFile {tree : FileTree} {path : Path} {dump : Dump}
    (hload : Dump.ofFile tree path = .ok dump) : ∃ text, tree.readText path = .ok text := by
  cases hread : tree.readText path with
  | ok text => exact ⟨text, rfl⟩
  | error halt =>
    rw [Dump.ofFile_of_halt hread] at hload
    cases hload

/-- A path that a dump is loaded from is taken as an argument. -/
theorem accepts_of_ofPaths {tree : FileTree} {path : Path} {dump : Dump}
    (hload : Dump.ofPaths tree [path] = .ok dump) : Accepts tree [path] := by
  have hfile : Dump.ofFile tree path = .ok dump := by
    rcases tree.no_file_or_decides [path] with hnone | ⟨first, hfirst⟩ | ⟨first, failure, hfirst⟩
    · rw [Dump.ofPaths_of_no_file hnone] at hload
      cases hload
    · obtain rfl := List.mem_singleton.1 hfirst.mem
      rwa [Dump.ofPaths_of_firstFile hfirst] at hload
    · rw [Dump.ofPaths_of_untestable hfirst] at hload
      cases hload
  obtain ⟨text, hread⟩ := exists_readText_of_ofFile hfile
  simp only [FileTree.readText] at hread
  rw [Accepts, List.forall_mem_singleton]
  cases hnul : path.hasNul with
  | true =>
    rw [if_pos hnul] at hread
    cases hread
  | false =>
    refine ⟨rfl, ?_⟩
    rw [if_neg (by simp [hnul])] at hread
    cases hcontent : tree.content path with
    | error failure =>
      rw [hcontent] at hread
      cases hread
    | ok bytes => cases tree.isRegular path <;> simp [FileTree.isBarred, hcontent]

theorem respond_lookupArguments {tree : FileTree} {file : String} {dump : Dump}
    (hload : Dump.ofPaths tree [Path.ofString file] = .ok dump) (screen : Screen) (id : String)
    (context : Option String) :
    respond tree screen (lookupArguments file id context) = lookUp dump id context := by
  simp only [respond, ofArguments_lookupArguments, execute]
  exact withDump_of_ok (accepts_of_ofPaths hload) hload

section Outcome

variable {dump : Dump} {id : String} {context : Option String}

theorem lookUp_of_found {service : Service} (hfound : dump.find? id context = some service) :
    lookUp dump id context =
      { pieces := spellingPieces id ++ [.message .ok (describe service)], exitCode := 0 } := by
  simp only [lookUp, hfound]

theorem lookUp_of_not_found (hnone : dump.find? id context = none) :
    lookUp dump id context =
      { pieces := spellingPieces id ++ [.message .fail ("Service \"" ++ id ++ "\" not found")]
        exitCode := 1 } := by
  simp only [lookUp, hnone]

/-- The exit code tells whether the service was found. -/
theorem exitCode_lookUp_eq_one_iff :
    (lookUp dump id context).exitCode = 1 ↔ dump.find? id context = none := by
  cases hfound : dump.find? id context with
  | none => simp [lookUp_of_not_found hfound]
  | some service => simp [lookUp_of_found hfound]

theorem exitCode_lookUp_eq_zero_iff :
    (lookUp dump id context).exitCode = 0 ↔ dump.find? id context ≠ none := by
  cases hfound : dump.find? id context with
  | none => simp [lookUp_of_not_found hfound]
  | some service => simp [lookUp_of_found hfound]

theorem interruption_lookUp (dump : Dump) (id : String) (context : Option String) :
    (lookUp dump id context).interruption = none := by
  unfold lookUp
  split <;> rfl

theorem mem_spellingPieces_iff {piece : Piece} :
    piece ∈ spellingPieces id ↔
      Naming.offends id = true ∧ piece = .message .warn (unconventional id) := by
  cases hspelling : Naming.offends id <;> simp [spellingPieces, hspelling]

theorem warns_lookUp_iff (dump : Dump) (id : String) (context : Option String) :
    (∃ text, .message .warn text ∈ (lookUp dump id context).pieces) ↔
      Naming.offends id = true := by
  cases hfound : dump.find? id context with
  | none =>
    rw [lookUp_of_not_found hfound]
    simp [mem_spellingPieces_iff]
  | some service =>
    rw [lookUp_of_found hfound]
    simp [mem_spellingPieces_iff]

end Outcome

section Output

variable {tree : FileTree} {screen : Screen} {terminal : Bool} {file id : String}
  {context : Option String} {dump : Dump}

theorem wantsMarks_lookupArguments (file id : String) (context : Option String) :
    wantsMarks (lookupArguments file id context) = false := by
  rw [wantsMarks, ofArguments_lookupArguments]

/-- What is printed for a dump: the warning if there is one, and a line about the service. -/
theorem output_lookupArguments (hload : Dump.ofPaths tree [Path.ofString file] = .ok dump) :
    output tree screen terminal (lookupArguments file id context) =
      let style : Style := { marked := false, terminal := terminal }
      String.join ((spellingPieces id).map (printed screen style)) ++
        match dump.find? id context with
        | some service => message screen style .ok (describe service)
        | none => message screen style .fail ("Service \"" ++ id ++ "\" not found") := by
  rw [output, respond_lookupArguments hload, wantsMarks_lookupArguments]
  cases hfound : dump.find? id context with
  | none => simp [lookUp_of_not_found hfound, printed, String.join]
  | some service => simp [lookUp_of_found hfound, printed, String.join]

theorem message_of_unmarked {style : Style} (hstyle : style.marked = false) (tone : Tone)
    (text : String) : message screen style tone text = paint style tone (shown screen text) := by
  simp [message, hstyle]

/-- The visibility and what stands around the parts of a line are printed as they are. -/
theorem exists_shown_describe (screen : Screen) (service : Service) :
    ∃ shownId shownClass,
      shown screen (describe service) = shownId ++ " -> ".toList ++ shownClass ++
        (" (" ++ service.visibility.label ++ ")").toList ∧
      Shows service.id.toList shownId ∧
      Shows (service.namedClass?.getD "unknown class").toList shownClass := by
  have htext : (describe service).toList = service.id.toList ++ (" -> ".toList ++
      ((service.namedClass?.getD "unknown class").toList ++
        (" (" ++ service.visibility.label ++ ")").toList)) := by
    simp [describe]
  have hshows := shows_shown screen (describe service)
  rw [htext] at hshows
  obtain ⟨shownId, rest, hline, hid, hrest⟩ := hshows.exists_of_append
  obtain ⟨arrow, rest, rfl, harrow, hrest⟩ := hrest.exists_of_append
  obtain ⟨shownClass, tail, rfl, hclass, htail⟩ := hrest.exists_of_append
  have harrow : arrow = " -> ".toList := harrow.eq_of_isPlain (by decide)
  have htail : tail = (" (" ++ service.visibility.label ++ ")").toList := by
    refine htail.eq_of_isPlain ?_
    cases service.visibility <;> decide
  exact ⟨shownId, shownClass, by rw [hline, harrow, htail]; simp, hid, hclass⟩

end Output

end CommandLine

end ServiceWiring
