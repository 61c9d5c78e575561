import ServiceWiring.CommandLine.Execution

/-!
How loading a dump ends. A path that cannot be read, a text that is no document and the lack of any
file are failures, which commands report with an exit code of their own. Other things interrupt the
loading and the command with it: bytes that are not UTF-8, a NUL character in a path, and a path of
which the system does not tell whether it names a file.
-/

namespace ServiceWiring

namespace FileTree

variable {tree : FileTree} {paths : List Path} {path : Path} {failure : SystemFailure}
  {cause : Interruption}

/-- What keeps a file from being read without being a failure to read it. -/
inductive Interrupts (tree : FileTree) (path : Path) : Interruption → Prop
  | nulInPath : path.hasNul = true → Interrupts tree path .nulInPath
  | undecodable {bytes : ByteArray} : path.hasNul = false → tree.content path = .ok bytes →
      ¬ bytes.IsValidUTF8 → Interrupts tree path .undecodable

theorem readText_eq_interrupted_iff :
    tree.readText path = .error (.interrupted cause) ↔ tree.Interrupts path cause := by
  constructor
  · intro hread
    unfold readText at hread
    split at hread
    · next hnul =>
      cases hread
      exact .nulInPath hnul
    · next hplain =>
      rw [Bool.not_eq_true] at hplain
      split at hread
      · cases hread
      · next bytes hbytes =>
        split at hread
        · cases hread
        · next hnone =>
          have hinvalid : ¬ bytes.IsValidUTF8 := by simpa [String.fromUTF8?] using hnone
          cases hread
          exact .undecodable hplain hbytes hinvalid
  · intro hinterrupts
    cases hinterrupts with
    | nulInPath hnul => simp [readText, hnul]
    | undecodable hplain hbytes hinvalid =>
      simp [readText, hplain, hbytes, String.fromUTF8?, hinvalid]

/-- The bytes of a text are read as that text. -/
theorem readText_of_toByteArray {text : String} (hplain : path.hasNul = false)
    (hbytes : tree.content path = .ok text.toByteArray) : tree.readText path = .ok text := by
  have htext : String.fromUTF8? text.toByteArray = some text := dif_pos text.isValidUTF8
  simp [readText, hplain, hbytes, htext]

theorem readText_of_content_error (hplain : path.hasNul = false)
    (hcontent : tree.content path = .error failure) :
    tree.readText path = .error (.failed failure) := by
  simp [readText, hplain, hcontent]

theorem isFile_eq_true_iff :
    tree.isFile path = .ok true ↔ path.hasNul = false ∧ tree.isRegular path = .ok true := by
  cases hnul : path.hasNul with
  | true => simp [isFile, hnul]
  | false =>
    cases hregular : tree.isRegular path with
    | ok regular => simp [isFile, hnul, hregular]
    | error found => cases habsent : found.isAbsence <;> simp [isFile, hnul, hregular, habsent]

/-- A failure of the test is passed on unless it says that the path leads nowhere. -/
theorem isFile_of_failure (hplain : path.hasNul = false)
    (hfailure : tree.isRegular path = .error failure) (hpresent : failure.isAbsence = false) :
    tree.isFile path = .error failure := by
  simp [isFile, hplain, hfailure, hpresent]

/-- The path is the first of `paths` that is not found to be no file, and the test gives `answer`
for it. -/
def Decides (tree : FileTree) (paths : List Path) (path : Path)
    (answer : Except SystemFailure Bool) : Prop :=
  ∃ before after, paths = before ++ path :: after ∧ tree.isFile path = answer ∧
    ∀ earlier ∈ before, tree.isFile earlier = .ok false

abbrev FirstFile (tree : FileTree) (paths : List Path) (path : Path) : Prop :=
  tree.Decides paths path (.ok true)

/-- No path in front of this one is a file, and whether it is one cannot be told. -/
abbrev FirstUntestable (tree : FileTree) (paths : List Path) (path : Path)
    (failure : SystemFailure) : Prop :=
  tree.Decides paths path (.error failure)

theorem Decides.mem {answer : Except SystemFailure Bool}
    (hfirst : tree.Decides paths path answer) : path ∈ paths := by
  obtain ⟨before, after, rfl, -⟩ := hfirst
  exact List.mem_append_right before List.mem_cons_self

/-- Paths that are no files are passed over. -/
theorem firstFile?_append {before : List Path}
    (hbefore : ∀ earlier ∈ before, tree.isFile earlier = .ok false) (rest : List Path) :
    tree.firstFile? (before ++ rest) = tree.firstFile? rest := by
  induction before with
  | nil => rfl
  | cons head before ih =>
    obtain ⟨hhead, hbefore⟩ := List.forall_mem_cons.1 hbefore
    rw [List.cons_append, firstFile?, hhead]
    exact ih hbefore

theorem firstFile?_of_firstFile (hfirst : tree.FirstFile paths path) :
    tree.firstFile? paths = .ok (some path) := by
  obtain ⟨before, after, rfl, hfile, hearlier⟩ := hfirst
  rw [firstFile?_append hearlier, firstFile?, hfile]

theorem firstFile?_of_untestable (hfirst : tree.FirstUntestable paths path failure) :
    tree.firstFile? paths = .error (.untestable path failure) := by
  obtain ⟨before, after, rfl, hfile, hearlier⟩ := hfirst
  rw [firstFile?_append hearlier, firstFile?, hfile]

theorem firstFile?_of_no_file (hnone : ∀ path ∈ paths, tree.isFile path = .ok false) :
    tree.firstFile? paths = .ok none := by
  rw [← List.append_nil paths, firstFile?_append hnone]
  rfl

theorem Decides.cons {answer : Except SystemFailure Bool} {head : Path}
    (hfirst : tree.Decides paths path answer) (hhead : tree.isFile head = .ok false) :
    tree.Decides (head :: paths) path answer := by
  obtain ⟨before, after, rfl, hfile, hearlier⟩ := hfirst
  exact ⟨head :: before, after, rfl, hfile, List.forall_mem_cons.2 ⟨hhead, hearlier⟩⟩

/-- Of some paths none is a file, or one of them decides. -/
theorem no_file_or_decides (tree : FileTree) (paths : List Path) :
    (∀ path ∈ paths, tree.isFile path = .ok false) ∨ (∃ path, tree.FirstFile paths path) ∨
      ∃ path failure, tree.FirstUntestable paths path failure := by
  induction paths with
  | nil => exact .inl nofun
  | cons head paths ih =>
    cases hhead : tree.isFile head with
    | error failure => exact .inr (.inr ⟨head, failure, [], paths, rfl, hhead, nofun⟩)
    | ok isFile =>
      cases isFile with
      | true => exact .inr (.inl ⟨head, [], paths, rfl, hhead, nofun⟩)
      | false =>
        rcases ih with hnone | ⟨path, hfirst⟩ | ⟨path, failure, hfirst⟩
        · exact .inl (List.forall_mem_cons.2 ⟨hhead, hnone⟩)
        · exact .inr (.inl ⟨path, hfirst.cons hhead⟩)
        · exact .inr (.inr ⟨path, failure, hfirst.cons hhead⟩)

end FileTree

namespace Dump

variable {tree : FileTree} {paths : List Path} {path : Path} {cause : Interruption}

/-- A text may hold no document, but that is a failure. -/
theorem mapError_failed_ne {α ε : Type} (result : Except ε α) :
    result.mapError Halt.failed ≠ .error (.interrupted cause) := by
  cases result <;> exact nofun

theorem ofFile_of_readText {text : String} (hread : tree.readText path = .ok text) :
    ofFile tree path =
      (ofText path.toString (String.ofList (Text.unifyLineEnds text.toList))).mapError .failed := by
  rw [ofFile, hread, Except.mapError_ok, Except.ok_bind]

theorem ofFile_of_halt {halt : Halt SystemFailure} (hread : tree.readText path = .error halt) :
    ofFile tree path = .error (halt.map (.unreadable path)) := by
  unfold ofFile
  rw [hread]
  rfl

theorem ofFile_eq_interrupted_iff :
    ofFile tree path = .error (.interrupted cause) ↔ tree.Interrupts path cause := by
  rw [← FileTree.readText_eq_interrupted_iff]
  cases hread : tree.readText path with
  | ok text =>
    rw [ofFile_of_readText hread]
    exact iff_of_false (mapError_failed_ne _) (by simp)
  | error halt =>
    rw [ofFile_of_halt hread]
    cases halt <;> simp [Halt.map]

theorem ofPaths_of_firstFile (hfirst : tree.FirstFile paths path) :
    ofPaths tree paths = ofFile tree path := by
  rw [ofPaths, FileTree.firstFile?_of_firstFile hfirst]

theorem ofPaths_of_untestable {failure : SystemFailure}
    (hfirst : tree.FirstUntestable paths path failure) :
    ofPaths tree paths = .error (.interrupted (.untestable path failure)) := by
  rw [ofPaths, FileTree.firstFile?_of_untestable hfirst]

theorem ofPaths_of_no_file (hnone : ∀ path ∈ paths, tree.isFile path = .ok false) :
    ofPaths tree paths = .error (.failed (.notFound paths)) := by
  rw [ofPaths, FileTree.firstFile?_of_no_file hnone]

/-- The first path that is a file or cannot be tested tells whether the loading is interrupted. -/
theorem ofPaths_eq_interrupted_iff :
    ofPaths tree paths = .error (.interrupted cause) ↔
      (∃ path failure, tree.FirstUntestable paths path failure ∧
        cause = .untestable path failure) ∨
      ∃ path, tree.FirstFile paths path ∧ tree.Interrupts path cause := by
  constructor
  · intro hload
    rcases tree.no_file_or_decides paths with hnone | ⟨path, hfirst⟩ | ⟨path, failure, hfirst⟩
    · rw [ofPaths_of_no_file hnone] at hload
      cases hload
    · rw [ofPaths_of_firstFile hfirst] at hload
      exact .inr ⟨path, hfirst, ofFile_eq_interrupted_iff.1 hload⟩
    · rw [ofPaths_of_untestable hfirst] at hload
      cases hload
      exact .inl ⟨path, failure, hfirst, rfl⟩
  · rintro (⟨path, failure, hfirst, rfl⟩ | ⟨path, hfirst, hinterrupts⟩)
    · exact ofPaths_of_untestable hfirst
    · rw [ofPaths_of_firstFile hfirst]
      exact ofFile_eq_interrupted_iff.2 hinterrupts

end Dump

namespace CommandLine

open Console
open Dump (Failure)

variable {tree : FileTree} {screen : Screen} {paths : List Path} {path : Path}
  {use : Dump → Outcome}

def Accepts (tree : FileTree) (paths : List Path) : Prop :=
  ∀ path ∈ paths, path.hasNul = false ∧ tree.isBarred path = false

theorem argumentFault?_of_accepts (haccepts : Accepts tree paths) :
    paths.findSome? (argumentFault? tree) = none := by
  rw [List.findSome?_eq_none_iff]
  intro path hmem
  obtain ⟨hplain, hopen⟩ := haccepts path hmem
  simp [argumentFault?, hplain, hopen]

theorem withDump_of_ok {dump : Dump} (haccepts : Accepts tree paths)
    (hload : Dump.ofPaths tree paths = .ok dump) : withDump tree paths use = use dump := by
  rw [withDump, argumentFault?_of_accepts haccepts, hload]

theorem withDump_of_halt {halt : Halt Failure} (haccepts : Accepts tree paths)
    (hload : Dump.ofPaths tree paths = .error halt) :
    withDump tree paths use = .ofHalt halt := by
  rw [withDump, argumentFault?_of_accepts haccepts, hload]

/-- The first argument that is not taken ends the command, whatever dumps there are. -/
theorem withDump_of_fault {before after : List Path} {fault : Outcome}
    (haccepts : Accepts tree before) (hfault : argumentFault? tree path = some fault) :
    withDump tree (before ++ path :: after) use = fault := by
  have hfound : (before ++ path :: after).findSome? (argumentFault? tree) = some fault := by
    rw [List.findSome?_append, argumentFault?_of_accepts haccepts, List.findSome?_cons, hfault]
    rfl
  rw [withDump, hfound]

def Command.useOf (screen : Screen) : Command → Dump → Outcome
  | .services _ => listServices screen
  | .lookup _ id context => (lookUp · id context)
  | .checkName name parameter => fun _ => CommandLine.checkName name parameter

theorem execute_eq_withDump {command : Command} (hneeds : command.dumps ≠ []) :
    execute tree screen command = withDump tree command.dumps (command.useOf screen) := by
  cases command with
  | services paths => rfl
  | lookup path id context => rfl
  | checkName name parameter => exact absurd rfl hneeds

/-- The screen refuses the table of the services that the command lists. -/
def Command.IsRefused (screen : Screen) (command : Command) (dump : Dump) : Prop :=
  ∃ paths, command = .services paths ∧ screen.draw (servicesGrid dump.services) = none

/-- The outcome tells how loading ended, but for dumps that are loaded and refused. The exit code 2
is that of a failure to load; interruptions are those of the loading or of the table, they come with
the exit code 1, and nothing is printed then. -/
def Outcome.TellsLoading (outcome : Outcome) (loaded : Except (Halt Failure) Dump)
    (refused : Dump → Prop) : Prop :=
  (outcome.exitCode = 2 ↔ ∃ failure, loaded = .error (.failed failure)) ∧
    (∀ cause, outcome.interruption = some cause ↔ loaded = .error (.interrupted cause) ∨
      cause = .undrawable ∧ ∃ dump, loaded = .ok dump ∧ refused dump) ∧
    ∀ cause, outcome.interruption = some cause → outcome = .interrupted cause

theorem tellsLoading_ofHalt (halt : Halt Failure) (refused : Dump → Prop) :
    (Outcome.ofHalt halt).TellsLoading (.error halt) refused := by
  cases halt with
  | failed failure => simp [Outcome.TellsLoading, Outcome.ofHalt]
  | interrupted cause => simp [Outcome.TellsLoading, Outcome.ofHalt, Outcome.interrupted]

theorem tellsLoading_useOf {command : Command} (hneeds : command.dumps ≠ []) (dump : Dump) :
    (command.useOf screen dump).TellsLoading (.ok dump) (command.IsRefused screen) := by
  cases command with
  | services paths =>
    cases hdraw : screen.draw (servicesGrid dump.services) with
    | none =>
      simp [Outcome.TellsLoading, Command.useOf, Command.IsRefused, listServices, hdraw,
        Outcome.interrupted, @eq_comm _ Interruption.undrawable]
    | some drawn =>
      simp [Outcome.TellsLoading, Command.useOf, Command.IsRefused, listServices, hdraw]
  | lookup path id context =>
    simp only [Command.useOf, lookUp]
    split <;> simp [Outcome.TellsLoading, Command.IsRefused]
  | checkName name parameter => exact absurd rfl hneeds

/-- A command whose paths are taken as arguments ends as the loading does. -/
theorem tellsLoading_execute {command : Command} (hneeds : command.dumps ≠ [])
    (haccepts : Accepts tree command.dumps) :
    (execute tree screen command).TellsLoading (Dump.ofPaths tree command.dumps)
      (command.IsRefused screen) := by
  rw [execute_eq_withDump hneeds]
  cases hload : Dump.ofPaths tree command.dumps with
  | error halt =>
    rw [withDump_of_halt haccepts hload]
    exact tellsLoading_ofHalt halt _
  | ok dump =>
    rw [withDump_of_ok haccepts hload]
    exact tellsLoading_useOf hneeds dump

theorem execute_of_fault {command : Command} {before after : List Path}
    (hsplit : command.dumps = before ++ path :: after) (haccepts : Accepts tree before)
    {fault : Outcome} (hfault : argumentFault? tree path = some fault) :
    execute tree screen command = fault := by
  have hneeds : command.dumps ≠ [] := by
    rw [hsplit]
    exact List.append_ne_nil_of_right_ne_nil before (List.cons_ne_nil path after)
  rw [execute_eq_withDump hneeds, hsplit, withDump_of_fault haccepts hfault]

/-- Loading a dump from a file ends in the dump or in a failure, unless the bytes are not UTF-8 or
the path has a NUL character in it; of several paths the first decides that is a file or cannot be
tested, and one that cannot be tested interrupts the loading. A command whose paths are taken as
arguments has the exit code 2 exactly if loading fails, and is interrupted exactly if loading is or
if the table of the services that it lists is refused. Otherwise the first path that is not taken
decides: one with a NUL character interrupts the command, one that may not be read is wrong usage.
-/
theorem loading_fails_unless_interrupted (tree : FileTree) (screen : Screen) :
    (∀ path cause,
      Dump.ofFile tree path = .error (.interrupted cause) ↔ tree.Interrupts path cause) ∧
    (∀ paths cause, Dump.ofPaths tree paths = .error (.interrupted cause) ↔
      (∃ path failure, tree.FirstUntestable paths path failure ∧
        cause = .untestable path failure) ∨
      ∃ path, tree.FirstFile paths path ∧ tree.Interrupts path cause) ∧
    (∀ command, command.dumps ≠ [] → Accepts tree command.dumps →
      (execute tree screen command).TellsLoading (Dump.ofPaths tree command.dumps)
        (command.IsRefused screen)) ∧
    ∀ command before path after, command.dumps = before ++ path :: after → Accepts tree before →
      (path.hasNul = true → execute tree screen command = .interrupted .nulInPath) ∧
      (path.hasNul = false → tree.isBarred path = true →
        execute tree screen command = .misuse) := by
  refine ⟨fun _ _ => Dump.ofFile_eq_interrupted_iff, fun _ _ => Dump.ofPaths_eq_interrupted_iff,
    fun _ => tellsLoading_execute, ?_⟩
  intro command before path after hsplit haccepts
  constructor
  · intro hnul
    exact execute_of_fault hsplit haccepts (by simp [argumentFault?, hnul])
  · intro hplain hbarred
    exact execute_of_fault hsplit haccepts (by simp [argumentFault?, hplain, hbarred])

/-- A file of one stray byte gives neither a dump nor a failure, and the exit code 1. -/
theorem loading_stray_byte :
    let path : Path := ⟨.relative, ["bad.xml"]⟩
    let tree := FileTree.ofEntries [(path, .file ⟨#[0xff]⟩)]
    (¬ ∃ dump, Dump.ofFile tree path = .ok dump) ∧
      (¬ ∃ failure, Dump.ofFile tree path = .error (.failed failure)) ∧
      execute tree .plain (.lookup path "mailer" none) =
        { exitCode := 1, interruption := some .undecodable } := by
  intro path tree
  have hload : Dump.ofFile tree path = .error (.interrupted .undecodable) :=
    Dump.ofFile_eq_interrupted_iff.2
      (.undecodable (by decide) (rfl : tree.content path = .ok ⟨#[0xff]⟩) (by decide +kernel))
  rw [hload]
  refine ⟨nofun, nofun, by decide +kernel⟩

end CommandLine

end ServiceWiring
