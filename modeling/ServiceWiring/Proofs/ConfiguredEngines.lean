import ServiceWiring.Settings
import ServiceWiring.Proofs.Loading
import ServiceWiring.Proofs.ServiceClasses

/-!
From settings to an engine. Of the dumps that are listed the first decides that is a file, or that
cannot be tested for being one, whatever comes of it; no path behind it is looked at. Only settings
that list no dump at all give an engine without a registry.
-/

namespace ServiceWiring

namespace FileTree

variable {tree other : FileTree} {paths : List Path} {path : Path}
  {answer : Except SystemFailure Bool}

/-- What is listed behind the path that decides is of no account. -/
theorem Decides.append (hfirst : tree.Decides paths path answer) (rest : List Path) :
    tree.Decides (paths ++ rest) path answer := by
  obtain ⟨before, after, rfl, hfile, hearlier⟩ := hfirst
  exact ⟨before, after ++ rest, by simp, hfile, hearlier⟩

/-- The trees have the same at a path, as far as files go. -/
structure SameAt (tree other : FileTree) (path : Path) : Prop where
  isFile_eq : other.isFile path = tree.isFile path
  readText_eq : other.readText path = tree.readText path

theorem sameAt_of_eq (hregular : other.isRegular path = tree.isRegular path)
    (hcontent : other.content path = tree.content path) : SameAt tree other path :=
  ⟨by rw [isFile, isFile, hregular], by rw [readText, readText, hcontent]⟩

/-- No tree has anything at a path with a NUL character. -/
theorem sameAt_of_hasNul (hnul : path.hasNul = true) : SameAt tree other path :=
  ⟨by rw [isFile, isFile, if_pos hnul, if_pos hnul],
    by rw [readText, readText, if_pos hnul, if_pos hnul]⟩

theorem Decides.congr (hfirst : tree.Decides paths path answer)
    (hsame : ∀ listed ∈ paths, SameAt tree other listed) : other.Decides paths path answer := by
  have hpath := hsame path hfirst.mem
  obtain ⟨before, after, rfl, hfile, hearlier⟩ := hfirst
  refine ⟨before, after, rfl, hpath.isFile_eq.trans hfile, ?_⟩
  intro earlier hmem
  rw [(hsame earlier (List.mem_append_left _ hmem)).isFile_eq]
  exact hearlier earlier hmem

end FileTree

namespace Dump

variable {tree other : FileTree} {paths before : List Path} {path : Path}

theorem ofFile_congr (hsame : FileTree.SameAt tree other path) :
    ofFile other path = ofFile tree path := by
  rw [ofFile, ofFile, hsame.readText_eq]

/-- Only the listed paths of a tree matter. -/
theorem ofPaths_congr (hsame : ∀ path ∈ paths, FileTree.SameAt tree other path) :
    ofPaths other paths = ofPaths tree paths := by
  rcases tree.no_file_or_decides paths with hnone | ⟨first, hfirst⟩ | ⟨first, failure, hfirst⟩
  · have hother : ∀ path ∈ paths, other.isFile path = .ok false := by
      intro path hmem
      rw [(hsame path hmem).isFile_eq]
      exact hnone path hmem
    rw [ofPaths_of_no_file hnone, ofPaths_of_no_file hother]
  · rw [ofPaths_of_firstFile hfirst, ofPaths_of_firstFile (hfirst.congr hsame)]
    exact ofFile_congr (hsame first hfirst.mem)
  · rw [ofPaths_of_untestable hfirst, ofPaths_of_untestable (hfirst.congr hsame)]

/-- Behind a path that is not passed over the list does not matter. -/
theorem ofPaths_append_cons (hfile : tree.isFile path ≠ .ok false) (before after : List Path) :
    ofPaths tree (before ++ path :: after) = ofPaths tree (before ++ [path]) := by
  have hsplit : before ++ path :: after = before ++ [path] ++ after := by simp
  rw [hsplit]
  rcases tree.no_file_or_decides (before ++ [path]) with
    hnone | ⟨first, hfirst⟩ | ⟨first, failure, hfirst⟩
  · exact absurd (hnone path (by simp)) hfile
  · rw [ofPaths_of_firstFile hfirst, ofPaths_of_firstFile (hfirst.append after)]
  · rw [ofPaths_of_untestable hfirst, ofPaths_of_untestable (hfirst.append after)]

/-- Behind a path that is not passed over neither the list nor the tree matters. -/
theorem ofPaths_of_decided (hfile : tree.isFile path ≠ .ok false)
    (hsame : ∀ listed ∈ before ++ [path], FileTree.SameAt tree other listed)
    (rest after : List Path) :
    ofPaths other (before ++ path :: rest) = ofPaths tree (before ++ path :: after) := by
  have hother : other.isFile path ≠ .ok false := by
    rw [(hsame path (by simp)).isFile_eq]
    exact hfile
  calc
    ofPaths other (before ++ path :: rest) = ofPaths other (before ++ [path]) :=
      ofPaths_append_cons hother before rest
    _ = ofPaths tree (before ++ [path]) := ofPaths_congr hsame
    _ = ofPaths tree (before ++ path :: after) := (ofPaths_append_cons hfile before after).symm

theorem message_notFound (hlisted : paths ≠ []) :
    (Failure.notFound paths).message =
      "container dump not found (tried: " ++
        String.intercalate ", " (paths.map (·.toString)) ++ ")" := by
  have hfilled : ¬ paths.isEmpty = true := by rwa [List.isEmpty_iff]
  have hlist : Failure.pathList paths = String.intercalate ", " (paths.map (·.toString)) := by
    rw [Failure.pathList, if_neg hfilled]
  rw [← hlist]
  rfl

end Dump

namespace Settings

variable {settings : Settings} {tree : FileTree} {path : Path}

theorem engine_of_no_dump (hnone : settings.dumps = []) :
    settings.engine tree = .ok .degraded := by
  simp [engine, hnone]

theorem engine_of_dumps (hlisted : settings.dumps ≠ []) :
    settings.engine tree =
      (Dump.ofPaths tree settings.dumps).map fun dump => .ofRegistry dump.registry := by
  have hfilled : settings.dumps.isEmpty = false := by simpa using hlisted
  rw [engine, hfilled, if_neg Bool.false_ne_true]

theorem dumps_ne_nil {answer : Except SystemFailure Bool}
    (hfirst : tree.Decides settings.dumps path answer) : settings.dumps ≠ [] :=
  List.ne_nil_of_mem hfirst.mem

theorem engine_of_firstFile (hfirst : tree.FirstFile settings.dumps path) :
    settings.engine tree =
      (Dump.ofFile tree path).map fun dump => .ofRegistry dump.registry := by
  rw [engine_of_dumps (dumps_ne_nil hfirst), Dump.ofPaths_of_firstFile hfirst]

/-- A path that cannot be tested is not passed over. -/
theorem engine_of_untestable {failure : SystemFailure}
    (hfirst : tree.FirstUntestable settings.dumps path failure) :
    settings.engine tree = .error (.interrupted (.untestable path failure)) := by
  rw [engine_of_dumps (dumps_ne_nil hfirst), Dump.ofPaths_of_untestable hfirst]
  rfl

/-- A file that cannot be read is not passed over. -/
theorem engine_of_unreadable {failure : SystemFailure}
    (hfirst : tree.FirstFile settings.dumps path) (hcontent : tree.content path = .error failure) :
    settings.engine tree = .error (.failed (.unreadable path failure)) := by
  have hplain : path.hasNul = false := by
    obtain ⟨-, -, -, hfile, -⟩ := hfirst
    exact (FileTree.isFile_eq_true_iff.1 hfile).1
  have hread := FileTree.readText_of_content_error hplain hcontent
  rw [engine_of_firstFile hfirst, Dump.ofFile_of_halt hread]
  rfl

/-- Only a lack of dumps in the settings leads to an engine without a registry. -/
theorem isDegraded_engine_iff :
    (∃ engine, settings.engine tree = .ok engine ∧ engine.isDegraded = true) ↔
      settings.dumps = [] := by
  constructor
  · rintro ⟨engine, hengine, hdegraded⟩
    by_contra hlisted
    rw [engine_of_dumps hlisted] at hengine
    cases hload : Dump.ofPaths tree settings.dumps with
    | error halt =>
      rw [hload] at hengine
      cases hengine
    | ok dump =>
      rw [hload] at hengine
      cases hengine
      cases hdegraded
  · intro hnone
    exact ⟨.degraded, engine_of_no_dump hnone, rfl⟩

/-- The engine that settings ask for is degraded exactly if they list no dump. Otherwise the first
path that is a file decides: the engine has the classes of the dump in it, in lower case, and where
that file cannot be read or holds no dump the engine fails as the loading of the file does. A path
of which the system does not tell whether it is a file decides as well, and interrupts. What is
listed behind the path that decides, and what the tree has there, is of no account. If none decides
the failure names all paths in order. Loading from several paths makes the same choice, and fails
for no path at all. -/
theorem engine_follows_first_file (tree : FileTree) (settings : Settings) :
    ((∃ engine, settings.engine tree = .ok engine ∧ engine.isDegraded = true) ↔
      settings.dumps = []) ∧
    (∀ path, tree.FirstFile settings.dumps path →
      (∀ dump, Dump.ofFile tree path = .ok dump →
        ∃ engine, settings.engine tree = .ok engine ∧ engine.isDegraded = false ∧
          ∀ key, key ∈ engine.serviceKeys ↔
            ∃ className ∈ dump.classNames, Text.lowercase className = key) ∧
      (∀ halt, Dump.ofFile tree path = .error halt → settings.engine tree = .error halt) ∧
      ∀ failure, tree.content path = .error failure →
        settings.engine tree = .error (.failed (.unreadable path failure))) ∧
    (∀ path failure, tree.FirstUntestable settings.dumps path failure →
      settings.engine tree = .error (.interrupted (.untestable path failure))) ∧
    (∀ before path after, settings.dumps = before ++ path :: after →
      tree.isFile path ≠ .ok false → ∀ (other : FileTree) (rest : List Path),
        (∀ listed ∈ before ++ [path], FileTree.SameAt tree other listed) →
        (⟨before ++ path :: rest⟩ : Settings).engine other = settings.engine tree) ∧
    (settings.dumps ≠ [] → (∀ path ∈ settings.dumps, tree.isFile path = .ok false) →
      ∃ failure, settings.engine tree = .error (.failed failure) ∧
        failure.message = "container dump not found (tried: " ++
          String.intercalate ", " (settings.dumps.map (·.toString)) ++ ")") ∧
    (∀ paths,
      (∀ path ∈ paths, tree.isFile path = .ok false) ∧
          Dump.ofPaths tree paths = .error (.failed (.notFound paths)) ∨
        (∃ path, tree.FirstFile paths path ∧ Dump.ofPaths tree paths = Dump.ofFile tree path) ∨
        ∃ path failure, tree.FirstUntestable paths path failure ∧
          Dump.ofPaths tree paths = .error (.interrupted (.untestable path failure))) ∧
    ∃ failure, Dump.ofPaths tree [] = .error (.failed failure) := by
  refine ⟨isDegraded_engine_iff, ?first, ?untestable, ?behind, ?none, ?paths, ?empty⟩
  case first =>
    intro path hfirst
    refine ⟨?_, ?_, ?_⟩
    · intro dump hload
      refine ⟨.ofRegistry dump.registry, ?_, rfl, ?_⟩
      · rw [engine_of_firstFile hfirst, hload]
        rfl
      · intro key
        exact Engine.mem_serviceKeys_iff
    · intro halt hload
      rw [engine_of_firstFile hfirst, hload]
      rfl
    · intro failure hcontent
      exact engine_of_unreadable hfirst hcontent
  case untestable =>
    intro path failure hfirst
    exact engine_of_untestable hfirst
  case behind =>
    intro before path after hsplit hfile other rest hsame
    have hlisted : before ++ path :: rest ≠ [] :=
      List.append_ne_nil_of_right_ne_nil before (List.cons_ne_nil path rest)
    have hdumps : settings.dumps ≠ [] := by
      rw [hsplit]
      exact List.append_ne_nil_of_right_ne_nil before (List.cons_ne_nil path after)
    rw [engine_of_dumps hlisted, engine_of_dumps hdumps, hsplit,
      Dump.ofPaths_of_decided hfile hsame rest after]
  case none =>
    intro hlisted hnone
    refine ⟨.notFound settings.dumps, ?_, Dump.message_notFound hlisted⟩
    rw [engine_of_dumps hlisted, Dump.ofPaths_of_no_file hnone]
    rfl
  case paths =>
    intro paths
    rcases tree.no_file_or_decides paths with hnone | ⟨path, hfirst⟩ | ⟨path, failure, hfirst⟩
    · exact .inl ⟨hnone, Dump.ofPaths_of_no_file hnone⟩
    · exact .inr (.inl ⟨path, hfirst, Dump.ofPaths_of_firstFile hfirst⟩)
    · exact .inr (.inr ⟨path, failure, hfirst, Dump.ofPaths_of_untestable hfirst⟩)
  case empty => exact ⟨_, Dump.ofPaths_of_no_file nofun⟩

/-- A missing path and a directory are passed over, a broken dump in front of a good one is not, and
two paths that are no files are both named. -/
theorem engine_of_warm_cache :
    let file (name : String) : Path := ⟨.relative, [name]⟩
    let tree := FileTree.ofEntries
      [(file "var", .directory), (file "old.xml", .file "<container>".toUTF8),
       (file "dev.xml", .file ("<container><services><service id=\"mailer\" class=\"Smtp\"/>" ++
         "</services></container>").toUTF8)]
    (∃ engine, (⟨[file "none.xml", file "var", file "dev.xml", file "old.xml"]⟩ : Settings).engine
        tree = .ok engine ∧ engine.isDegraded = false ∧ "smtp" ∈ engine.serviceKeys) ∧
      (∃ halt, Dump.ofFile tree (file "old.xml") = .error halt ∧
        (⟨[file "old.xml", file "dev.xml"]⟩ : Settings).engine tree = .error halt) ∧
      ∃ failure, (⟨[file "none.xml", file "var"]⟩ : Settings).engine tree =
          .error (.failed failure) ∧
        failure.message = "container dump not found (tried: none.xml, var)" := by
  intro file tree
  have hgood : (Dump.ofFile tree (file "dev.xml")).toOption.map (·.classNames) = some ["Smtp"] := by
    decide +kernel
  have hbroken : (Dump.ofFile tree (file "old.xml")).isOk = false := by decide +kernel
  refine ⟨?_, ?_, ?_⟩
  · obtain ⟨-, hfirst, -⟩ := engine_follows_first_file tree
      ⟨[file "none.xml", file "var", file "dev.xml", file "old.xml"]⟩
    cases hload : Dump.ofFile tree (file "dev.xml") with
    | error halt =>
      rw [hload] at hgood
      cases hgood
    | ok dump =>
      rw [hload] at hgood
      have hnames : dump.classNames = ["Smtp"] := Option.some.inj hgood
      obtain ⟨engine, hengine, hregistry, hkeys⟩ := (hfirst (file "dev.xml")
        ⟨[file "none.xml", file "var"], [file "old.xml"], rfl, by decide +kernel,
          by decide +kernel⟩).1 dump hload
      refine ⟨engine, hengine, hregistry, (hkeys "smtp").2 ⟨"Smtp", ?_, by decide +kernel⟩⟩
      rw [hnames]
      exact List.mem_singleton_self "Smtp"
  · obtain ⟨-, hfirst, -⟩ := engine_follows_first_file tree ⟨[file "old.xml", file "dev.xml"]⟩
    cases hload : Dump.ofFile tree (file "old.xml") with
    | ok dump =>
      rw [hload] at hbroken
      cases hbroken
    | error halt =>
      exact ⟨halt, rfl, (hfirst (file "old.xml")
        ⟨[], [file "dev.xml"], rfl, by decide +kernel, nofun⟩).2.1 halt hload⟩
  · obtain ⟨-, -, -, -, hnone, -⟩ :=
      engine_follows_first_file tree ⟨[file "none.xml", file "var"]⟩
    exact hnone (by decide) (by decide +kernel)

/-- A name of 256 letters is none that a file can have. Still it is not passed over: the good dump
behind it is not loaded, and by itself it does not count as not found. -/
theorem engine_behind_long_name :
    let file (name : String) : Path := ⟨.relative, [name]⟩
    let long := file (String.ofList (List.replicate 256 'x'))
    let tree := FileTree.ofEntries [(file "good.xml", .file "<container/>".toUTF8)]
    tree.isRegular (file "good.xml") = .ok true ∧
      (∃ dump, Dump.ofFile tree (file "good.xml") = .ok dump) ∧
      tree.isRegular long = .error .nameTooLong ∧
      (⟨[long, file "good.xml"]⟩ : Settings).engine tree =
        .error (.interrupted (.untestable long .nameTooLong)) ∧
      ¬ ∃ failure, (⟨[long]⟩ : Settings).engine tree = .error (.failed failure) := by
  intro file long tree
  have hgood : (Dump.ofFile tree (file "good.xml")).isOk = true := by decide +kernel
  have hlong : tree.isRegular long = .error .nameTooLong := by decide +kernel
  have hnul : '\x00' ∉ List.replicate 256 'x' := fun hmem =>
    absurd (List.eq_of_mem_replicate hmem) (by decide)
  have hplain : long.hasNul = false := by
    simp only [long, file, Path.hasNul, List.any_cons, List.any_nil, Bool.or_false,
      String.toList_ofList, List.contains_eq_mem, decide_eq_false hnul]
  have hfile : tree.isFile long = .error .nameTooLong :=
    FileTree.isFile_of_failure hplain hlong rfl
  have halone : (⟨[long]⟩ : Settings).engine tree =
      .error (.interrupted (.untestable long .nameTooLong)) :=
    engine_of_untestable ⟨[], [], rfl, hfile, nofun⟩
  refine ⟨by decide +kernel, ?_, hlong,
    engine_of_untestable ⟨[], [file "good.xml"], rfl, hfile, nofun⟩, ?_⟩
  · cases hload : Dump.ofFile tree (file "good.xml") with
    | ok dump => exact ⟨dump, rfl⟩
    | error halt =>
      rw [hload] at hgood
      cases hgood
  · rw [halone]
    exact nofun

end Settings

end ServiceWiring
