import ServiceWiring.Proofs.ConfiguredEngines
import ServiceWiring.Proofs.Paths
import ServiceWiring.Proofs.SettingsRecords

/-!
Settings with their paths taken from a directory. Taking them from one directory after the other is
taking them from the joined directory, and changes nothing once they are absolute. Settings that are
loaded are absolute exactly where the path of their file or the path that is listed is; only then do
they mean the same files in every working directory.
-/

namespace ServiceWiring

/-- What a process sees of a disk whose working directory is `here`. -/
def FileTree.seenFrom (disk : FileTree) (here : Path) : FileTree where
  isRegular path := disk.isRegular (here.join path)
  content path := disk.content (here.join path)

/-- Absolute paths lead to the same place from everywhere. -/
theorem FileTree.sameAt_seenFrom (disk : FileTree) (here there : Path) {path : Path}
    (habsolute : path.isAbsolute = true) :
    SameAt (disk.seenFrom there) (disk.seenFrom here) path := by
  apply sameAt_of_eq <;> simp only [seenFrom, Path.join_of_isAbsolute _ habsolute]

def FileTree.ofTexts (files : List (Path × String)) : FileTree where
  isRegular path :=
    match files.lookup path with
    | some _ => .ok true
    | none => .error .missing
  content path :=
    match files.lookup path with
    | some text => .ok text.toByteArray
    | none => .error .missing

namespace Dump

theorem ofFile_ne_notFound (tree : FileTree) (path : Path) (tried : List Path) :
    ofFile tree path ≠ .error (.failed (.notFound tried)) := by
  cases hread : tree.readText path with
  | error halt =>
    rw [ofFile_of_halt hread]
    cases halt <;> simp [Halt.map]
  | ok text =>
    rw [ofFile_of_readText hread, ofText]
    split <;> simp [Except.mapError]

end Dump

namespace Settings

variable {settings : Settings} {base : Path} {tree other : FileTree}

/-! Directories one after the other -/

theorem resolved_resolved (settings : Settings) (base outer : Path) :
    (settings.resolved base).resolved outer = settings.resolved (outer.join base) := by
  have hjoin : outer.join ∘ base.join = (outer.join base).join :=
    funext fun path => Path.join_join outer base path
  rw [resolved, resolved, List.map_map, hjoin]
  rfl

/-- Absolute paths stay as they are. -/
theorem resolved_of_absolute (habsolute : ∀ path ∈ settings.dumps, path.isAbsolute = true)
    (base : Path) : settings.resolved base = settings := by
  have hsame : settings.dumps.map base.join = settings.dumps.map id :=
    List.map_congr_left fun path hmem => Path.join_of_isAbsolute base (habsolute path hmem)
  rw [resolved, hsame, List.map_id]

theorem resolved_here (settings : Settings) : settings.resolved ⟨.relative, []⟩ = settings := by
  have hsame : Path.join ⟨.relative, []⟩ = id := funext Path.here_join
  rw [resolved, hsame, List.map_id]

theorem isAbsolute_of_mem_resolved (hbase : base.isAbsolute = true) {path : Path}
    (hmem : path ∈ (settings.resolved base).dumps) : path.isAbsolute = true := by
  obtain ⟨listed, -, rfl⟩ := List.mem_map.1 hmem
  exact (Path.isAbsolute_join base listed).2 (.inl hbase)

theorem getElem?_resolved (settings : Settings) (base : Path) (index : Nat) :
    (settings.resolved base).dumps[index]? = settings.dumps[index]?.map base.join := by
  simp [resolved]

/-- On texts, taking paths from a directory is joining the two texts. -/
theorem dumps_resolved_ofTexts {texts : List String} (hdumps : settings.dumps = texts.map .ofString)
    (base : String) :
    (settings.resolved (.ofString base)).dumps =
      texts.map fun text => .ofString (Path.joinTexts base text) := by
  simp [resolved, hdumps, Function.comp_def, Path.ofString_joinTexts]

/-- Taking paths from a directory is an action of joining: directories one after the other are one
joined directory, however their texts are written, and the directory without segments changes
nothing. Number and order of the paths stay, and so do absolute paths; a relative path follows the
segments of the directory. From an absolute directory all paths become absolute, which no further
directory changes. Paths that are listed as texts come to be what the joined texts name, each in
normal form: they are the same exactly if they are written alike. -/
theorem resolving_acts_by_joining (settings : Settings) :
    (∀ base outer : Path,
      (settings.resolved base).resolved outer = settings.resolved (outer.join base)) ∧
    (∀ base outer : String,
      (settings.resolved (.ofString base)).resolved (.ofString outer) =
        settings.resolved (.ofString (Path.joinTexts outer base))) ∧
    settings.resolved (.ofString ".") = settings ∧
    (∀ base : Path, (settings.resolved base).dumps.length = settings.dumps.length ∧
      ∀ (index : Nat) (path : Path), settings.dumps[index]? = some path →
        (path.isAbsolute = true → (settings.resolved base).dumps[index]? = some path) ∧
        (path.isAbsolute = false → (settings.resolved base).dumps[index]? =
          some ⟨base.anchor, base.segments ++ path.segments⟩)) ∧
    (∀ base : Path, base.isAbsolute = true →
      (∀ path ∈ (settings.resolved base).dumps, path.isAbsolute = true) ∧
        ∀ further, (settings.resolved base).resolved further = settings.resolved base) ∧
    ∀ texts : List String, settings.dumps = texts.map .ofString → ∀ base : String,
      (settings.resolved (.ofString base)).dumps =
          texts.map (fun text => .ofString (Path.joinTexts base text)) ∧
        ∀ path ∈ (settings.resolved (.ofString base)).dumps, ∀ text,
          path.toString = (Path.ofString text).toString ↔ path = .ofString text := by
  refine ⟨resolved_resolved settings, ?texts, resolved_here settings, ?places, ?absolute, ?normal⟩
  case texts =>
    intro base outer
    rw [resolved_resolved, Path.ofString_joinTexts]
  case places =>
    intro base
    refine ⟨List.length_map .., ?_⟩
    intro index path hpath
    rw [getElem?_resolved, hpath, Option.map_some]
    constructor
    · intro habsolute
      rw [Path.join_of_isAbsolute base habsolute]
    · intro hrelative
      rw [Path.join_of_relative base hrelative]
  case absolute =>
    intro base hbase
    have habsolute : ∀ path ∈ (settings.resolved base).dumps, path.isAbsolute = true :=
      fun _ hmem => isAbsolute_of_mem_resolved hbase hmem
    exact ⟨habsolute, resolved_of_absolute habsolute⟩
  case normal =>
    intro texts hdumps base
    have hjoined := dumps_resolved_ofTexts hdumps base
    refine ⟨hjoined, ?_⟩
    intro path hmem text
    rw [hjoined, List.mem_map] at hmem
    obtain ⟨listed, -, rfl⟩ := hmem
    exact Path.toString_inj (Path.isNormal_ofString _) (Path.isNormal_ofString text)

/-- A relative and an absolute path, seen from two directories with dots and doubled slashes in
their texts. -/
theorem resolved_from_two_directories :
    let settings : Settings := ⟨["var//./dev.xml", "/srv/app.xml"].map .ofString⟩
    (settings.resolved (.ofString "../conf/")).resolved (.ofString "//host") =
        settings.resolved (.ofString "//host/../conf/") ∧
      (settings.resolved (.ofString "//host/")).dumps.map (·.toString) =
        ["//host/var/dev.xml", "/srv/app.xml"] ∧
      (Path.ofString "//host/").isAbsolute = true ∧
      (settings.resolved (.ofString "//host/")).resolved (.ofString "/") =
        settings.resolved (.ofString "//host/") := by
  intro settings
  obtain ⟨-, htexts, -, -, habsolute, hnormal⟩ := resolving_acts_by_joining settings
  have hbase : (Path.ofString "//host/").isAbsolute = true := by decide +kernel
  have hjoined := (hnormal ["var//./dev.xml", "/srv/app.xml"] rfl "//host/").1
  refine ⟨?_, ?_, hbase, (habsolute _ hbase).2 _⟩
  · rw [htexts]
    rfl
  · rw [hjoined]
    decide +kernel

/-! Working directories -/

theorem engine_congr (hsame : ∀ path ∈ settings.dumps, FileTree.SameAt tree other path) :
    settings.engine other = settings.engine tree := by
  by_cases hnone : settings.dumps = []
  · rw [engine_of_no_dump hnone, engine_of_no_dump hnone]
  · rw [engine_of_dumps hnone, engine_of_dumps hnone, Dump.ofPaths_congr hsame]

/-- Where some path is a file the engine does not fail for want of one. -/
theorem engine_ne_notFound {path : Path} (hmem : path ∈ settings.dumps)
    (hfile : tree.isFile path = .ok true) (tried : List Path) :
    settings.engine tree ≠ .error (.failed (.notFound tried)) := by
  rcases tree.no_file_or_decides settings.dumps with
    hnone | ⟨first, hfirst⟩ | ⟨first, failure, hfirst⟩
  · have hother := hnone path hmem
    rw [hfile] at hother
    cases hother
  · have hload := Dump.ofFile_ne_notFound tree first tried
    rw [engine_of_firstFile hfirst]
    cases hdump : Dump.ofFile tree first with
    | ok dump => simp [Except.map]
    | error halt =>
      rw [hdump] at hload
      simpa [Except.map] using hload
  · rw [engine_of_untestable hfirst]
    exact nofun

/-- A disk that has files only where a relative path of the settings leads from one directory. -/
theorem exists_engine_ne {path : Path} (hmem : path ∈ settings.dumps)
    (hrelative : path.isAbsolute = false) (hplain : path.hasNul = false) :
    ∃ disk here there,
      settings.engine (FileTree.seenFrom disk here) ≠
        settings.engine (FileTree.seenFrom disk there) := by
  -- No listed path is as long as the sum of all, so none of them lies that deep by itself.
  let depth := (settings.dumps.map (·.segments)).flatten.length
  have hdepth (listed : Path) (hlisted : listed ∈ settings.dumps) :
      listed.segments.length ≤ depth :=
    (List.sublist_flatten_of_mem (List.mem_map_of_mem hlisted)).length_le
  let disk : FileTree :=
    { isRegular := fun path =>
        .ok (decide (path.anchor = .doubleSlash ∧ depth < path.segments.length))
      content := fun _ => .error .missing }
  let here : Path := ⟨.doubleSlash, List.replicate (depth + 1) "d"⟩
  let there : Path := ⟨.slash, []⟩
  have hhere : (disk.seenFrom here).isFile path = .ok true := by
    have hlong : depth < (here.segments ++ path.segments).length := by
      simp [here]
      omega
    refine FileTree.isFile_eq_true_iff.2 ⟨hplain, ?_⟩
    simp only [FileTree.seenFrom, Path.join_of_relative here hrelative]
    exact congrArg Except.ok (decide_eq_true ⟨rfl, hlong⟩)
  have hthere : ∀ listed ∈ settings.dumps, (disk.seenFrom there).isFile listed = .ok false := by
    intro listed hlisted
    have hshallow : ¬ ((there.join listed).anchor = .doubleSlash ∧
        depth < (there.join listed).segments.length) := by
      rintro ⟨hanchor, hlong⟩
      cases habsolute : listed.isAbsolute with
      | true =>
        rw [Path.join_of_isAbsolute there habsolute] at hlong
        exact absurd hlong (Nat.not_lt.2 (hdepth listed hlisted))
      | false =>
        rw [Path.join_of_relative there habsolute] at hanchor
        cases hanchor
    simp only [FileTree.isFile, FileTree.seenFrom, disk, decide_eq_false hshallow, ite_self]
  have hlost : settings.engine (disk.seenFrom there) =
      .error (.failed (.notFound settings.dumps)) := by
    rw [engine_of_dumps (List.ne_nil_of_mem hmem), Dump.ofPaths_of_no_file hthere]
    rfl
  refine ⟨disk, here, there, ?_⟩
  rw [hlost]
  exact engine_ne_notFound hmem hhere settings.dumps

/-- Settings ask for the same engine in every working directory exactly if their paths are absolute
or, as those with a NUL character, name no file anywhere. -/
theorem engine_seenFrom_iff :
    (∀ (disk : FileTree) (here there : Path),
      settings.engine (disk.seenFrom here) = settings.engine (disk.seenFrom there)) ↔
    ∀ path ∈ settings.dumps, path.isAbsolute = true ∨ path.hasNul = true := by
  constructor
  · intro hsame path hmem
    by_contra hmoves
    simp only [not_or, Bool.not_eq_true] at hmoves
    obtain ⟨disk, here, there, hne⟩ := exists_engine_ne hmem hmoves.1 hmoves.2
    exact hne (hsame disk here there)
  · intro hfixed disk here there
    apply engine_congr
    intro path hmem
    rcases hfixed path hmem with habsolute | hnul
    · exact FileTree.sameAt_seenFrom disk here there habsolute
    · exact FileTree.sameAt_of_hasNul hnul

/-- A path in loaded settings is absolute exactly if the path of the file is, or if the text that is
listed begins with a slash: a file with an absolute path gives absolute paths only. All paths have
to be absolute for the settings to mean the same files in every working directory, except for those
that name no file anywhere as they have a NUL character in them. -/
theorem loaded_dumps_absolute_exactly (tree : FileTree) (path : Path) (settings : Settings)
    (hload : load tree path = .ok settings) :
    (∃ document texts, readDocument tree path = .ok document ∧
      Declares (sectionFor path document) texts ∧
      List.Forall₂ (fun (text : String) dump => dump = path.parent.join (.ofString text) ∧
          (dump.isAbsolute = true ↔ path.isAbsolute = true ∨ text.toList.head? = some '/'))
        texts settings.dumps) ∧
    (path.isAbsolute = true → ∀ dump ∈ settings.dumps, dump.isAbsolute = true) ∧
    ((∀ (disk : FileTree) (here there : Path),
        settings.engine (disk.seenFrom here) = settings.engine (disk.seenFrom there)) ↔
      ∀ dump ∈ settings.dumps, dump.isAbsolute = true ∨ dump.hasNul = true) := by
  obtain ⟨document, texts, hread, hdeclares, rfl⟩ := load_eq_ok_iff.1 hload
  have hparent : path.parent.isAbsolute = path.isAbsolute := rfl
  refine ⟨⟨document, texts, hread, hdeclares, ?_⟩, ?_, engine_seenFrom_iff⟩
  · rw [List.forall₂_map_right_iff, List.forall₂_same]
    intro text _
    refine ⟨rfl, ?_⟩
    rw [Path.isAbsolute_join, hparent, Path.isAbsolute_ofString]
  · intro habsolute dump hmem
    obtain ⟨text, -, rfl⟩ := List.mem_map.1 hmem
    exact (Path.isAbsolute_join _ _).2 (.inl habsolute)

/-- The file of an absolute path, which lists an absolute and a relative one. -/
theorem dumps_of_absolute_file :
    let path : Path := ⟨.slash, ["srv", "lint.toml"]⟩
    let text := "container_xml = [\"/opt/a.xml\", \"var/b.xml\"]"
    let tree := FileTree.ofTexts [(path, text)]
    let settings : Settings :=
      ⟨[⟨.slash, ["opt", "a.xml"]⟩, ⟨.slash, ["srv", "var", "b.xml"]⟩]⟩
    load tree path = .ok settings ∧ (∀ dump ∈ settings.dumps, dump.isAbsolute = true) ∧
      ∀ (disk : FileTree) (here there : Path),
        settings.engine (disk.seenFrom here) = settings.engine (disk.seenFrom there) := by
  intro path text tree settings
  have hparse : Toml.parse text =
      .ok [("container_xml", .list [.text "/opt/a.xml", .text "var/b.xml"])] := by
    decide +kernel
  have hbytes : tree.content path = .ok text.toByteArray := by simp [tree, FileTree.ofTexts]
  have hread := readDocument_of_parse (by decide) hbytes hparse
  have hdeclares : Declares [("container_xml", .list [.text "/opt/a.xml", .text "var/b.xml"])]
      ["/opt/a.xml", "var/b.xml"] := ⟨by simp [dumpsKey], .inr rfl⟩
  have hload : load tree path = .ok settings :=
    load_eq_ok_iff.2 ⟨_, _, hread, hdeclares, by decide +kernel⟩
  obtain ⟨-, habsolute, hengine⟩ := loaded_dumps_absolute_exactly tree path settings hload
  exact ⟨hload, habsolute rfl, hengine.2 fun dump hmem => .inl (habsolute rfl dump hmem)⟩

/-- A file with a relative path gives a relative path, which leads to a dump only as long as the
working directory stays. -/
theorem dumps_of_relative_file :
    let path : Path := ⟨.relative, ["lint.toml"]⟩
    let text := "container_xml = [\"a.xml\"]"
    let disk := FileTree.ofTexts
      [(⟨.slash, ["app", "lint.toml"]⟩, text), (⟨.slash, ["app", "a.xml"]⟩, "<container/>")]
    let here := disk.seenFrom ⟨.slash, ["app"]⟩
    let there := disk.seenFrom ⟨.slash, []⟩
    ∃ settings, load here path = .ok settings ∧
      (∃ dump ∈ settings.dumps, dump.isAbsolute = false) ∧
      (∃ engine, settings.engine here = .ok engine) ∧
      ¬ ∃ engine, settings.engine there = .ok engine := by
  intro path text disk here there
  have hparse : Toml.parse text = .ok [("container_xml", .list [.text "a.xml"])] := by
    decide +kernel
  have hbytes : here.content path = .ok text.toByteArray := by decide +kernel
  have hread := readDocument_of_parse (by decide) hbytes hparse
  have hdeclares : Declares [("container_xml", .list [.text "a.xml"])] ["a.xml"] :=
    ⟨by simp [dumpsKey], .inr rfl⟩
  let settings : Settings := ⟨[⟨.relative, ["a.xml"]⟩]⟩
  have hload : load here path = .ok settings :=
    load_eq_ok_iff.2 ⟨_, _, hread, hdeclares, by decide +kernel⟩
  have hfound : (settings.engine here).isOk = true := by decide +kernel
  have hlost : settings.engine there = .error (.failed (.notFound settings.dumps)) := by
    rw [engine_of_dumps (List.cons_ne_nil _ _), Dump.ofPaths_of_no_file (by decide +kernel)]
    rfl
  refine ⟨settings, hload, ⟨_, List.mem_singleton_self _, rfl⟩, ?_, by simp [hlost]⟩
  cases hengine : settings.engine here with
  | ok engine => exact ⟨engine, rfl⟩
  | error halt =>
    rw [hengine] at hfound
    cases hfound

end Settings

end ServiceWiring
