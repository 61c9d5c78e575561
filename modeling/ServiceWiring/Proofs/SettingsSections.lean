import ServiceWiring.Proofs.ConfiguredEngines
import ServiceWiring.Proofs.Paths
import ServiceWiring.Proofs.SettingsRecords
import ServiceWiring.Proofs.Tables

/-!
Settings as a section of a project file. A table there counts as the same table in a file of its
own, whatever stands around it. Anything else at its place is passed over: the file loads as if it
had no section.
-/

namespace ServiceWiring.Settings

variable {tree other : FileTree} {path : Path} {value : Data}
  {document around fields written : List (String × Data)} {settings : Settings}

/-! The place of the section -/

/-- What stands at the place of the settings in the document of a project file. -/
def sectionValue? (document : List (String × Data)) : Option Data :=
  ((Data.field? "tool" document).bind Data.fields?).bind (Data.field? "containerlint")

theorem projectSection_eq (document : List (String × Data)) :
    projectSection document = ((sectionValue? document).bind Data.fields?).getD [] := by
  unfold projectSection sectionValue? tableAt
  cases (Data.field? "tool" document).bind Data.fields? <;> rfl

theorem projectSection_of_record (hsection : sectionValue? document = some (.record fields)) :
    projectSection document = fields := by
  rw [projectSection_eq, hsection]
  rfl

theorem projectSection_of_not_record (hsection : sectionValue? document = some value)
    (hother : ∀ fields, value ≠ .record fields) : projectSection document = [] := by
  rw [projectSection_eq, hsection]
  cases value
  case record fields => exact absurd rfl (hother fields)
  all_goals rfl

theorem sectionFor_of_project (hname : path.name = projectFile) :
    sectionFor path document = projectSection document := by
  rw [sectionFor, if_pos hname]

theorem sectionFor_of_standalone (hname : path.name ≠ projectFile) :
    sectionFor path document = document := by
  rw [sectionFor, if_neg hname]

/-! Sections that are no tables -/

theorem declares_nil : Declares [] [] := ⟨nofun, .inl ⟨rfl, rfl⟩⟩

/-- A section that is no table is passed over. -/
theorem load_of_section_not_record (hname : path.name = projectFile)
    (hread : readDocument tree path = .ok document)
    (hsection : sectionValue? document = some value) (hother : ∀ fields, value ≠ .record fields) :
    load tree path = .ok {} := by
  have hempty : sectionFor path document = [] := by
    rw [sectionFor_of_project hname, projectSection_of_not_record hsection hother]
  rw [load_of_readDocument hread, ofDocument_eq_ok_iff, hempty]
  exact ⟨[], declares_nil, rfl⟩

/-- A project file with a table as its section loads exactly if the table declares settings, and
with these; if it declares none its flaws are reported. Anything but a table is passed over: the
settings are empty, and so the engine knows nothing. -/
theorem section_heeded_if_table (tree : FileTree) (path : Path) (document : List (String × Data))
    (value : Data) (hname : path.name = projectFile)
    (hread : readDocument tree path = .ok document)
    (hsection : sectionValue? document = some value) :
    (∀ fields, value = .record fields →
      (∀ settings, load tree path = .ok settings ↔ ∃ texts, Declares fields texts ∧
        settings = ⟨texts.map fun text => path.parent.join (.ofString text)⟩) ∧
      ((∀ texts, ¬ Declares fields texts) → ∃ complaints,
        load tree path = .error (.failed (.rejected path complaints)) ∧ complaints ≠ [] ∧
          ∀ complaint, complaint ∈ complaints ↔ Flawed fields complaint)) ∧
    ((∀ fields, value ≠ .record fields) →
      load tree path = .ok {} ∧ ∀ other, ({} : Settings).engine other = .ok .degraded) := by
  constructor
  · rintro fields rfl
    have hfields : sectionFor path document = fields := by
      rw [sectionFor_of_project hname, projectSection_of_record hsection]
    rw [load_of_readDocument hread]
    constructor
    · intro settings
      rw [ofDocument_eq_ok_iff, hfields]
    · intro hnone
      obtain ⟨complaints, hrejected, hfilled, hflaws⟩ := exists_ofFields_eq_error hnone
      refine ⟨complaints, ofDocument_of_error ?_, hfilled, hflaws⟩
      rw [hfields, hrejected]
  · intro hother
    exact ⟨load_of_section_not_record hname hread hsection hother, fun _ => rfl⟩

/-- A table with a number among the paths and a key of its own. -/
theorem flawed_section_rejected :
    let path : Path := ⟨.relative, ["pyproject.toml"]⟩
    let text := "[tool.containerlint]\ncontainer_xml = [\"a.xml\", 3]\nretries = 1"
    let tree := FileTree.ofEntries [(path, .file text.toByteArray)]
    let fields : List (String × Data) :=
      [("container_xml", .list [.text "a.xml", .integer 3]), ("retries", .integer 1)]
    let document : List (String × Data) := [("tool", .record [("containerlint", .record fields)])]
    path.name = projectFile ∧ readDocument tree path = .ok document ∧
      sectionValue? document = some (.record fields) ∧
      ∃ complaints, load tree path = .error (.failed (.rejected path complaints)) ∧
        ⟨[.field "container_xml", .index 1], .notPath⟩ ∈ complaints ∧
        ⟨[.field "retries"], .unknownField⟩ ∈ complaints := by
  intro path text tree fields document
  have hparse : Toml.parse text = .ok document := by decide +kernel
  have hread : readDocument tree path = .ok document :=
    readDocument_of_parse (by decide) rfl hparse
  have hsection : sectionValue? document = some (.record fields) := rfl
  obtain ⟨htable, -⟩ := section_heeded_if_table tree path document _ rfl hread hsection
  have hnone (texts : List String) : ¬ Declares fields texts := fun hdeclares =>
    absurd (hdeclares.known ("retries", .integer 1) (by simp [fields])) (by decide)
  obtain ⟨complaints, hload, -, hflaws⟩ := (htable fields rfl).2 hnone
  refine ⟨rfl, hread, hsection, complaints, hload, (hflaws _).2 ?_, (hflaws _).2 ?_⟩
  · exact .notPath rfl rfl (by simp)
  · have hmem : ("retries", .integer 1) ∈ fields := by simp [fields]
    exact .unknownField hmem (by decide)

/-- A section written as an array of tables is dropped: no failure is reported, no dump is listed
and the engine knows nothing. -/
theorem section_of_tables_dropped :
    let path : Path := ⟨.relative, ["pyproject.toml"]⟩
    let text := "[[tool.containerlint]]\ncontainer_xml = [\"var/dev.xml\"]\n"
    let tree := FileTree.ofEntries [(path, .file text.toByteArray)]
    (∃ document items, readDocument tree path = .ok document ∧
        sectionValue? document = some (.list items)) ∧
      (¬ ∃ failure, load tree path = .error (.failed failure)) ∧
      ∃ settings, load tree path = .ok settings ∧ settings.dumps = [] ∧
        settings.engine tree = .ok .degraded := by
  intro path text tree
  have hparse : Toml.parse text = .ok [("tool", .record [("containerlint",
      .list [.record [("container_xml", .list [.text "var/dev.xml"])]])])] := by
    decide +kernel
  have hbytes : tree.content path = .ok text.toByteArray := rfl
  have hread := readDocument_of_parse (by decide) hbytes hparse
  have hload : load tree path = .ok {} :=
    load_of_section_not_record rfl hread rfl (by simp)
  exact ⟨⟨_, _, hread, rfl⟩, by simp [hload], {}, hload, rfl, rfl⟩

/-! The two forms -/

theorem listedDumps_of_perm (hperm : fields.Perm written) (hdistinct : (keysOf fields).Nodup) :
    listedDumps fields = listedDumps written := by
  have hread : Data.field? dumpsKey fields = Data.field? dumpsKey written :=
    lookup_of_perm hperm hdistinct dumpsKey
  rw [listedDumps, listedDumps, Checked.defaulted, Checked.defaulted, hread]

/-- The order of the fields of a record does not matter. -/
theorem ofFields_eq_ok_iff_of_perm (hperm : fields.Perm written)
    (hdistinct : (keysOf fields).Nodup) :
    ofFields fields = .ok settings ↔ ofFields written = .ok settings := by
  have hunknown : (unknownKeys fields).Perm (unknownKeys written) := (hperm.filter _).map _
  have hnone : unknownKeys fields = [] ↔ unknownKeys written = [] := by
    rw [← List.length_eq_zero_iff, hunknown.length_eq, List.length_eq_zero_iff]
  rw [ofFields_eq_ok_iff_listed, ofFields_eq_ok_iff_listed, listedDumps_of_perm hperm hdistinct,
    hnone]

theorem complaints_ofFields_perm (hperm : fields.Perm written)
    (hdistinct : (keysOf fields).Nodup) :
    (ofFields fields).complaints.Perm (ofFields written).complaints := by
  rw [complaints_ofFields, complaints_ofFields, listedDumps_of_perm hperm hdistinct]
  exact ((hperm.filter _).map _).append_left _

theorem ofDocument_of_declares {texts : List String}
    (hfields : sectionFor path document = fields) (hdeclares : Declares fields texts) :
    ofDocument path document = .ok ⟨texts.map fun text => path.parent.join (.ofString text)⟩ := by
  rw [ofDocument_eq_ok_iff, hfields]
  exact ⟨texts, hdeclares, rfl⟩

/-- Only the place of the settings matters in the document of a project file. -/
theorem load_congr_of_section (hname : path.name = projectFile)
    (hread : readDocument tree path = .ok document) (hother : readDocument other path = .ok around)
    (hsection : sectionValue? document = sectionValue? around) :
    load tree path = load other path := by
  rw [load_of_readDocument hread, load_of_readDocument hother, ofDocument, ofDocument,
    sectionFor_of_project hname, sectionFor_of_project hname, projectSection_eq, projectSection_eq,
    hsection]

/-- A record in another order gives the same settings, or the same complaints in another order. -/
theorem load_of_perm (hname : path.name ≠ projectFile)
    (hread : readDocument tree path = .ok fields) (hother : readDocument other path = .ok written)
    (hperm : fields.Perm written) (hdistinct : (keysOf fields).Nodup) :
    (∃ settings, load tree path = .ok settings ∧ load other path = .ok settings) ∨
      ∃ complaints others, complaints.Perm others ∧
        load tree path = .error (.failed (.rejected path complaints)) ∧
        load other path = .error (.failed (.rejected path others)) := by
  have hfields : sectionFor path fields = fields := sectionFor_of_standalone hname
  have hwritten : sectionFor path written = written := sectionFor_of_standalone hname
  have hflaws := complaints_ofFields_perm hperm hdistinct
  rw [load_of_readDocument hread, load_of_readDocument hother]
  cases hfirst : ofFields fields with
  | ok settings =>
    have hsecond : ofFields written = .ok settings :=
      (ofFields_eq_ok_iff_of_perm hperm hdistinct).1 hfirst
    rw [← hfields] at hfirst
    rw [← hwritten] at hsecond
    exact .inl ⟨_, ofDocument_of_ok hfirst, ofDocument_of_ok hsecond⟩
  | error complaints =>
    cases hsecond : ofFields written with
    | ok settings =>
      rw [(ofFields_eq_ok_iff_of_perm hperm hdistinct).2 hsecond] at hfirst
      cases hfirst
    | error others =>
      rw [hfirst, hsecond] at hflaws
      rw [← hfields] at hfirst
      rw [← hwritten] at hsecond
      exact .inr ⟨complaints, others, hflaws, ofDocument_of_error hfirst,
        ofDocument_of_error hsecond⟩

/-- A table of settings counts the same in a section of a project file and in a file of its own in
the same directory: both give the paths that it lists, taken from there, or both are rejected with
its flaws. The rest of a project file has no influence, and the order of the keys has none but on
the order of the complaints. -/
theorem forms_of_settings_agree (dir : Path) (name : String) (hname : name ≠ projectFile) :
    (∀ (project standalone : FileTree) (document fields : List (String × Data)),
      readDocument project (dir.file projectFile) = .ok document →
      sectionValue? document = some (.record fields) →
      readDocument standalone (dir.file name) = .ok fields →
      (∀ texts, Declares fields texts →
        load project (dir.file projectFile) =
            .ok ⟨texts.map fun text => dir.join (.ofString text)⟩ ∧
          load standalone (dir.file name) =
            .ok ⟨texts.map fun text => dir.join (.ofString text)⟩) ∧
      ((∀ texts, ¬ Declares fields texts) → ∃ complaints, complaints ≠ [] ∧
        (∀ complaint, complaint ∈ complaints ↔ Flawed fields complaint) ∧
        load project (dir.file projectFile) =
            .error (.failed (.rejected (dir.file projectFile) complaints)) ∧
          load standalone (dir.file name) =
            .error (.failed (.rejected (dir.file name) complaints)))) ∧
    (∀ (tree other : FileTree) (document around : List (String × Data)),
      readDocument tree (dir.file projectFile) = .ok document →
      readDocument other (dir.file projectFile) = .ok around →
      sectionValue? document = sectionValue? around →
      load tree (dir.file projectFile) = load other (dir.file projectFile)) ∧
    ∀ (tree other : FileTree) (fields written : List (String × Data)),
      readDocument tree (dir.file name) = .ok fields →
      readDocument other (dir.file name) = .ok written →
      fields.Perm written → (keysOf fields).Nodup →
      (∃ settings, load tree (dir.file name) = .ok settings ∧
        load other (dir.file name) = .ok settings) ∨
      ∃ complaints others, complaints.Perm others ∧
        load tree (dir.file name) = .error (.failed (.rejected (dir.file name) complaints)) ∧
        load other (dir.file name) = .error (.failed (.rejected (dir.file name) others)) := by
  have hproject : (dir.file projectFile).name = projectFile := Path.name_file dir projectFile
  have hstandalone : (dir.file name).name ≠ projectFile := by rwa [Path.name_file]
  refine ⟨?forms, ?around, ?order⟩
  case forms =>
    intro project standalone document fields hread hsection hother
    have hhere : sectionFor (dir.file projectFile) document = fields := by
      rw [sectionFor_of_project hproject, projectSection_of_record hsection]
    have hthere : sectionFor (dir.file name) fields = fields := sectionFor_of_standalone hstandalone
    rw [load_of_readDocument hread, load_of_readDocument hother]
    constructor
    · intro texts hdeclares
      have hfirst := ofDocument_of_declares hhere hdeclares
      have hsecond := ofDocument_of_declares hthere hdeclares
      rw [Path.parent_file] at hfirst hsecond
      exact ⟨hfirst, hsecond⟩
    · intro hnone
      obtain ⟨complaints, hrejected, hfilled, hflaws⟩ := exists_ofFields_eq_error hnone
      exact ⟨complaints, hfilled, hflaws, ofDocument_of_error (hhere.symm ▸ hrejected),
        ofDocument_of_error (hthere.symm ▸ hrejected)⟩
  case around =>
    intro tree other document around hread hother hsection
    exact load_congr_of_section hproject hread hother hsection
  case order =>
    intro tree other fields written hread hother hperm hdistinct
    exact load_of_perm hstandalone hread hother hperm hdistinct

/-- A project file and a file of its own, each with the same list of an absolute and a relative
path. -/
theorem forms_in_one_directory :
    let dir : Path := ⟨.relative, ["conf"]⟩
    let table := "container_xml = [\"/a\", \".//b\"]"
    let text := "[tool]\na=1\n[tool.containerlint]\ncontainer_xml = [\"/a\", \".//b\"]"
    let tree := FileTree.ofEntries [(dir.file "pyproject.toml", .file text.toByteArray),
      (dir.file "containerlint.toml", .file table.toByteArray)]
    let fields : List (String × Data) := [("container_xml", .list [.text "/a", .text ".//b"])]
    let document : List (String × Data) :=
      [("tool", .record [("a", .integer 1), ("containerlint", .record fields)])]
    "containerlint.toml" ≠ projectFile ∧
      readDocument tree (dir.file "pyproject.toml") = .ok document ∧
      sectionValue? document = some (.record fields) ∧
      readDocument tree (dir.file "containerlint.toml") = .ok fields ∧
      let listed : Settings := ⟨[⟨.slash, ["a"]⟩, ⟨.relative, ["conf", "b"]⟩]⟩
      load tree (dir.file "pyproject.toml") = .ok listed ∧
        load tree (dir.file "containerlint.toml") = .ok listed := by
  intro dir table text tree fields document
  have hname : "containerlint.toml" ≠ projectFile := by decide
  have hproject : readDocument tree (dir.file "pyproject.toml") = .ok document := by
    have hbytes : tree.content (dir.file "pyproject.toml") = .ok text.toByteArray := rfl
    have hparse : Toml.parse text = .ok document := by decide +kernel
    exact readDocument_of_parse (by decide) hbytes hparse
  have hstandalone : readDocument tree (dir.file "containerlint.toml") = .ok fields := by
    have hbytes : tree.content (dir.file "containerlint.toml") = .ok table.toByteArray := by
      decide +kernel
    have hparse : Toml.parse table = .ok fields := by decide +kernel
    exact readDocument_of_parse (by decide) hbytes hparse
  have hsection : sectionValue? document = some (.record fields) := rfl
  have hdeclares : Declares fields ["/a", ".//b"] :=
    ⟨by simp [fields, dumpsKey], .inr rfl⟩
  obtain ⟨hforms, -, -⟩ := forms_of_settings_agree dir "containerlint.toml" hname
  obtain ⟨hloads, -⟩ := hforms tree tree document fields hproject hsection hstandalone
  exact ⟨hname, hproject, hsection, hstandalone, hloads _ hdeclares⟩

end ServiceWiring.Settings
