import ServiceWiring.Proofs.Loading
import ServiceWiring.Proofs.TomlDocuments
import ServiceWiring.Settings

/-!
How loading settings ends. A file that cannot be read, a text that is no document and a document
that holds no settings are failures. Three things are not: bytes that are not UTF-8, a NUL
character in the path and a decimal integer of more digits than are converted interrupt the
loading.
-/

namespace ServiceWiring.Settings

variable {tree : FileTree} {path : Path} {cause : Interruption}

/-- What keeps settings from being loaded without being a failure to load them. -/
inductive Interrupts (tree : FileTree) (path : Path) : Interruption → Prop
  | reading {cause : Interruption} : tree.Interrupts path cause → Interrupts tree path cause
  | oversizedNumeral {text : String} {digits : Nat} : tree.readText path = .ok text →
      Toml.parse text = .error (.oversizedInteger digits) →
      Interrupts tree path (.oversizedNumeral digits)

/-- Loading ends with settings, or with a failure that says why there are none. -/
def Reports (outcome : Except (Halt Failure) Settings) : Prop :=
  (∃ settings, outcome = .ok settings) ∨ ∃ failure, outcome = .error (.failed failure)

theorem reports_iff {outcome : Except (Halt Failure) Settings} :
    Reports outcome ↔ ∀ cause, outcome ≠ .error (.interrupted cause) := by
  rcases outcome with (failure | cause) | settings <;> simp [Reports]

/-- From a document on nothing interrupts the loading. -/
theorem ofDocument_reports (path : Path) (document : List (String × Data)) :
    Reports (ofDocument path document) := by
  unfold ofDocument
  split
  · exact .inl ⟨_, rfl⟩
  · exact .inr ⟨_, rfl⟩

theorem load_of_halt {halt : Halt SystemFailure} (hread : tree.readText path = .error halt) :
    load tree path = .error (halt.map (.unreadable path)) := by
  unfold load readDocument
  rw [hread]
  rfl

/-- Once the text is there, only an integer that is too long interrupts the loading. -/
theorem load_eq_interrupted_iff_of_readText {text : String}
    (hread : tree.readText path = .ok text) :
    load tree path = .error (.interrupted cause) ↔
      ∃ digits, Toml.parse text = .error (.oversizedInteger digits) ∧
        cause = .oversizedNumeral digits := by
  rw [load, readDocument, hread, Except.mapError_ok, Except.ok_bind]
  cases Toml.parse text with
  | ok document =>
    have hreports := reports_iff.1 (ofDocument_reports path document) cause
    simp [hreports]
  | error fault =>
    cases fault
    case oversizedInteger digits => simp [eq_comm]
    all_goals simp

theorem load_eq_interrupted_iff :
    load tree path = .error (.interrupted cause) ↔ Interrupts tree path cause := by
  constructor
  · intro hload
    cases hread : tree.readText path with
    | error halt =>
      rw [load_of_halt hread] at hload
      cases halt with
      | failed failure => cases hload
      | interrupted reason =>
        cases hload
        exact .reading (FileTree.readText_eq_interrupted_iff.1 hread)
    | ok text =>
      obtain ⟨digits, hparse, rfl⟩ := (load_eq_interrupted_iff_of_readText hread).1 hload
      exact .oversizedNumeral hread hparse
  · intro hinterrupts
    cases hinterrupts with
    | reading hreading =>
      rw [load_of_halt (FileTree.readText_eq_interrupted_iff.2 hreading)]
      rfl
    | oversizedNumeral hread hparse =>
      exact (load_eq_interrupted_iff_of_readText hread).2 ⟨_, hparse, rfl⟩

/-- Loading settings ends in settings or in a failure, unless the path has a NUL character in it,
the bytes of the file are not UTF-8 or its text is refused for the length of an integer. A text is
refused so only if it has a decimal numeral of more digits than are converted: the settings in a
file without such a numeral load, or fail to load and say why. -/
theorem loading_settings_fails_unless_interrupted (tree : FileTree) (path : Path) :
    (∀ cause, load tree path = .error (.interrupted cause) ↔ Interrupts tree path cause) ∧
    (Reports (load tree path) ↔ ∀ cause, ¬ Interrupts tree path cause) ∧
    (∀ failure, path.hasNul = false → tree.content path = .error failure →
      load tree path = .error (.failed (.unreadable path failure))) ∧
    ∀ text : String, path.hasNul = false → tree.content path = .ok text.toByteArray →
      (∀ digits, Toml.HasNumeral text.toList digits → digits ≤ Toml.integerDigitBound) →
      Reports (load tree path) := by
  refine ⟨fun _ => load_eq_interrupted_iff, ?reported, ?unreadable, ?short⟩
  case reported =>
    rw [reports_iff]
    exact forall_congr' fun _ => not_congr load_eq_interrupted_iff
  case unreadable =>
    intro failure hplain hcontent
    exact load_of_halt (FileTree.readText_of_content_error hplain hcontent)
  case short =>
    intro text hplain hbytes hshort
    have hread := FileTree.readText_of_toByteArray hplain hbytes
    rw [reports_iff]
    intro cause hload
    obtain ⟨digits, hparse, -⟩ := (load_eq_interrupted_iff_of_readText hread).1 hload
    obtain ⟨hlong, hnumeral⟩ := Toml.hasNumeral_of_parse hparse
    exact absurd hlong (Nat.not_lt.2 (hshort digits hnumeral))

/-- A file whose only numeral is short. -/
theorem settings_with_short_numeral :
    let path : Path := ⟨.relative, ["containerlint.toml"]⟩
    let text := "container_xml = [\"var/dev.xml\"]\nretries = 1_000\n"
    let tree := FileTree.ofEntries [(path, .file text.toByteArray)]
    path.hasNul = false ∧ tree.content path = .ok text.toByteArray ∧
      (∀ digits, Toml.HasNumeral text.toList digits → digits ≤ Toml.integerDigitBound) ∧
      Reports (load tree path) := by
  intro path text tree
  have hplain : path.hasNul = false := by decide
  have hbytes : tree.content path = .ok text.toByteArray := rfl
  have hshort (digits : Nat) (hnumeral : Toml.HasNumeral text.toList digits) :
      digits ≤ Toml.integerDigitBound :=
    Nat.le_trans hnumeral.le_length (by decide)
  exact ⟨hplain, hbytes, hshort,
    (loading_settings_fails_unless_interrupted tree path).2.2.2 text hplain hbytes hshort⟩

/-- A file of one stray byte gives neither settings nor a failure. -/
theorem settings_stray_byte :
    let path : Path := ⟨.relative, ["bad.toml"]⟩
    let tree := FileTree.ofEntries [(path, .file ⟨#[0xff]⟩)]
    (¬ ∃ settings, load tree path = .ok settings) ∧
      ¬ ∃ failure, load tree path = .error (.failed failure) := by
  intro path tree
  have hload : load tree path = .error (.interrupted .undecodable) :=
    load_eq_interrupted_iff.2 (.reading
      (.undecodable (by decide) (rfl : tree.content path = .ok ⟨#[0xff]⟩) (by decide +kernel)))
  rw [hload]
  exact ⟨nofun, nofun⟩

end ServiceWiring.Settings
