import ServiceWiring.Diagnostic.Document
import ServiceWiring.Proofs.Labels
import ServiceWiring.Proofs.Numerals
import ServiceWiring.Proofs.SettingsRecords

/-!
What records of locations and of issues declare. An integer may be spelled in many ways, `null` may
be left out, and keys that are not known are passed over; apart from that a record says in one way
what it says. A value that was read is written as a record which is read as the same value.
-/

namespace ServiceWiring

namespace Data

variable {data first second : Data} {value other : Int}

def given (name : String) (fallback : Data) (fields : List (String × Data)) : Data :=
  (field? name fields).getD fallback

inductive Spells : Data → Int → Prop
  | integer {value : Int} : Spells (.integer value) value
  | yes : Spells (.boolean true) 1
  | no : Spells (.boolean false) 0
  | real {number : Binary64} {value : Int} : number.Denotes value → Spells (.real number) value
  | text {text : String} {value : Int} : Text.IsNumeral text value → Spells (.text text) value

/-- The integer is not too large for the way it is spelled. -/
def Fits : Data → Int → Prop
  | .real _, value => -Checked.integerBound < value ∧ value < Checked.integerBound
  | .text written, _ => (Text.trimSpaces written.toList).length ≤ Checked.numeralBound
  | _, _ => True

theorem Spells.unique (hvalue : data.Spells value) (hother : data.Spells other) :
    value = other := by
  cases hvalue with
  | integer =>
    cases hother
    rfl
  | yes =>
    cases hother
    rfl
  | no =>
    cases hother
    rfl
  | real hvalue =>
    cases hother with
    | real hother =>
      rw [← Binary64.toInt?_eq_some_iff] at hvalue hother
      exact Option.some_inj.1 (hvalue.symm.trans hother)
  | text hvalue =>
    cases hother with
    | text hother =>
      rw [← Text.integerValue?_eq_some_iff] at hvalue hother
      exact Option.some_inj.1 (hvalue.symm.trans hother)

/-- The data denotes an integer that fits, or is `null` for the lack of one. -/
def SpellsOption (data : Data) : Option Int → Prop
  | none => data = .null
  | some value => data.Spells value ∧ data.Fits value

/-- The data is the same, or it spells the same integer. -/
def SameInteger (first second : Data) : Prop :=
  first = second ∨ ∃ value, first.Spells value ∧ second.Spells value

theorem Spells.ne_null (hvalue : data.Spells value) : data ≠ .null := by
  rintro rfl
  cases hvalue

theorem SpellsOption.eq_some {value : Option Int} (hvalue : data.SpellsOption value)
    (hother : data.Spells other) : value = some other := by
  cases value with
  | none => exact absurd hvalue hother.ne_null
  | some value => rw [hvalue.1.unique hother]

theorem SpellsOption.eq_iff {value other : Option Int} (hvalue : first.SpellsOption value)
    (hother : second.SpellsOption other) : value = other ↔ first.SameInteger second := by
  constructor
  · rintro rfl
    cases value with
    | none => exact .inl (hvalue.trans hother.symm)
    | some value => exact .inr ⟨value, hvalue.1, hother.1⟩
  · rintro (rfl | ⟨shared, hfirst, hsecond⟩)
    · cases value with
      | some value => exact (hother.eq_some hvalue.1).symm
      | none =>
        cases other with
        | none => rfl
        | some other => exact hvalue.eq_some hother.1
    · rw [hvalue.eq_some hfirst, hother.eq_some hsecond]

end Data

namespace Checked

variable {α : Type} {check : Data → Checked α} {fields : List (String × Data)} {name : String}
  {data : Data}

/-! ## Fields -/

theorem required_eq_ok_iff {value : α} (hnull : ∀ value, check .null ≠ .ok value) :
    required fields name check = .ok value ↔ check (Data.given name .null fields) = .ok value := by
  rw [required, under_eq_ok_iff, Data.given]
  cases Data.field? name fields with
  | none => exact iff_of_false nofun (hnull value)
  | some found => rfl

theorem defaulted_eq_ok_iff {value fallback : α} {default : Data}
    (hdefault : check default = .ok fallback) :
    defaulted fields name fallback check = .ok value ↔
      check (Data.given name default fields) = .ok value := by
  rw [defaulted, Data.given]
  cases Data.field? name fields with
  | none => rw [Option.getD_none, hdefault]
  | some found => exact under_eq_ok_iff

theorem nullable_eq_ok_iff {value : Option α} :
    nullable check data = .ok value ↔
      data = .null ∧ value = none ∨ data ≠ .null ∧ ∃ inner, check data = .ok inner ∧
        value = some inner := by
  by_cases hnull : data = .null
  · subst hnull
    simp [nullable, eq_comm]
  · have hmap : nullable check data = (check data).map some := by
      cases data
      case null => exact absurd rfl hnull
      all_goals rfl
    rw [hmap]
    cases check data <;> simp [Except.map, hnull, eq_comm]

/-! ## Single values -/

theorem text_eq_ok_iff {value : String} : text data = .ok value ↔ data = .text value := by
  cases data <;> simp [text, flawed]

theorem nullable_text_eq_ok_iff {value : Option String} :
    nullable text data = .ok value ↔ data = .ofText? value := by
  rw [nullable_eq_ok_iff]
  simp only [text_eq_ok_iff]
  cases value <;> simp +contextual [Data.ofText?]

theorem labelled_eq_ok_iff {ofLabel? : String → Option α} {label : α → String} {value : α}
    (hlabel : ∀ text value, ofLabel? text = some value ↔ label value = text) :
    labelled ofLabel? data = .ok value ↔ data = .text (label value) := by
  cases data
  case text written =>
    rw [Data.text.injEq, @eq_comm _ written, ← hlabel, labelled]
    cases ofLabel? written <;> simp [flawed]
  all_goals simp [labelled, flawed]

/-- A check for an integer gives the integer that the data spells, if it fits. -/
theorem integer_eq_ok_iff {value : Int} :
    integer data = .ok value ↔ data.Spells value ∧ data.Fits value := by
  constructor
  · intro hread
    unfold integer at hread
    split at hread
    · cases hread
      exact ⟨.integer, trivial⟩
    · next truth =>
      cases hread
      cases truth
      · exact ⟨.no, trivial⟩
      · exact ⟨.yes, trivial⟩
    · split at hread
      · cases hread
      · next number hnumber =>
        split at hread
        · next hbound =>
          cases hread
          simp only [Bool.and_eq_true, decide_eq_true_eq] at hbound
          exact ⟨.real (Binary64.toInt?_eq_some_iff.1 hnumber), hbound⟩
        · cases hread
    · cases hread
    · split at hread
      · cases hread
      · next hlength =>
        split at hread
        · next number hnumber =>
          cases hread
          exact ⟨.text (Text.integerValue?_eq_some_iff.1 hnumber), Nat.le_of_not_lt hlength⟩
        · cases hread
    · cases hread
  · rintro ⟨hspells, hfits⟩
    cases hspells with
    | integer => rfl
    | yes => rfl
    | no => rfl
    | @real number _ hdenotes =>
      have hnumber := Binary64.toInt?_eq_some_iff.2 hdenotes
      cases number with
      | finite => simp [integer, hnumber, hfits.1, hfits.2]
      | infinite => cases hnumber
      | notANumber => cases hnumber
    | text hnumeral =>
      rw [← Text.integerValue?_eq_some_iff] at hnumeral
      rw [integer, if_neg (Nat.not_lt.2 hfits), hnumeral]

theorem nullable_integer_eq_ok_iff {value : Option Int} :
    nullable integer data = .ok value ↔ data.SpellsOption value := by
  rw [nullable_eq_ok_iff]
  simp only [integer_eq_ok_iff]
  cases value with
  | none => simp [Data.SpellsOption]
  | some value =>
    have hnull : data.Spells value → data ≠ .null := Data.Spells.ne_null
    simp +contextual [Data.SpellsOption, hnull]

end Checked

/-! ## What records declare -/

open Data (given)

/-- The fields declare the location; those with other keys do not count. -/
structure CodeLocation.DeclaredBy (location : CodeLocation) (fields : List (String × Data)) :
    Prop where
  file : given "file_path" .null fields = .text location.file
  line : (given "line" .null fields).SpellsOption location.line
  column : (given "column" .null fields).SpellsOption location.column
  selectedText : given "selected_text" .null fields = .ofText? location.selectedText

structure Issue.DeclaredBy (issue : Issue) (fields : List (String × Data)) : Prop where
  kind : given "kind" .null fields = .text issue.kind.label
  message : given "message" .null fields = .text issue.message
  location : Checked.location (given "location" .null fields) = .ok issue.location
  severity : given "severity" (.text Severity.error.label) fields = .text issue.severity.label
  serviceId : given "service_id" .null fields = .ofText? issue.serviceId

structure CodeLocation.SameFields (fields others : List (String × Data)) : Prop where
  file : given "file_path" .null fields = given "file_path" .null others
  line : (given "line" .null fields).SameInteger (given "line" .null others)
  column : (given "column" .null fields).SameInteger (given "column" .null others)
  selectedText : given "selected_text" .null fields = given "selected_text" .null others

def Data.SameLocation (first second : Data) : Prop :=
  ∃ fields others, first = .record fields ∧ second = .record others ∧
    CodeLocation.SameFields fields others

structure Issue.SameFields (fields others : List (String × Data)) : Prop where
  kind : given "kind" .null fields = given "kind" .null others
  message : given "message" .null fields = given "message" .null others
  location : (given "location" .null fields).SameLocation (given "location" .null others)
  severity : given "severity" (.text Severity.error.label) fields =
    given "severity" (.text Severity.error.label) others
  serviceId : given "service_id" .null fields = given "service_id" .null others

def Data.SameIssue (first second : Data) : Prop :=
  ∃ fields others, first = .record fields ∧ second = .record others ∧
    Issue.SameFields fields others

namespace Checked

variable {fields : List (String × Data)} {name : String} {data first second : Data}

theorem required_text_eq_ok_iff {value : String} :
    required fields name text = .ok value ↔ given name .null fields = .text value :=
  (required_eq_ok_iff nofun).trans text_eq_ok_iff

theorem defaulted_text_eq_ok_iff {value : Option String} :
    defaulted fields name none (nullable text) = .ok value ↔
      given name .null fields = .ofText? value := by
  rw [← nullable_text_eq_ok_iff]
  exact defaulted_eq_ok_iff rfl

theorem defaulted_integer_eq_ok_iff {value : Option Int} :
    defaulted fields name none (nullable integer) = .ok value ↔
      (given name .null fields).SpellsOption value := by
  rw [← nullable_integer_eq_ok_iff]
  exact defaulted_eq_ok_iff rfl

theorem required_kind_eq_ok_iff {value : IssueKind} :
    required fields name (labelled IssueKind.ofLabel?) = .ok value ↔
      given name .null fields = .text value.label := by
  rw [← labelled_eq_ok_iff fun _ _ => IssueKind.ofLabel?_eq_some_iff]
  exact required_eq_ok_iff nofun

theorem defaulted_severity_eq_ok_iff {value : Severity} :
    defaulted fields name .error (labelled Severity.ofLabel?) = .ok value ↔
      given name (.text Severity.error.label) fields = .text value.label := by
  rw [← labelled_eq_ok_iff fun _ _ => Severity.ofLabel?_eq_some_iff]
  exact defaulted_eq_ok_iff rfl

/-- A record passes the check exactly if its fields declare the location. -/
theorem location_record_eq_ok_iff {value : CodeLocation} :
    location (.record fields) = .ok value ↔ value.DeclaredBy fields := by
  constructor
  · intro hread
    simp only [location] at hread
    split at hread
    · next hfile hline hcolumn hselected =>
      cases hread
      exact ⟨required_text_eq_ok_iff.1 hfile, defaulted_integer_eq_ok_iff.1 hline,
        defaulted_integer_eq_ok_iff.1 hcolumn, defaulted_text_eq_ok_iff.1 hselected⟩
    · cases hread
  · intro hdeclared
    simp only [location, required_text_eq_ok_iff.2 hdeclared.file,
      defaulted_integer_eq_ok_iff.2 hdeclared.line,
      defaulted_integer_eq_ok_iff.2 hdeclared.column,
      defaulted_text_eq_ok_iff.2 hdeclared.selectedText]

/-- A record passes the check exactly if its fields declare the issue. -/
theorem issue_record_eq_ok_iff {value : Issue} :
    issue (.record fields) = .ok value ↔ value.DeclaredBy fields := by
  constructor
  · intro hread
    simp only [issue] at hread
    split at hread
    · next hkind hmessage hplace hseverity hservice =>
      cases hread
      exact ⟨required_kind_eq_ok_iff.1 hkind, required_text_eq_ok_iff.1 hmessage,
        (required_eq_ok_iff nofun).1 hplace, defaulted_severity_eq_ok_iff.1 hseverity,
        defaulted_text_eq_ok_iff.1 hservice⟩
    · cases hread
  · intro hdeclared
    simp only [issue, required_kind_eq_ok_iff.2 hdeclared.kind,
      required_text_eq_ok_iff.2 hdeclared.message,
      (required_eq_ok_iff nofun).2 hdeclared.location,
      defaulted_severity_eq_ok_iff.2 hdeclared.severity,
      defaulted_text_eq_ok_iff.2 hdeclared.serviceId]

theorem exists_record_of_location {value : CodeLocation} (hread : location data = .ok value) :
    ∃ fields, data = .record fields ∧ value.DeclaredBy fields := by
  cases data
  case record fields => exact ⟨fields, rfl, location_record_eq_ok_iff.1 hread⟩
  all_goals cases hread

theorem exists_record_of_issue {value : Issue} (hread : issue data = .ok value) :
    ∃ fields, data = .record fields ∧ value.DeclaredBy fields := by
  cases data
  case record fields => exact ⟨fields, rfl, issue_record_eq_ok_iff.1 hread⟩
  all_goals cases hread

end Checked

namespace Data

variable {first second : Data}

theorem ofText?_inj {value other : Option String} :
    ofText? value = ofText? other ↔ value = other := by
  cases value <;> cases other <;> simp [ofText?]

theorem spellsOption_ofInteger? (value : Option Int) : (ofInteger? value).SpellsOption value := by
  cases value with
  | none => rfl
  | some value => exact ⟨.integer, trivial⟩

/-- Two records give one location exactly if they say the same of it. -/
theorem eq_iff_sameLocation {value other : CodeLocation}
    (hvalue : Checked.location first = .ok value) (hother : Checked.location second = .ok other) :
    value = other ↔ first.SameLocation second := by
  obtain ⟨fields, rfl, hfirst⟩ := Checked.exists_record_of_location hvalue
  obtain ⟨others, rfl, hsecond⟩ := Checked.exists_record_of_location hother
  constructor
  · rintro rfl
    exact ⟨fields, others, rfl, rfl, hfirst.file.trans hsecond.file.symm,
      (hfirst.line.eq_iff hsecond.line).1 rfl, (hfirst.column.eq_iff hsecond.column).1 rfl,
      hfirst.selectedText.trans hsecond.selectedText.symm⟩
  · rintro ⟨_, _, hrecord, hrecord', hsame⟩
    cases hrecord
    cases hrecord'
    have hfile := hfirst.file.symm.trans (hsame.file.trans hsecond.file)
    have htext := hfirst.selectedText.symm.trans (hsame.selectedText.trans hsecond.selectedText)
    cases value
    cases other
    rw [CodeLocation.mk.injEq]
    exact ⟨text.inj hfile, (hfirst.line.eq_iff hsecond.line).2 hsame.line,
      (hfirst.column.eq_iff hsecond.column).2 hsame.column, ofText?_inj.1 htext⟩

theorem eq_iff_sameIssue {value other : Issue} (hvalue : Checked.issue first = .ok value)
    (hother : Checked.issue second = .ok other) : value = other ↔ first.SameIssue second := by
  obtain ⟨fields, rfl, hfirst⟩ := Checked.exists_record_of_issue hvalue
  obtain ⟨others, rfl, hsecond⟩ := Checked.exists_record_of_issue hother
  have hlocation := eq_iff_sameLocation hfirst.location hsecond.location
  constructor
  · rintro rfl
    exact ⟨fields, others, rfl, rfl, hfirst.kind.trans hsecond.kind.symm,
      hfirst.message.trans hsecond.message.symm, hlocation.1 rfl,
      hfirst.severity.trans hsecond.severity.symm, hfirst.serviceId.trans hsecond.serviceId.symm⟩
  · rintro ⟨_, _, hrecord, hrecord', hsame⟩
    cases hrecord
    cases hrecord'
    have hkind := hfirst.kind.symm.trans (hsame.kind.trans hsecond.kind)
    have hmessage := hfirst.message.symm.trans (hsame.message.trans hsecond.message)
    have hseverity := hfirst.severity.symm.trans (hsame.severity.trans hsecond.severity)
    have hservice := hfirst.serviceId.symm.trans (hsame.serviceId.trans hsecond.serviceId)
    cases value
    cases other
    rw [Issue.mk.injEq]
    exact ⟨IssueKind.label_injective (text.inj hkind), text.inj hmessage,
      hlocation.2 hsame.location, Severity.label_injective (text.inj hseverity),
      ofText?_inj.1 hservice⟩

end Data

namespace Checked

theorem location_toData (value : CodeLocation) : location value.toData = .ok value :=
  location_record_eq_ok_iff.2
    ⟨rfl, Data.spellsOption_ofInteger? value.line, Data.spellsOption_ofInteger? value.column, rfl⟩

theorem issue_toData (value : Issue) : issue value.toData = .ok value :=
  issue_record_eq_ok_iff.2 ⟨rfl, rfl, location_toData value.location, rfl, rfl⟩

/-- What is written of an issue or a location is read as that issue or location, so reading it
again changes nothing. Two records that are read at all are read as equal issues or locations just
if they say the same: keys that are not known, absent values instead of `null` and the spelling of
line and column make no difference, and everything else does. A number is taken in every spelling
that it fits. -/
theorem validation_is_canonical :
    (∀ value, issue (Issue.toData value) = .ok value) ∧
    (∀ value, location (CodeLocation.toData value) = .ok value) ∧
    (∀ first second value other, issue first = .ok value → issue second = .ok other →
      (value = other ↔ first.SameIssue second)) ∧
    (∀ first second value other, location first = .ok value → location second = .ok other →
      (value = other ↔ first.SameLocation second)) ∧
    ∀ data value, integer data = .ok value ↔ data.Spells value ∧ data.Fits value :=
  ⟨issue_toData, location_toData, fun _ _ _ _ => Data.eq_iff_sameIssue,
    fun _ _ _ _ => Data.eq_iff_sameLocation, fun _ _ => integer_eq_ok_iff⟩

def looseLocation : Data :=
  .record
    [("length", .integer 12), ("file_path", .text "src/Mailing.php"), ("line", .text " +007.0 "),
     ("column", .boolean true)]

def strictLocation : Data :=
  .record
    [("file_path", .text "src/Mailing.php"), ("line", .real (.ofDecimal false 70 (-1))),
     ("column", .integer 1), ("selected_text", .null)]

def looseIssue : Data :=
  .record [("location", looseLocation), ("kind", .text "PrivateService"),
    ("message", .text "hidden")]

def strictIssue : Data :=
  .record
    [("kind", .text "PrivateService"), ("message", .text "hidden"), ("location", strictLocation),
     ("severity", .text "error"), ("service_id", .null)]

theorem loose_and_strict_records_agree :
    looseIssue.SameIssue strictIssue ∧ looseLocation.SameLocation strictLocation := by
  obtain ⟨-, -, hissues, hlocations, -⟩ := validation_is_canonical
  have hlocation : location looseLocation = .ok ⟨"src/Mailing.php", some 7, some 1, none⟩ := rfl
  have hissue : issue looseIssue =
      .ok ⟨.privateService, "hidden", ⟨"src/Mailing.php", some 7, some 1, none⟩, .error, none⟩ :=
    rfl
  exact ⟨(hissues _ strictIssue _ _ hissue rfl).1 rfl,
    (hlocations _ strictLocation _ _ hlocation rfl).1 rfl⟩

end Checked

end ServiceWiring
