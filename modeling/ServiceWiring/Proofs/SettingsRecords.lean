import Mathlib.Data.List.Forall2
import ServiceWiring.Proofs.Loading
import ServiceWiring.Settings

/-!
What a record of settings declares. It has no key but the one of the dumps, under which a list of
texts stands; a record of any other shape is rejected, with a complaint for each flaw in it and for
nothing else.
-/

namespace ServiceWiring

namespace Checked

variable {α : Type} {check : Data → Checked α} {result : Checked α} {start : Nat} {list : List Data}

/-- A check without a complaint gives a value. -/
def Explains (result : Checked α) : Prop := result.complaints = [] → ∃ value, result = .ok value

theorem Explains.complaints_ne_nil {complaints : List Complaint} (hexplains : result.Explains)
    (hresult : result = .error complaints) : complaints ≠ [] := by
  subst hresult
  intro hnone
  obtain ⟨value, hvalue⟩ := hexplains hnone
  cases hvalue

theorem explains_flawed (flaw : Flaw) : Explains (flawed flaw : Checked α) := nofun

theorem under_eq_ok_iff {selector : Selector} {value : α} :
    under selector result = .ok value ↔ result = .ok value := by
  cases result <;> simp [under]

theorem complaints_under (selector : Selector) (result : Checked α) :
    (under selector result).complaints = result.complaints.map fun complaint =>
      { complaint with place := selector :: complaint.place } := by
  cases result <;> rfl

theorem Explains.under (selector : Selector) (hexplains : result.Explains) :
    (under selector result).Explains := by
  intro hnone
  rw [complaints_under, List.map_eq_nil_iff] at hnone
  obtain ⟨value, hvalue⟩ := hexplains hnone
  exact ⟨value, under_eq_ok_iff.2 hvalue⟩

theorem items_cons_eq_ok_iff {item : Data} {rest : List Data} {values : List α} :
    items check start (item :: rest) = .ok values ↔
      ∃ value others, check item = .ok value ∧ items check (start + 1) rest = .ok others ∧
        values = value :: others := by
  constructor
  · intro hitems
    unfold items at hitems
    split at hitems
    · next value others hvalue hothers =>
      cases hitems
      exact ⟨value, others, under_eq_ok_iff.1 hvalue, hothers, rfl⟩
    · cases hitems
  · rintro ⟨value, others, hvalue, hothers, rfl⟩
    have hfirst : under (.index start) (check item) = .ok value := under_eq_ok_iff.2 hvalue
    rw [items, hfirst, hothers]

/-- A list passes a check exactly if each of its items does. -/
theorem items_eq_ok_iff {values : List α} :
    items check start list = .ok values ↔
      List.Forall₂ (fun item value => check item = .ok value) list values := by
  induction list generalizing start values with
  | nil => simp [items, eq_comm]
  | cons item rest ih =>
    rw [items_cons_eq_ok_iff, List.forall₂_cons_left_iff]
    simp only [ih]

theorem complaints_items_cons (item : Data) (rest : List Data) :
    (items check start (item :: rest)).complaints =
      (under (.index start) (check item)).complaints ++
        (items check (start + 1) rest).complaints := by
  rw [items]
  split
  · next hvalue hothers =>
    rw [hvalue, hothers]
    rfl
  · rfl

/-- The complaints about a list are those about its items. -/
theorem mem_complaints_items_iff {complaint : Complaint} :
    complaint ∈ (items check start list).complaints ↔
      ∃ index item inner, list[index]? = some item ∧ inner ∈ (check item).complaints ∧
        complaint = ⟨.index (start + index) :: inner.place, inner.flaw⟩ := by
  induction list generalizing start with
  | nil => simp [items, complaints]
  | cons first rest ih =>
    rw [complaints_items_cons, List.mem_append, complaints_under, List.mem_map, ih]
    constructor
    · rintro (⟨inner, hinner, rfl⟩ | ⟨index, item, inner, hitem, hinner, rfl⟩)
      · exact ⟨0, first, inner, rfl, hinner, rfl⟩
      · exact ⟨index + 1, item, inner, hitem, hinner, by rw [Nat.add_right_comm]; rfl⟩
    · rintro ⟨index, item, inner, hitem, hinner, rfl⟩
      cases index with
      | zero =>
        cases hitem
        exact .inl ⟨inner, hinner, rfl⟩
      | succ index =>
        exact .inr ⟨index, item, inner, hitem, hinner, by rw [Nat.add_right_comm]; rfl⟩

theorem explains_items (hcheck : ∀ item, (check item).Explains) :
    (items check start list).Explains := by
  induction list generalizing start with
  | nil => exact fun _ => ⟨[], rfl⟩
  | cons item rest ih =>
    intro hnone
    rw [complaints_items_cons, List.append_eq_nil_iff] at hnone
    obtain ⟨value, hvalue⟩ := (hcheck item).under (.index start) hnone.1
    obtain ⟨others, hothers⟩ := ih hnone.2
    exact ⟨value :: others,
      items_cons_eq_ok_iff.2 ⟨value, others, under_eq_ok_iff.1 hvalue, hothers, rfl⟩⟩

end Checked

namespace Settings

open Checked

variable {fields : List (String × Data)} {texts : List String} {settings : Settings}

/-- The record declares settings: every key is the one of the dumps, and what stands under it, if
anything does, is a list of texts. -/
structure Declares (fields : List (String × Data)) (texts : List String) : Prop where
  known : ∀ field ∈ fields, field.1 = dumpsKey
  listed : Data.field? dumpsKey fields = none ∧ texts = [] ∨
    Data.field? dumpsKey fields = some (.list (texts.map .text))

/-- What can be wrong with a record of settings, and where. -/
inductive Flawed (fields : List (String × Data)) : Complaint → Prop
  | notList {value : Data} : Data.field? dumpsKey fields = some value →
      (∀ items, value ≠ .list items) → Flawed fields ⟨[.field dumpsKey], .notList⟩
  | notPath {items : List Data} {index : Nat} {item : Data} :
      Data.field? dumpsKey fields = some (.list items) → items[index]? = some item →
      (∀ text, item ≠ .text text) → Flawed fields ⟨[.field dumpsKey, .index index], .notPath⟩
  | unknownField {name : String} {value : Data} : (name, value) ∈ fields → name ≠ dumpsKey →
      Flawed fields ⟨[.field name], .unknownField⟩

theorem checkPath_eq_ok_iff {item : Data} {path : Path} :
    checkPath item = .ok path ↔ ∃ text, item = .text text ∧ path = .ofString text := by
  cases item <;> simp [checkPath, flawed, eq_comm]

theorem mem_complaints_checkPath_iff {item : Data} {complaint : Complaint} :
    complaint ∈ (checkPath item).complaints ↔
      (∀ text, item ≠ .text text) ∧ complaint = ⟨[], .notPath⟩ := by
  cases item <;> simp [checkPath, flawed, complaints]

theorem explains_checkPath (item : Data) : (checkPath item).Explains := by
  cases item <;> simp [checkPath, flawed, Explains, complaints]

theorem checkPaths_eq_ok_iff {value : Data} {paths : List Path} :
    checkPaths value = .ok paths ↔
      ∃ texts : List String, value = .list (texts.map .text) ∧ paths = texts.map .ofString := by
  cases value
  case list items =>
    rw [checkPaths, items_eq_ok_iff]
    simp only [checkPath_eq_ok_iff]
    constructor
    · intro hitems
      induction hitems with
      | nil => exact ⟨[], rfl, rfl⟩
      | cons hitem _ ih =>
        obtain ⟨text, rfl, rfl⟩ := hitem
        obtain ⟨texts, hlist, rfl⟩ := ih
        cases hlist
        exact ⟨text :: texts, rfl, rfl⟩
    · rintro ⟨texts, hlist, rfl⟩
      cases hlist
      simp [List.forall₂_map_left_iff, List.forall₂_map_right_iff, List.forall₂_same]
  all_goals simp [checkPaths, flawed]

theorem mem_complaints_checkPaths_iff {value : Data} {complaint : Complaint} :
    complaint ∈ (checkPaths value).complaints ↔
      (∀ items, value ≠ .list items) ∧ complaint = ⟨[], .notList⟩ ∨
        ∃ items index item, value = .list items ∧ items[index]? = some item ∧
          (∀ text, item ≠ .text text) ∧ complaint = ⟨[.index index], .notPath⟩ := by
  cases value
  case list items =>
    rw [checkPaths, mem_complaints_items_iff]
    simp only [mem_complaints_checkPath_iff, Nat.zero_add]
    constructor
    · rintro ⟨index, item, _, hitem, ⟨hother, rfl⟩, rfl⟩
      exact .inr ⟨items, index, item, rfl, hitem, hother, rfl⟩
    · rintro (⟨hother, -⟩ | ⟨_, index, item, hlist, hitem, hother, rfl⟩)
      · exact absurd rfl (hother items)
      · cases hlist
        exact ⟨index, item, _, hitem, ⟨hother, rfl⟩, rfl⟩
  all_goals simp [checkPaths, flawed, complaints]

theorem explains_checkPaths (value : Data) : (checkPaths value).Explains := by
  cases value
  case list items => exact explains_items explains_checkPath
  all_goals exact explains_flawed .notList

theorem unknownKeys_eq_nil_iff :
    unknownKeys fields = [] ↔ ∀ field ∈ fields, field.1 = dumpsKey := by
  simp [unknownKeys]

theorem mem_unknownKeys_iff {complaint : Complaint} :
    complaint ∈ unknownKeys fields ↔
      ∃ name value, (name, value) ∈ fields ∧ name ≠ dumpsKey ∧
        complaint = ⟨[.field name], .unknownField⟩ := by
  simp only [unknownKeys, List.mem_map, List.mem_filter, bne_iff_ne, Prod.exists]
  constructor
  · rintro ⟨name, value, ⟨hmem, hname⟩, rfl⟩
    exact ⟨name, value, hmem, hname, rfl⟩
  · rintro ⟨name, value, hmem, hname, rfl⟩
    exact ⟨name, value, ⟨hmem, hname⟩, rfl⟩

def listedDumps (fields : List (String × Data)) : Checked (List Path) :=
  defaulted fields dumpsKey [] checkPaths

theorem listedDumps_of_field? {value : Data} (hvalue : Data.field? dumpsKey fields = some value) :
    listedDumps fields = under (.field dumpsKey) (checkPaths value) := by
  rw [listedDumps, defaulted, hvalue]

theorem listedDumps_of_none (hnone : Data.field? dumpsKey fields = none) :
    listedDumps fields = .ok [] := by
  rw [listedDumps, defaulted, hnone]

theorem listedDumps_eq_ok_iff {paths : List Path} :
    listedDumps fields = .ok paths ↔
      ∃ texts : List String, paths = texts.map .ofString ∧
        (Data.field? dumpsKey fields = none ∧ texts = [] ∨
          Data.field? dumpsKey fields = some (.list (texts.map .text))) := by
  cases hfield : Data.field? dumpsKey fields with
  | none =>
    rw [listedDumps_of_none hfield]
    constructor
    · rintro ⟨⟩
      exact ⟨[], rfl, .inl ⟨rfl, rfl⟩⟩
    · rintro ⟨texts, rfl, ⟨-, rfl⟩ | hsome⟩
      · rfl
      · cases hsome
  | some value =>
    rw [listedDumps_of_field? hfield, under_eq_ok_iff, checkPaths_eq_ok_iff]
    simp [and_comm]

theorem explains_listedDumps (fields : List (String × Data)) : (listedDumps fields).Explains := by
  cases hfield : Data.field? dumpsKey fields with
  | none =>
    rw [listedDumps_of_none hfield]
    exact fun _ => ⟨[], rfl⟩
  | some value =>
    rw [listedDumps_of_field? hfield]
    exact (explains_checkPaths value).under (.field dumpsKey)

theorem ofFields_eq_ok_iff_listed :
    ofFields fields = .ok settings ↔
      listedDumps fields = .ok settings.dumps ∧ unknownKeys fields = [] := by
  unfold ofFields
  split
  · next dumps hdumps hknown =>
    rw [listedDumps, hdumps, hknown]
    cases settings
    simp
  · next hboth =>
    constructor
    · exact nofun
    · rintro ⟨hdumps, hknown⟩
      exact absurd hknown (hboth settings.dumps hdumps)

/-- The complaints about the dumps come before those about unknown keys. -/
theorem complaints_ofFields (fields : List (String × Data)) :
    (ofFields fields).complaints = (listedDumps fields).complaints ++ unknownKeys fields := by
  unfold ofFields
  split
  · next dumps hdumps hknown =>
    rw [listedDumps, hdumps, hknown]
    rfl
  · rfl

/-- Settings are read from exactly the records that declare them. -/
theorem ofFields_eq_ok_iff :
    ofFields fields = .ok settings ↔
      ∃ texts, Declares fields texts ∧ settings = ⟨texts.map .ofString⟩ := by
  rw [ofFields_eq_ok_iff_listed, listedDumps_eq_ok_iff, unknownKeys_eq_nil_iff]
  obtain ⟨dumps⟩ := settings
  constructor
  · rintro ⟨⟨texts, rfl, hlisted⟩, hknown⟩
    exact ⟨texts, ⟨hknown, hlisted⟩, rfl⟩
  · rintro ⟨texts, hdeclares, ⟨⟩⟩
    exact ⟨⟨texts, rfl, hdeclares.listed⟩, hdeclares.known⟩

/-- A record is rejected with its flaws. -/
theorem mem_complaints_ofFields_iff {complaint : Complaint} :
    complaint ∈ (ofFields fields).complaints ↔ Flawed fields complaint := by
  rw [complaints_ofFields, List.mem_append, mem_unknownKeys_iff]
  constructor
  · rintro (hlisted | ⟨name, value, hmem, hname, rfl⟩)
    · cases hfield : Data.field? dumpsKey fields with
      | none =>
        rw [listedDumps_of_none hfield] at hlisted
        cases hlisted
      | some value =>
        rw [listedDumps_of_field? hfield, complaints_under, List.mem_map] at hlisted
        obtain ⟨inner, hinner, rfl⟩ := hlisted
        rcases mem_complaints_checkPaths_iff.1 hinner with
          ⟨hother, rfl⟩ | ⟨items, index, item, rfl, hitem, hother, rfl⟩
        · exact .notList hfield hother
        · exact .notPath hfield hitem hother
    · exact .unknownField hmem hname
  · intro hflawed
    cases hflawed with
    | notList hfield hother =>
      rw [listedDumps_of_field? hfield, complaints_under, List.mem_map]
      exact .inl ⟨_, mem_complaints_checkPaths_iff.2 (.inl ⟨hother, rfl⟩), rfl⟩
    | notPath hfield hitem hother =>
      rw [listedDumps_of_field? hfield, complaints_under, List.mem_map]
      exact .inl ⟨_, mem_complaints_checkPaths_iff.2
        (.inr ⟨_, _, _, rfl, hitem, hother, rfl⟩), rfl⟩
    | unknownField hmem hname => exact .inr ⟨_, _, hmem, hname, rfl⟩

theorem explains_ofFields (fields : List (String × Data)) : (ofFields fields).Explains := by
  intro hnone
  rw [complaints_ofFields, List.append_eq_nil_iff] at hnone
  obtain ⟨dumps, hdumps⟩ := explains_listedDumps fields hnone.1
  exact ⟨⟨dumps⟩, ofFields_eq_ok_iff_listed.2 ⟨hdumps, hnone.2⟩⟩

/-- A record that declares no settings is rejected. -/
theorem exists_ofFields_eq_error (hnone : ∀ texts, ¬ Declares fields texts) :
    ∃ complaints, ofFields fields = .error complaints ∧ complaints ≠ [] ∧
      ∀ complaint, complaint ∈ complaints ↔ Flawed fields complaint := by
  cases hfields : ofFields fields with
  | ok settings =>
    obtain ⟨texts, hdeclares, -⟩ := ofFields_eq_ok_iff.1 hfields
    exact absurd hdeclares (hnone texts)
  | error complaints =>
    refine ⟨complaints, rfl, (explains_ofFields fields).complaints_ne_nil hfields, ?_⟩
    intro complaint
    rw [← mem_complaints_ofFields_iff, hfields]
    rfl

/-! Loading -/

variable {tree : FileTree} {path : Path} {document : List (String × Data)}

theorem ofDocument_of_ok (hfields : ofFields (sectionFor path document) = .ok settings) :
    ofDocument path document = .ok (settings.resolved path.parent) := by
  rw [ofDocument, hfields]

theorem ofDocument_of_error {complaints : List Complaint}
    (hfields : ofFields (sectionFor path document) = .error complaints) :
    ofDocument path document = .error (.failed (.rejected path complaints)) := by
  rw [ofDocument, hfields]

/-- Resolved settings whose dumps are listed as texts. -/
theorem resolved_ofTexts (texts : List String) (base : Path) :
    (⟨texts.map .ofString⟩ : Settings).resolved base =
      ⟨texts.map fun text => base.join (.ofString text)⟩ := by
  simp [resolved, Function.comp_def]

theorem ofDocument_eq_ok_iff_resolved :
    ofDocument path document = .ok settings ↔
      ∃ listed, ofFields (sectionFor path document) = .ok listed ∧
        settings = listed.resolved path.parent := by
  cases hfields : ofFields (sectionFor path document) with
  | ok listed => simp [ofDocument_of_ok hfields, eq_comm]
  | error complaints => simp [ofDocument_of_error hfields]

/-- A document gives settings exactly if its section declares them; they are resolved then. -/
theorem ofDocument_eq_ok_iff :
    ofDocument path document = .ok settings ↔
      ∃ texts, Declares (sectionFor path document) texts ∧
        settings = ⟨texts.map fun text => path.parent.join (.ofString text)⟩ := by
  rw [ofDocument_eq_ok_iff_resolved]
  constructor
  · rintro ⟨listed, hfields, rfl⟩
    obtain ⟨texts, hdeclares, rfl⟩ := ofFields_eq_ok_iff.1 hfields
    exact ⟨texts, hdeclares, resolved_ofTexts texts path.parent⟩
  · rintro ⟨texts, hdeclares, rfl⟩
    exact ⟨⟨texts.map .ofString⟩, ofFields_eq_ok_iff.2 ⟨texts, hdeclares, rfl⟩,
      (resolved_ofTexts texts path.parent).symm⟩

theorem load_of_readDocument (hread : readDocument tree path = .ok document) :
    load tree path = ofDocument path document := by
  rw [load, hread, Except.ok_bind]

theorem readDocument_of_parse {text : String} (hplain : path.hasNul = false)
    (hbytes : tree.content path = .ok text.toByteArray) (hparse : Toml.parse text = .ok document) :
    readDocument tree path = .ok document := by
  rw [readDocument, FileTree.readText_of_toByteArray hplain hbytes, Except.mapError_ok,
    Except.ok_bind, hparse]

/-- Settings are loaded from exactly the files whose document declares them, with every path taken
from the directory of the file. -/
theorem load_eq_ok_iff :
    load tree path = .ok settings ↔
      ∃ document texts, readDocument tree path = .ok document ∧
        Declares (sectionFor path document) texts ∧
        settings = ⟨texts.map fun text => path.parent.join (.ofString text)⟩ := by
  cases hread : readDocument tree path with
  | ok document =>
    rw [load_of_readDocument hread, ofDocument_eq_ok_iff]
    simp
  | error halt =>
    rw [load, hread, Except.error_bind]
    simp

end Settings

end ServiceWiring
