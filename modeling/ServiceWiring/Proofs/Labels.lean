import ServiceWiring.Diagnostic
import ServiceWiring.Event

/-!
Labels of closed lists. The members of such a list have labels of their own, so each is read back
from its label and a text that is no label is not read at all.
-/

namespace ServiceWiring

/-- Where labels tell the items apart, a text is read as the item that has it as its label. -/
theorem find?_label_eq_some_iff {α : Type} {items : List α} {label : α → String}
    (hall : ∀ item, item ∈ items)
    (hlabels : ∀ first ∈ items, ∀ second ∈ items, label first = label second → first = second)
    {text : String} {item : α} :
    items.find? (label · == text) = some item ↔ label item = text := by
  constructor
  · intro hfind
    simpa using List.find?_some hfind
  · rintro rfl
    cases hfind : items.find? (label · == label item) with
    | none =>
      have hnone := List.find?_eq_none.1 hfind item (hall item)
      simp at hnone
    | some found =>
      have hsame : label found = label item := by simpa using List.find?_some hfind
      rw [hlabels found (hall found) item (hall item) hsame]

theorem injective_of_read {α : Type} {ofLabel? : String → Option α} {label : α → String}
    (hread : ∀ text item, ofLabel? text = some item ↔ label item = text) :
    Function.Injective label := by
  intro first second hlabel
  rw [← hread, (hread _ second).2 rfl, Option.some_inj] at hlabel
  exact hlabel.symm

theorem EventKind.ofLabel?_eq_some_iff {text : String} {kind : EventKind} :
    ofLabel? text = some kind ↔ kind.label = text := by
  apply find?_label_eq_some_iff
  · intro kind
    cases kind <;> decide
  · decide

theorem Verdict.ofLabel?_eq_some_iff {text : String} {verdict : Verdict} :
    ofLabel? text = some verdict ↔ verdict.label = text := by
  apply find?_label_eq_some_iff
  · intro verdict
    cases verdict <;> decide
  · decide

theorem IssueKind.ofLabel?_eq_some_iff {text : String} {kind : IssueKind} :
    ofLabel? text = some kind ↔ kind.label = text := by
  apply find?_label_eq_some_iff
  · intro kind
    cases kind <;> decide
  · decide

theorem IssueKind.label_injective : Function.Injective label :=
  injective_of_read fun _ _ => ofLabel?_eq_some_iff

theorem Severity.ofLabel?_eq_some_iff {text : String} {severity : Severity} :
    ofLabel? text = some severity ↔ severity.label = text := by
  apply find?_label_eq_some_iff
  · intro severity
    cases severity <;> decide
  · decide

theorem Severity.label_injective : Function.Injective label :=
  injective_of_read fun _ _ => ofLabel?_eq_some_iff

end ServiceWiring
