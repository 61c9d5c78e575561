import ServiceWiring.Binary64

/-!
Data as configuration files and reports hold it. The keys of a record keep the order in which they
were written.
-/

namespace ServiceWiring

inductive Data where
  | null
  | boolean (value : Bool)
  | integer (value : Int)
  | real (value : Binary64)
  | text (value : String)
  /-- A date, a time of day or both. -/
  | moment
  | list (items : List Data)
  | record (fields : List (String × Data))

namespace Data

def text? : Data → Option String
  | .text value => some value
  | _ => none

def fields? : Data → Option (List (String × Data))
  | .record fields => some fields
  | _ => none

def field? (name : String) (fields : List (String × Data)) : Option Data := fields.lookup name

/-! Equality. It cannot be derived, as data nests in lists of pairs. -/

mutual

def same : Data → Data → Bool
  | .null, .null | .moment, .moment => true
  | .boolean value, .boolean other => value == other
  | .integer value, .integer other => value == other
  | .real value, .real other => value == other
  | .text value, .text other => value == other
  | .list items, .list others => sameItems items others
  | .record fields, .record others => sameFields fields others
  | _, _ => false

def sameItems : List Data → List Data → Bool
  | [], [] => true
  | item :: items, other :: others => item.same other && sameItems items others
  | _, _ => false

def sameFields : List (String × Data) → List (String × Data) → Bool
  | [], [] => true
  | (name, value) :: fields, (other, otherValue) :: others =>
    name == other && value.same otherValue && sameFields fields others
  | _, _ => false

end

mutual

theorem same_iff : (data other : Data) → (data.same other = true ↔ data = other)
  | .list items, other => by
    have ih := sameItems_iff items
    cases other <;> simp [same, ih]
  | .record fields, other => by
    have ih := sameFields_iff fields
    cases other <;> simp [same, ih]
  | .null, other | .boolean _, other | .integer _, other | .real _, other | .text _, other
  | .moment, other => by cases other <;> simp [same]

theorem sameItems_iff :
    (items others : List Data) → (sameItems items others = true ↔ items = others)
  | [], others => by cases others <;> simp [sameItems]
  | _ :: _, [] => by simp [sameItems]
  | item :: items, other :: others => by
    simp [sameItems, same_iff item other, sameItems_iff items others]

theorem sameFields_iff :
    (fields others : List (String × Data)) → (sameFields fields others = true ↔ fields = others)
  | [], others => by cases others <;> simp [sameFields]
  | _ :: _, [] => by simp [sameFields]
  | (name, value) :: fields, (other, otherValue) :: others => by
    simp [sameFields, same_iff value otherValue, sameFields_iff fields others]

end

instance : DecidableEq Data := fun data other => decidable_of_iff _ (same_iff data other)

end Data

end ServiceWiring
