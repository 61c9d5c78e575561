/-!
Tables: finite maps from text keys to values that keep the order in which the keys first appeared.
Writing a key that is present replaces its value and leaves its place. The statements here say
what writing does to the keys and to reading.
-/

namespace ServiceWiring

def keysOf {β : Type} (pairs : List (String × β)) : List String := pairs.map (·.1)

/-- Replaces the value of `key` where it stands, or appends the pair. -/
def putPair {β : Type} (key : String) (value : β) : List (String × β) → List (String × β)
  | [] => [(key, value)]
  | (k, v) :: rest => if k = key then (key, value) :: rest else (k, v) :: putPair key value rest

theorem keysOf_putPair {β : Type} (key : String) (value : β) (pairs : List (String × β)) :
    keysOf (putPair key value pairs) =
      if key ∈ keysOf pairs then keysOf pairs else keysOf pairs ++ [key] := by
  induction pairs with
  | nil => simp [keysOf, putPair]
  | cons pair rest ih =>
    obtain ⟨k, v⟩ := pair
    by_cases same : k = key
    · simp [putPair, keysOf, same]
    · have other : ¬ key = k := fun h => same h.symm
      have step : keysOf (putPair key value ((k, v) :: rest)) =
          k :: keysOf (putPair key value rest) := by simp [putPair, same, keysOf]
      have tail : keysOf ((k, v) :: rest) = k :: keysOf rest := rfl
      rw [step, ih, tail]
      by_cases present : key ∈ keysOf rest <;> simp [present, other]

/-- A map from text keys to values that remembers the order of first appearance. -/
structure Table (β : Type) where
  entries : List (String × β)
  distinct : (keysOf entries).Nodup

namespace Table

variable {β γ : Type}

def empty : Table β := ⟨[], List.Pairwise.nil⟩

instance : EmptyCollection (Table β) := ⟨empty⟩
instance : Inhabited (Table β) := ⟨empty⟩

def keys (t : Table β) : List String := keysOf t.entries

def values (t : Table β) : List β := t.entries.map (·.2)

def isEmpty (t : Table β) : Bool := t.entries.isEmpty

def get? (t : Table β) (key : String) : Option β := t.entries.lookup key

def contains (t : Table β) (key : String) : Bool := (t.get? key).isSome

def size (t : Table β) : Nat := t.entries.length

/-- Gives `key` the value `value`; a key that is present keeps its place. -/
def put (t : Table β) (key : String) (value : β) : Table β where
  entries := putPair key value t.entries
  distinct := by
    rw [keysOf_putPair]
    split
    · exact t.distinct
    · next absent =>
      refine List.nodup_append.2 ⟨t.distinct, by simp, ?_⟩
      intro a ha b hb same
      simp only [List.mem_singleton] at hb
      exact absent (by rw [← hb, ← same]; exact ha)

def ofList (pairs : List (String × β)) : Table β :=
  pairs.foldl (fun t pair => t.put pair.1 pair.2) empty

private theorem keysOf_map (f : β → γ) (pairs : List (String × β)) :
    keysOf (pairs.map fun pair => (pair.1, f pair.2)) = keysOf pairs := by
  simp [keysOf, Function.comp_def]

def map (f : β → γ) (t : Table β) : Table γ where
  entries := t.entries.map fun pair => (pair.1, f pair.2)
  distinct := by rw [keysOf_map]; exact t.distinct

/-- The pairs in the order of their keys by code point. -/
def sorted (t : Table β) : List (String × β) := t.entries.mergeSort fun a b => a.1 ≤ b.1

@[simp]
theorem keys_put (t : Table β) (key : String) (value : β) :
    (t.put key value).keys = if key ∈ t.keys then t.keys else t.keys ++ [key] :=
  keysOf_putPair key value t.entries

private theorem lookup_putPair (key : String) (value : β) (pairs : List (String × β))
    (other : String) :
    (putPair key value pairs).lookup other =
      if other = key then some value else pairs.lookup other := by
  induction pairs with
  | nil =>
    by_cases same : other = key
    · simp [putPair, same]
    · simp [putPair, same, List.lookup_cons, beq_eq_false_iff_ne.2 same]
  | cons pair rest ih =>
    obtain ⟨k, v⟩ := pair
    by_cases here : k = key
    · subst here
      by_cases same : other = k
      · simp [putPair, same]
      · simp [putPair, same, List.lookup_cons, beq_eq_false_iff_ne.2 same]
    · by_cases same : other = k
      · subst same
        simp [putPair, here]
      · simp [putPair, here, List.lookup_cons, beq_eq_false_iff_ne.2 same, ih]

@[simp]
theorem get?_empty (key : String) : (empty : Table β).get? key = none := rfl

/-- Reading after writing: the written key has the new value, every other key its old one. -/
@[simp]
theorem get?_put (t : Table β) (key : String) (value : β) (other : String) :
    (t.put key value).get? other = if other = key then some value else t.get? other :=
  lookup_putPair key value t.entries other

@[simp]
theorem get?_map (f : β → γ) (t : Table β) (key : String) :
    (t.map f).get? key = (t.get? key).map f := by
  obtain ⟨pairs, _⟩ := t
  simp only [map, get?]
  induction pairs with
  | nil => rfl
  | cons pair rest ih =>
    obtain ⟨k, v⟩ := pair
    by_cases same : key = k
    · simp [same]
    · simpa [List.lookup_cons, beq_eq_false_iff_ne.2 same] using ih (by simp_all [keysOf])

end Table

end ServiceWiring
