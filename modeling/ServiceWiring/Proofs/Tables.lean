import Mathlib.Data.List.Induction
import Mathlib.Data.List.Nodup
import ServiceWiring.Table

/-!
What a table holds, seen from its readers. The pairs, the keys and the values of a table are the
ones that reading it answers, and a table that was written pair by pair has its keys in the order of
their first pairs and answers with the last pair of each key.
-/

namespace ServiceWiring

variable {β γ : Type}

def lastValue? (pairs : List (String × β)) (key : String) : Option β :=
  pairs.reverse.lookup key

@[simp]
theorem lastValue?_nil (key : String) : lastValue? ([] : List (String × β)) key = none := rfl

/-- The last value is sought in the second list first. -/
theorem lastValue?_append (first second : List (String × β)) (key : String) :
    lastValue? (first ++ second) key = (lastValue? second key).or (lastValue? first key) := by
  simp [lastValue?, List.lookup_append]

theorem lastValue?_cons (pair : String × β) (rest : List (String × β)) (key : String) :
    lastValue? (pair :: rest) key =
      (lastValue? rest key).or (if key = pair.1 then some pair.2 else none) := by
  obtain ⟨k, v⟩ := pair
  have hsingle : lastValue? [(k, v)] key = if key = k then some v else none := by
    by_cases hsame : key = k
    · simp [lastValue?, hsame]
    · simp [lastValue?, hsame, List.lookup_cons, beq_eq_false_iff_ne.2 hsame]
  rw [← List.singleton_append, lastValue?_append, hsingle]

theorem lastValue?_map (f : β → γ) (pairs : List (String × β)) (key : String) :
    lastValue? (pairs.map fun pair => (pair.1, f pair.2)) key = (lastValue? pairs key).map f := by
  induction pairs with
  | nil => rfl
  | cons pair rest ih =>
    rw [List.map_cons, lastValue?_cons, lastValue?_cons, ih]
    by_cases hsame : key = pair.1 <;> cases lastValue? rest key <;> simp [hsame]

/-- A last value stands in the list, and no later pair has its key. -/
theorem lastValue?_eq_some_iff {pairs : List (String × β)} {key : String} {value : β} :
    lastValue? pairs key = some value ↔
      ∃ before after, pairs = before ++ (key, value) :: after ∧ key ∉ keysOf after := by
  simp only [lastValue?, List.lookup_eq_some_iff]
  constructor
  · rintro ⟨after, before, hsplit, hlast⟩
    refine ⟨before.reverse, after.reverse, ?_, ?_⟩
    · simpa using congrArg List.reverse hsplit
    · simp only [keysOf, List.map_reverse, List.mem_reverse, List.mem_map, not_exists, not_and]
      intro pair hmem hsame
      simpa [hsame] using hlast pair hmem
  · rintro ⟨before, after, rfl, hlast⟩
    refine ⟨after.reverse, before.reverse, by simp, ?_⟩
    intro pair hmem
    have hne : key ≠ pair.1 := fun hsame =>
      hlast (hsame ▸ List.mem_map_of_mem (f := (·.1)) (List.mem_reverse.1 hmem))
    simpa using hne

theorem lastValue?_eq_none_iff {pairs : List (String × β)} {key : String} :
    lastValue? pairs key = none ↔ key ∉ keysOf pairs := by
  simp only [lastValue?, List.lookup_eq_none_iff, List.mem_reverse, keysOf, List.mem_map]
  constructor
  · rintro hnone ⟨pair, hmem, rfl⟩
    simpa using hnone pair hmem
  · intro habsent pair hmem
    have hne : key ≠ pair.1 := fun hsame => habsent ⟨pair, hmem, hsame.symm⟩
    simpa using hne

theorem exists_lastValue?_iff {pairs : List (String × β)} {key : String} :
    (∃ value, lastValue? pairs key = some value) ↔ key ∈ keysOf pairs := by
  rw [← Option.ne_none_iff_exists', ne_eq, lastValue?_eq_none_iff, not_not]

/-- `kept` holds the different items of a list, each once, in the order of their first
occurrences. -/
structure FirstOccurrences (items kept : List String) : Prop where
  mem_iff : ∀ item, item ∈ kept ↔ item ∈ items
  ordered : kept.Pairwise fun earlier later => items.idxOf earlier < items.idxOf later

namespace FirstOccurrences

variable {items kept : List String}

theorem nil : FirstOccurrences [] [] := ⟨fun _ => Iff.rfl, .nil⟩

/-- One more item is kept, behind all others, unless it occurred before. -/
theorem concat (h : FirstOccurrences items kept) (item : String) :
    FirstOccurrences (items ++ [item]) (if item ∈ kept then kept else kept ++ [item]) := by
  have hplace {other : String} (hother : other ∈ kept) :
      (items ++ [item]).idxOf other = items.idxOf other :=
    List.idxOf_append_of_mem ((h.mem_iff other).1 hother)
  have hold : kept.Pairwise fun earlier later =>
      (items ++ [item]).idxOf earlier < (items ++ [item]).idxOf later := by
    refine h.ordered.imp_of_mem fun hearlier hlater hlt => ?_
    rwa [hplace hearlier, hplace hlater]
  by_cases hseen : item ∈ kept
  · rw [if_pos hseen]
    refine ⟨fun other => ?_, hold⟩
    rw [h.mem_iff, List.mem_append, List.mem_singleton]
    constructor
    · exact Or.inl
    · rintro (hother | rfl)
      · exact hother
      · exact (h.mem_iff other).1 hseen
  · rw [if_neg hseen]
    have hfresh : item ∉ items := fun hmem => hseen ((h.mem_iff item).2 hmem)
    refine ⟨fun other => ?_, ?_⟩
    · rw [List.mem_append, List.mem_append, h.mem_iff]
    · rw [List.pairwise_append]
      refine ⟨hold, List.pairwise_singleton _ _, ?_⟩
      intro earlier hearlier later hlater
      have hlt : items.idxOf earlier < items.length :=
        List.idxOf_lt_length_of_mem ((h.mem_iff earlier).1 hearlier)
      rw [List.mem_singleton.1 hlater, hplace hearlier, List.idxOf_append, if_neg hfresh]
      omega

theorem eraseDups (items : List String) : FirstOccurrences items items.eraseDups := by
  induction items using List.reverseRecOn with
  | nil => exact nil
  | append_singleton items item ih =>
    have hnext := ih.concat item
    rw [List.eraseDups_append]
    by_cases hseen : item ∈ items
    · simpa [hseen, List.removeAll] using hnext
    · simpa [hseen, List.removeAll, List.eraseDups_cons] using hnext

end FirstOccurrences

namespace Table

@[simp]
theorem get?_emptyCollection (key : String) : (∅ : Table β).get? key = none := rfl

/-- Keys occur once, so every pair of a table can be read back. -/
theorem mem_entries_iff (t : Table β) (key : String) (value : β) :
    (key, value) ∈ t.entries ↔ t.get? key = some value := by
  obtain ⟨pairs, hdistinct⟩ := t
  change (key, value) ∈ pairs ↔ pairs.lookup key = some value
  induction pairs with
  | nil => simp
  | cons pair rest ih =>
    obtain ⟨k, v⟩ := pair
    have hkeys : k ∉ keysOf rest ∧ (keysOf rest).Nodup := List.nodup_cons.1 hdistinct
    by_cases hsame : key = k
    · subst hsame
      have habsent : (key, value) ∉ rest := by
        intro hmem
        exact hkeys.1 (List.mem_map_of_mem (f := (·.1)) hmem)
      simp [habsent, eq_comm]
    · have htest : (key == k) = false := beq_eq_false_iff_ne.2 hsame
      simp [List.lookup_cons, htest, hsame, ih hkeys.2]

theorem mem_values_iff (t : Table β) (value : β) :
    value ∈ t.values ↔ ∃ key, t.get? key = some value := by
  simp only [values, List.mem_map]
  constructor
  · rintro ⟨⟨key, value⟩, hmem, rfl⟩
    exact ⟨key, (t.mem_entries_iff key value).1 hmem⟩
  · rintro ⟨key, hget⟩
    exact ⟨(key, value), (t.mem_entries_iff key value).2 hget, rfl⟩

theorem mem_keys_of_get? {t : Table β} {key : String} {value : β}
    (hget : t.get? key = some value) : key ∈ t.keys :=
  List.mem_map_of_mem (f := (·.1)) ((t.mem_entries_iff key value).2 hget)

theorem mem_keys_iff (t : Table β) (key : String) :
    key ∈ t.keys ↔ ∃ value, t.get? key = some value := by
  constructor
  · intro hmem
    obtain ⟨⟨key, value⟩, hpair, rfl⟩ := List.mem_map.1 hmem
    exact ⟨value, (t.mem_entries_iff key value).1 hpair⟩
  · rintro ⟨value, hget⟩
    exact mem_keys_of_get? hget

/-- Tables that read alike have the same keys. -/
theorem keys_perm_of_get? {first second : Table β}
    (hget : ∀ key, first.get? key = second.get? key) : first.keys.Perm second.keys := by
  refine (List.perm_ext_iff_of_nodup first.distinct second.distinct).2 fun key => ?_
  change key ∈ first.keys ↔ key ∈ second.keys
  rw [mem_keys_iff, mem_keys_iff, hget]

theorem mem_keys_put (t : Table β) (key : String) (value : β) (other : String) :
    other ∈ (t.put key value).keys ↔ other = key ∨ other ∈ t.keys := by
  rw [keys_put]
  split
  · next hmem =>
    constructor
    · exact Or.inr
    · rintro (rfl | hother)
      · exact hmem
      · exact hother
  · simp [or_comm]

theorem putPair_putPair (key : String) (first second : β) (pairs : List (String × β)) :
    putPair key second (putPair key first pairs) = putPair key second pairs := by
  induction pairs with
  | nil => simp [putPair]
  | cons pair rest ih =>
    obtain ⟨k, v⟩ := pair
    by_cases hsame : k = key
    · simp [putPair, hsame]
    · simp [putPair, hsame, ih]

/-- Of two values written under one key the second stays. -/
theorem put_put (t : Table β) (key : String) (first second : β) :
    (t.put key first).put key second = t.put key second := by
  simp only [put, mk.injEq]
  exact putPair_putPair key first second t.entries

theorem firstOccurrences_keys_foldl_put {items : List String} {t : Table β}
    (h : FirstOccurrences items t.keys) (pairs : List (String × β)) :
    FirstOccurrences (items ++ keysOf pairs)
      (pairs.foldl (fun t pair => t.put pair.1 pair.2) t).keys := by
  induction pairs generalizing items t with
  | nil => simpa [keysOf] using h
  | cons pair rest ih =>
    have hnext : FirstOccurrences (items ++ [pair.1]) (t.put pair.1 pair.2).keys := by
      rw [keys_put]
      exact h.concat pair.1
    have hsplit : items ++ keysOf (pair :: rest) = (items ++ [pair.1]) ++ keysOf rest := by
      simp [keysOf]
    rw [hsplit]
    exact ih hnext

/-- A table that is written pair by pair has its keys in the order of their first pairs. -/
theorem firstOccurrences_keys_ofList (pairs : List (String × β)) :
    FirstOccurrences (keysOf pairs) (ofList pairs).keys := by
  have hempty : FirstOccurrences [] (empty : Table β).keys := .nil
  exact firstOccurrences_keys_foldl_put hempty pairs

theorem entries_eq_filterMap_keys (t : Table β) :
    t.entries = t.keys.filterMap fun key => (t.get? key).map (key, ·) := by
  have hread : ∀ pair ∈ t.entries, some pair = (t.get? pair.1).map (pair.1, ·) := by
    intro pair hmem
    rw [(t.mem_entries_iff pair.1 pair.2).1 hmem]
    rfl
  calc
    t.entries = t.entries.filterMap some := List.filterMap_some.symm
    _ = t.entries.filterMap fun pair => (t.get? pair.1).map (pair.1, ·) :=
      List.filterMap_congr hread
    _ = t.keys.filterMap fun key => (t.get? key).map (key, ·) := by
      rw [keys, keysOf, List.filterMap_map]
      rfl

/-- A table is what its readers see: the order of its keys and the value of each. -/
theorem ext_of_keys {first second : Table β} (hkeys : first.keys = second.keys)
    (hget : ∀ key, first.get? key = second.get? key) : first = second := by
  have hentries : first.entries = second.entries := by
    rw [entries_eq_filterMap_keys, entries_eq_filterMap_keys, hkeys, funext hget]
  cases first
  cases second
  cases hentries
  rfl

theorem values_eq_filterMap_keys (t : Table β) : t.values = t.keys.filterMap t.get? := by
  rw [values, entries_eq_filterMap_keys, List.map_filterMap]
  simp [Function.comp_def]

/-- Writing a value where it stands already changes nothing. -/
theorem put_of_get? {t : Table β} {key : String} {value : β} (hget : t.get? key = some value) :
    t.put key value = t := by
  apply ext_of_keys
  · rw [keys_put, if_pos (mem_keys_of_get? hget)]
  · intro other
    rw [get?_put]
    split
    · next hsame => rw [hsame, hget]
    · rfl

@[simp]
theorem length_keys (t : Table β) : t.keys.length = t.size := by
  simp [keys, keysOf, size]

/-- Writing pairs into a table leaves its values where no pair has the key. -/
theorem get?_foldl_put (pairs : List (String × β)) (t : Table β) (key : String) :
    (pairs.foldl (fun t pair => t.put pair.1 pair.2) t).get? key =
      (lastValue? pairs key).or (t.get? key) := by
  induction pairs generalizing t with
  | nil => rfl
  | cons pair rest ih =>
    rw [List.foldl_cons, ih, get?_put, lastValue?_cons, Option.or_assoc]
    by_cases hsame : key = pair.1 <;> simp [hsame]

/-- A table has the last of the values that were written under a key. -/
theorem get?_ofList (pairs : List (String × β)) (key : String) :
    (ofList pairs).get? key = lastValue? pairs key := by
  simp [ofList, get?_foldl_put]

end Table

/-- Where no key occurs twice, it does not matter which of its pairs is the last. -/
theorem lastValue?_eq_some_iff_mem {pairs : List (String × β)} (hdistinct : (keysOf pairs).Nodup)
    {key : String} {value : β} : lastValue? pairs key = some value ↔ (key, value) ∈ pairs := by
  have hreverse : (keysOf pairs.reverse).Nodup := by
    simpa [keysOf, List.nodup_reverse] using hdistinct
  have hread := (⟨pairs.reverse, hreverse⟩ : Table β).mem_entries_iff key value
  rw [List.mem_reverse] at hread
  exact hread.symm

/-- Where no key comes twice the order does not matter. -/
theorem lastValue?_of_perm {first second : List (String × β)} (hperm : first.Perm second)
    (hdistinct : (keysOf first).Nodup) : lastValue? first = lastValue? second := by
  have hkeys : (keysOf first).Perm (keysOf second) := hperm.map _
  have hsecond : (keysOf second).Nodup := hkeys.nodup hdistinct
  funext key
  apply Option.ext
  intro value
  rw [lastValue?_eq_some_iff_mem hdistinct, lastValue?_eq_some_iff_mem hsecond, hperm.mem_iff]

/-- Where no key occurs twice, reading does not depend on the order of the pairs. -/
theorem lookup_of_perm {first second : List (String × β)} (hperm : first.Perm second)
    (hdistinct : (keysOf first).Nodup) (key : String) : first.lookup key = second.lookup key := by
  have hkeys : (keysOf first).Perm (keysOf second) := hperm.map _
  have hfirst := (⟨first, hdistinct⟩ : Table β).mem_entries_iff key
  have hsecond := (⟨second, hkeys.nodup hdistinct⟩ : Table β).mem_entries_iff key
  apply Option.ext
  intro value
  exact (hfirst value).symm.trans (hperm.mem_iff.trans (hsecond value))

theorem keysOf_filterMap_sublist {f : String × β → Option (String × γ)}
    (hkey : ∀ pair out, f pair = some out → out.1 = pair.1) (pairs : List (String × β)) :
    (keysOf (pairs.filterMap f)).Sublist (keysOf pairs) := by
  induction pairs with
  | nil => exact .slnil
  | cons pair rest ih =>
    cases hout : f pair with
    | none =>
      rw [List.filterMap_cons_none hout]
      exact ih.cons pair.1
    | some out =>
      have hsame : out.1 = pair.1 := hkey pair out hout
      rw [List.filterMap_cons_some hout]
      simpa [keysOf, hsame] using ih.cons_cons pair.1

end ServiceWiring
