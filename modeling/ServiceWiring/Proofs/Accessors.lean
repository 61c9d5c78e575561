import ServiceWiring.Accessor

/-!
Which methods are accessors of a container. A method identity is cut at its last `::`, and names an
accessor exactly if it is one of a container type, written out.
-/

namespace ServiceWiring.Accessor

theorem splitMethod?_cons_of_some {rest before after : List Char} (c : Char)
    (hrest : splitMethod? rest = some (before, after)) :
    splitMethod? (c :: rest) = some (c :: before, after) := by
  unfold splitMethod?
  rw [hrest]

/-- A mark at the front is split only where there is none behind it. -/
theorem splitMethod?_cons_of_none {c : Char} {rest before after : List Char}
    (hrest : splitMethod? rest = none) :
    splitMethod? (c :: rest) = some (before, after) ↔
      c = ':' ∧ rest = ':' :: after ∧ before = [] := by
  unfold splitMethod?
  rw [hrest]
  constructor
  · intro hsplit
    simp only at hsplit
    split at hsplit
    · cases hsplit
      exact ⟨rfl, rfl, rfl⟩
    · cases hsplit
  · rintro ⟨rfl, rfl, rfl⟩
    rfl

/-- There is nothing to split exactly if the mark does not occur. -/
theorem splitMethod?_eq_none_iff {text : List Char} :
    splitMethod? text = none ↔ ¬ [':', ':'] <:+: text := by
  induction text with
  | nil => simp [splitMethod?]
  | cons c rest ih =>
    rw [List.infix_cons_iff, not_or, ← ih]
    cases hrest : splitMethod? rest with
    | some parts => simp [splitMethod?_cons_of_some c hrest]
    | none =>
      rw [Option.eq_none_iff_forall_ne_some]
      simp only [Prod.forall, ne_eq, splitMethod?_cons_of_none hrest, and_true]
      constructor
      · rintro hnone ⟨after, hmark⟩
        cases hmark
        exact hnone [] after ⟨rfl, rfl, rfl⟩
      · rintro hnone before after ⟨rfl, rfl, -⟩
        exact hnone ⟨after, rfl⟩

/-- A text is split at its last mark: from its second colon on, the mark does not occur again. -/
theorem splitMethod?_eq_some_iff {text before after : List Char} :
    splitMethod? text = some (before, after) ↔
      text = before ++ ':' :: ':' :: after ∧ ¬ [':', ':'] <:+: ':' :: after := by
  induction text generalizing before with
  | nil => simp [splitMethod?]
  | cons c rest ih =>
    cases before with
    | nil =>
      rw [← splitMethod?_eq_none_iff, List.nil_append, List.cons.injEq]
      cases hrest : splitMethod? rest with
      | none =>
        rw [splitMethod?_cons_of_none hrest]
        constructor
        · rintro ⟨rfl, rfl, -⟩
          exact ⟨⟨rfl, rfl⟩, hrest⟩
        · rintro ⟨⟨rfl, rfl⟩, -⟩
          exact ⟨rfl, rfl, rfl⟩
      | some parts =>
        rw [splitMethod?_cons_of_some c hrest]
        constructor
        · intro hsplit
          cases hsplit
        · rintro ⟨⟨-, rfl⟩, hnone⟩
          rw [hnone] at hrest
          cases hrest
    | cons first before =>
      rw [List.cons_append, List.cons.injEq, and_assoc, ← ih]
      cases hrest : splitMethod? rest with
      | none => simp [splitMethod?_cons_of_none hrest]
      | some parts =>
        obtain ⟨head, tail⟩ := parts
        simp [splitMethod?_cons_of_some c hrest, and_assoc]

/-- A text is split at the mark that has no colon behind it. -/
theorem splitMethod?_append (before : List Char) {after : List Char} (hplain : ':' ∉ after) :
    splitMethod? (before ++ ':' :: ':' :: after) = some (before, after) := by
  refine splitMethod?_eq_some_iff.2 ⟨rfl, ?_⟩
  rw [List.infix_cons_iff, List.cons_prefix_cons]
  rintro (⟨-, hfirst⟩ | hlater)
  · exact hplain (hfirst.subset List.mem_cons_self)
  · exact hplain (hlater.subset List.mem_cons_self)

theorem colon_not_mem_method (accessor : Accessor) : ':' ∉ accessor.method.toList := by
  cases accessor <;> decide

theorem toList_methodId (accessor : Accessor) (typeName : String) :
    (accessor.methodId typeName).toList =
      typeName.toList ++ ':' :: ':' :: accessor.method.toList := by
  simp [methodId]

/-- An identity is split into the type and the method that it was written with. -/
theorem splitMethod?_toList_eq_iff {accessor : Accessor} {id typeName : String} :
    splitMethod? id.toList = some (typeName.toList, accessor.method.toList) ↔
      id = accessor.methodId typeName := by
  constructor
  · intro hsplit
    apply String.toList_injective
    rw [toList_methodId]
    exact (splitMethod?_eq_some_iff.1 hsplit).1
  · rintro rfl
    rw [toList_methodId]
    exact splitMethod?_append _ (colon_not_mem_method accessor)

theorem isAt_methodId (accessor : Accessor) (typeName : String) :
    accessor.isAt (accessor.methodId typeName) = isContainerType typeName := by
  simp [isAt, splitMethod?_toList_eq_iff.2 rfl]

theorem isContainerType_iff {typeName : String} :
    isContainerType typeName = true ↔ typeName ∈ containerTypes := List.contains_iff_mem

/-- A method is an accessor exactly if its identity is that of the accessor on a container type. -/
theorem isAt_iff {accessor : Accessor} {id : String} :
    accessor.isAt id = true ↔ ∃ typeName ∈ containerTypes, id = accessor.methodId typeName := by
  constructor
  · intro hat
    cases hsplit : splitMethod? id.toList with
    | none => simp [isAt, hsplit] at hat
    | some parts =>
      obtain ⟨before, after⟩ := parts
      simp only [isAt, hsplit, Bool.and_eq_true, beq_iff_eq] at hat
      obtain ⟨rfl, htype⟩ := hat
      refine ⟨String.ofList before, isContainerType_iff.1 htype, ?_⟩
      rw [← splitMethod?_toList_eq_iff, String.toList_ofList, hsplit]
  · rintro ⟨typeName, htype, rfl⟩
    rw [isAt_methodId]
    exact isContainerType_iff.2 htype

/-- No method is two accessors at once. -/
theorem eq_of_isAt {first second : Accessor} {id : String} (hfirst : first.isAt id = true)
    (hsecond : second.isAt id = true) : first = second := by
  unfold isAt at hfirst hsecond
  cases hsplit : splitMethod? id.toList with
  | none => simp [hsplit] at hfirst
  | some parts =>
    simp only [hsplit, Bool.and_eq_true, beq_iff_eq] at hfirst hsecond
    have hmethod : first.method.toList = second.method.toList := hfirst.1.symm.trans hsecond.1
    cases first <;> cases second <;> simp [method] at hmethod ⊢

/-- The listed identities are those that some accessor has on a container type. -/
theorem mem_methodIds_iff {id : String} :
    id ∈ methodIds ↔ ∃ accessor : Accessor, accessor.isAt id = true := by
  have hall (accessor : Accessor) : accessor ∈ all := by cases accessor <;> decide
  simp only [methodIds, List.mem_flatMap, List.mem_map, isAt_iff]
  constructor
  · rintro ⟨typeName, htype, accessor, -, rfl⟩
    exact ⟨accessor, typeName, htype, rfl⟩
  · rintro ⟨accessor, typeName, htype, rfl⟩
    exact ⟨typeName, htype, accessor, hall accessor, rfl⟩

/-- A method is recognised as an accessor exactly if it is written as a container type, the mark and
the method of the accessor. So both accessors together recognise the identities of all accessors on
all container types and nothing else, and no method is recognised as both. An identity is split at
the last mark in it, however many there are and however they overlap, and not at all if there is
none; the type in front of that mark is the one that a recognised identity is written with. -/
theorem recognised_exactly (id : String) :
    (∀ accessor : Accessor, accessor.isAt id = true ↔
      ∃ typeName, isContainerType typeName = true ∧ id = typeName ++ "::" ++ accessor.method) ∧
    (id ∈ methodIds ↔ ∃ accessor : Accessor, accessor.isAt id = true) ∧
    ¬ (isAt .service id = true ∧ isAt .parameter id = true) ∧
    (∀ before after, splitMethod? id.toList = some (before, after) ↔
      id.toList = before ++ "::".toList ++ after ∧ ¬ "::".toList <:+: ':' :: after) ∧
    (splitMethod? id.toList = none ↔ ¬ "::".toList <:+: id.toList) ∧
    ∀ (accessor : Accessor) typeName,
      accessor.isAt id = true ∧ id = typeName ++ "::" ++ accessor.method ↔
        isContainerType typeName = true ∧
          splitMethod? id.toList = some (typeName.toList, accessor.method.toList) := by
  refine ⟨?_, mem_methodIds_iff, ?_, ?_, splitMethod?_eq_none_iff, ?_⟩
  · intro accessor
    simp only [isAt_iff, isContainerType_iff, methodId]
  · rintro ⟨hservice, hparameter⟩
    cases eq_of_isAt hservice hparameter
  · intro before after
    rw [splitMethod?_eq_some_iff, List.append_assoc]
    rfl
  · intro accessor typeName
    rw [splitMethod?_toList_eq_iff, ← methodId, ← isAt_methodId accessor typeName]
    constructor
    · rintro ⟨hat, rfl⟩
      exact ⟨hat, rfl⟩
    · rintro ⟨hat, rfl⟩
      exact ⟨hat, rfl⟩

/-- Of three colons the last two are the mark. -/
example : splitMethod? "Container:::get".toList = some ("Container:".toList, "get".toList) := by
  decide

end ServiceWiring.Accessor
