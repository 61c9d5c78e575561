import ServiceWiring.Engine.Inspection
import ServiceWiring.Proofs.Accessors
import ServiceWiring.Proofs.Trails

/-!
What a call site says, read off its form: which accessor is called, what the argument denotes, how
a name is spelt and whether the call stands in a test. Each of these readings is what the engine
computes for the site.
-/

namespace ServiceWiring

namespace Naming

/-- The name has a capital of the Latin alphabet, and is no class name. -/
def Misspelt (name : String) : Prop :=
  '\\' ∉ name.toList ∧ ∃ c ∈ name.toList, 'A' ≤ c ∧ c ≤ 'Z'

theorem isConventional_eq_false_iff {name : String} :
    isConventional name = false ↔ ∃ c ∈ name.toList, 'A' ≤ c ∧ c ≤ 'Z' := by
  simp [isConventional, isCapital]

theorem isNamespaced_eq_false_iff {name : String} :
    isNamespaced name = false ↔ '\\' ∉ name.toList := by
  simp [isNamespaced]

theorem offends_iff {name : String} : offends name = true ↔ Misspelt name := by
  unfold offends Misspelt
  rw [Bool.and_eq_true, Bool.not_eq_true', Bool.not_eq_true', isNamespaced_eq_false_iff,
    isConventional_eq_false_iff]

/-- A parameter is reported like a service, unless it is read from the environment. -/
theorem offendsAsParameter_iff {name : String} :
    offendsAsParameter name = true ↔ Misspelt name ∧ ¬ "env(".toList <+: name.toList := by
  unfold offendsAsParameter isConventionalParameter Misspelt
  rw [Bool.and_eq_true, Bool.not_eq_true', Bool.not_eq_true', Bool.or_eq_false_iff,
    isNamespaced_eq_false_iff, isConventional_eq_false_iff, ← Bool.not_eq_true,
    List.isPrefixOf_iff_prefix, environmentMark]
  tauto

instance (name : String) : Decidable (Misspelt name) := decidable_of_iff _ offends_iff

end Naming

namespace Expression

theorem memberOf?_eq_some_iff {argument : Expression} {owner part : String} :
    argument.memberOf? = some (owner, part) ↔
      ∃ place here there written resolved,
        argument = .member place (.name here written resolved) (.word there part) ∧
          resolved.getD written = owner := by
  constructor
  · intro hread
    unfold memberOf? at hread
    split at hread
    · next place here written resolved there text =>
      simp only [Option.some.injEq, Prod.mk.injEq] at hread
      obtain ⟨howner, rfl⟩ := hread
      exact ⟨place, here, there, written, resolved, rfl, howner⟩
    · cases hread
  · rintro ⟨place, here, there, written, resolved, rfl, rfl⟩
    rfl

/-- The argument is `Owner::class` for a class that is named and not only referred to from
inside. -/
def NamesClass (argument : Expression) (className : String) : Prop :=
  ∃ place here there written resolved,
    argument = .member place (.name here written resolved) (.word there "class") ∧
      resolved.getD written = className ∧ className ∉ ["self", "parent", "static"]

theorem namedClass?_eq_some_iff {argument : Expression} {className : String} :
    argument.namedClass? = some className ↔ argument.NamesClass className := by
  unfold namedClass? NamesClass
  constructor
  · intro hnamed
    cases hread : argument.memberOf? with
    | none => simp [hread] at hnamed
    | some parts =>
      obtain ⟨owner, part⟩ := parts
      obtain ⟨place, here, there, written, resolved, rfl, howner⟩ := memberOf?_eq_some_iff.1 hread
      simp only [hread, Option.ite_none_right_eq_some, Bool.and_eq_true, decide_eq_true_eq,
        Option.some.injEq] at hnamed
      obtain ⟨⟨rfl, hproper⟩, rfl⟩ := hnamed
      refine ⟨place, here, there, written, resolved, rfl, howner, ?_⟩
      simpa [relativeClasses] using hproper
  · rintro ⟨place, here, there, written, resolved, rfl, howner, hproper⟩
    have hread : (member place (.name here written resolved) (.word there "class")).memberOf? =
        some (className, "class") :=
      memberOf?_eq_some_iff.2 ⟨place, here, there, written, resolved, rfl, howner⟩
    rw [hread]
    simp only [Identifier.classMember, relativeClasses]
    simpa using hproper

end Expression

namespace Identifier

/-- What an argument denotes inside the class `enclosing`: a literal itself, `Owner::class` the
class as the host resolves it, and any other member the text of that constant. Only for constants
does `self` stand for the enclosing class. -/
inductive Denotes (codebase : Codebase) (enclosing : Option String) : Expression → String → Prop
  | literal {place : Option CodeLocation} {id : String} :
      Denotes codebase enclosing (.literal place id) id
  | classReference {place here there : Option CodeLocation} {written : String}
      {resolved : Option String} :
      Denotes codebase enclosing (.member place (.name here written resolved) (.word there "class"))
        (resolved.getD written)
  | constant {place here there : Option CodeLocation} {written part id : String}
      {resolved : Option String} : part ≠ "class" → resolved.getD written ≠ "self" →
      codebase.textOf? (resolved.getD written) part = some id →
      Denotes codebase enclosing (.member place (.name here written resolved) (.word there part)) id
  | ownConstant {place here there : Option CodeLocation} {written part id className : String}
      {resolved : Option String} : part ≠ "class" → resolved.getD written = "self" →
      enclosing = some className → codebase.textOf? className part = some id →
      Denotes codebase enclosing (.member place (.name here written resolved) (.word there part)) id

theorem constantOwner?_eq_some_iff {enclosing : Option String} {owner className : String} :
    constantOwner? enclosing owner = some className ↔
      owner ≠ "self" ∧ owner = className ∨ owner = "self" ∧ enclosing = some className := by
  by_cases hself : owner = "self" <;> simp [constantOwner?, selfReference, hself]

/-- An argument is taken for a literal, for the name of a class, or for a constant whose text is
known. -/
theorem ofExpression?_eq_some_iff {constants : String → String → Option String}
    {enclosing : Option String} {argument : Expression} {identifier : Identifier} :
    ofExpression? constants enclosing argument = some identifier ↔
      (∃ place id, argument = .literal place id ∧ identifier = .literal id) ∨
      ∃ owner part, argument.memberOf? = some (owner, part) ∧
        (part = "class" ∧ identifier = .classReference owner ∨
          part ≠ "class" ∧ ∃ className id, constantOwner? enclosing owner = some className ∧
            constants className part = some id ∧ identifier = .constant className part id) := by
  unfold ofExpression?
  split
  · next place id =>
    simp [Expression.memberOf?, eq_comm]
  · next hother =>
    have hliteral : ∀ place id, argument ≠ .literal place id := fun place id h => hother place id h
    cases hmember : argument.memberOf? with
    | none => simp [hliteral]
    | some parts =>
      obtain ⟨owner, part⟩ := parts
      by_cases hclass : part = "class"
      · simp [hliteral, hclass, classMember, eq_comm]
      · simp [hliteral, hclass, classMember, Option.bind_eq_some_iff, @eq_comm _ identifier]

/-- The identifier that is read off an argument has the value that the argument denotes. -/
theorem exists_ofExpression?_iff {codebase : Codebase} {enclosing : Option String}
    {argument : Expression} {id : String} :
    (∃ identifier, ofExpression? codebase.textOf? enclosing argument = some identifier ∧
      identifier.value = id) ↔ Denotes codebase enclosing argument id := by
  simp only [ofExpression?_eq_some_iff, Expression.memberOf?_eq_some_iff,
    constantOwner?_eq_some_iff]
  -- each form of an identifier is one rule, except that constants have two kinds of owners
  constructor
  · rintro ⟨identifier, hform, rfl⟩
    rcases hform with ⟨place, id, rfl, rfl⟩ | ⟨owner, part, hmember, hrest⟩
    · exact .literal
    · obtain ⟨place, here, there, written, resolved, rfl, rfl⟩ := hmember
      rcases hrest with ⟨rfl, rfl⟩ | ⟨hpart, className, id, hclass, htext, rfl⟩
      · exact .classReference
      · rcases hclass with ⟨hnamed, rfl⟩ | ⟨hself, henclosing⟩
        · exact .constant hpart hnamed htext
        · exact .ownConstant hpart hself henclosing htext
  · intro hdenotes
    cases hdenotes with
    | literal => exact ⟨.literal id, .inl ⟨_, _, rfl, rfl⟩, rfl⟩
    | classReference =>
      exact ⟨.classReference _, .inr ⟨_, _, ⟨_, _, _, _, _, rfl, rfl⟩, .inl ⟨rfl, rfl⟩⟩, rfl⟩
    | constant hpart hnamed htext =>
      exact ⟨.constant _ _ id, .inr ⟨_, _, ⟨_, _, _, _, _, rfl, rfl⟩,
        .inr ⟨hpart, _, id, .inl ⟨hnamed, rfl⟩, htext, rfl⟩⟩, rfl⟩
    | ownConstant hpart hself henclosing htext =>
      exact ⟨.constant _ _ id, .inr ⟨_, _, ⟨_, _, _, _, _, rfl, rfl⟩,
        .inr ⟨hpart, _, id, .inr ⟨hself, henclosing⟩, htext, rfl⟩⟩, rfl⟩

end Identifier

namespace CallSite

def Fetches (site : CallSite) (accessor : Accessor) : Prop :=
  ∃ typeName ∈ containerTypes, site.methodId = accessor.methodId typeName

theorem isAt_methodId_iff {site : CallSite} {accessor : Accessor} :
    accessor.isAt site.methodId = true ↔ site.Fetches accessor := Accessor.isAt_iff

/-- The first argument is a single value; it may have a label, and others may follow. -/
def Passes (site : CallSite) (argument : Expression) : Prop :=
  ∃ label rest, site.arguments = .given argument false label :: rest

theorem argument?_eq_some_iff {site : CallSite} {argument : Expression} :
    site.argument? = some argument ↔ site.Passes argument := by
  unfold argument? Passes
  constructor
  · intro hfirst
    unfold Argument.first? at hfirst
    split at hfirst
    · next value label rest harguments =>
      cases hfirst
      exact ⟨label, rest, harguments⟩
    · cases hfirst
  · rintro ⟨label, rest, harguments⟩
    rw [harguments]
    rfl

def StandsInTest (site : CallSite) (codebase : Codebase) : Prop :=
  ∃ parent steps, site.parentClass = some parent ∧
    Trail.keyAt? codebase.parents.get? parent steps = some testBase

theorem isInTest_iff {site : CallSite} {codebase : Codebase} :
    site.isInTest codebase = true ↔ site.StandsInTest codebase := by
  unfold isInTest StandsInTest Codebase.descends
  cases hparent : site.parentClass with
  | none => simp
  | some parent => simp [Trail.meets_size_iff]

instance (site : CallSite) (codebase : Codebase) : Decidable (site.StandsInTest codebase) :=
  decidable_of_iff _ isInTest_iff

end CallSite

end ServiceWiring
