import ServiceWiring.Proofs.Diagnostics

/-!
How a service is written down does not matter to an engine with a registry. What it does about a
call depends on the identifier that the first argument denotes and on nothing else of how the call
is written.
-/

namespace ServiceWiring

/-- The argument is `self::MEMBER` for a member other than `class`. -/
def Expression.IsOwnConstant (argument : Expression) : Prop :=
  ∃ part, part ≠ "class" ∧ argument.memberOf? = some ("self", part)

def CallSite.rewritten (site : CallSite) (arguments : List Argument) (method : String) : CallSite :=
  { site with arguments := arguments, method := method }

namespace Identifier

variable {constants : String → String → Option String} {argument first second : Expression}

theorem ofExpression?_of_memberOf? {enclosing : Option String} {owner part : String}
    (hmember : argument.memberOf? = some (owner, part)) :
    ofExpression? constants enclosing argument =
      if part = "class" then some (.classReference owner)
      else (constantOwner? enclosing owner).bind fun className =>
        (constants className part).map (.constant className part) := by
  obtain ⟨place, here, there, written, resolved, rfl, rfl⟩ :=
    Expression.memberOf?_eq_some_iff.1 hmember
  unfold ofExpression?
  simp only [hmember, classMember, Option.map_eq_bind]
  rfl

/-- Inside a class, `self` is that class by name. -/
theorem ofExpression?_self (constants : String → String → Option String)
    {className part : String} (hpart : part ≠ "class")
    (hself : first.memberOf? = some ("self", part))
    (hnamed : second.memberOf? = some (className, part)) :
    ofExpression? constants (some className) first =
      ofExpression? constants (some className) second := by
  have howner : constantOwner? (some className) className = some className := by
    by_cases hsame : className = "self" <;> simp [constantOwner?, selfReference, hsame]
  rw [ofExpression?_of_memberOf? hself, ofExpression?_of_memberOf? hnamed, if_neg hpart,
    if_neg hpart, howner]
  rfl

theorem ofExpression?_of_not_isOwnConstant (constants : String → String → Option String)
    (hother : ¬ argument.IsOwnConstant) (enclosing otherEnclosing : Option String) :
    ofExpression? constants enclosing argument =
      ofExpression? constants otherEnclosing argument := by
  cases hmember : argument.memberOf? with
  | none =>
    unfold ofExpression?
    rw [hmember]
  | some parts =>
    obtain ⟨owner, part⟩ := parts
    rw [ofExpression?_of_memberOf? hmember, ofExpression?_of_memberOf? hmember]
    by_cases hpart : part = "class"
    · rw [if_pos hpart, if_pos hpart]
    · have howner : owner ≠ "self" := fun hself => hother ⟨part, hpart, hself ▸ hmember⟩
      simp [constantOwner?, selfReference, howner]

end Identifier

namespace Engine

open Identifier (Denotes)

/-- An engine takes from a call site no more than its inspection and what is suppressed there. -/
theorem respond_call_congr {engine : Engine} {codebase : Codebase} {site other : CallSite}
    {scene : Scene}
    (hinspect : engine.inspect codebase site scene.candidate =
      engine.inspect codebase other scene.candidate)
    (hsuppressed : site.suppressed = other.suppressed) :
    engine.respond codebase (.callAnalyzed site) scene =
      engine.respond codebase (.callAnalyzed other) scene := by
  have hadopt (place : CallSite) : engine.respond codebase (.callAnalyzed place) scene =
      scene.adopt (engine.inspect codebase place scene.candidate) place.suppressed := rfl
  rw [hadopt, hadopt, hinspect, hsuppressed]

variable {registry : Registry} {codebase : Codebase} {site : CallSite} {candidate : Option String}
  {first second : Expression}

/-- The findings are those for the service that the argument denotes, however the call is written.
-/
theorem inspect_rewritten {id : String} (hfetch : site.Fetches .service)
    (hdenotes : Denotes codebase site.enclosing first id) (label : Option String)
    (rest : List Argument) (method : String) :
    (ofRegistry registry).inspect codebase
        (site.rewritten (.given first false label :: rest) method) candidate =
      site.serviceFindings codebase candidate (site.locationOf first) id
        (registry.find? id site.selfClass) := by
  let other : CallSite := site.rewritten (.given first false label :: rest) method
  have hpasses : other.Passes first := ⟨label, rest, rfl⟩
  have hother : other.Fetches .service := hfetch
  exact inspect_of_denotes hother hpasses hdenotes candidate

theorem inspect_self {className part : String}
    (henclosing : site.enclosing = some className) (hpart : part ≠ "class")
    (hself : first.memberOf? = some ("self", part))
    (hnamed : second.memberOf? = some (className, part))
    (hlocation : first.location? = second.location?) (label : Option String)
    (rest : List Argument) (method : String) :
    (ofRegistry registry).inspect codebase
        (site.rewritten (.given first false label :: rest) method) candidate =
      (ofRegistry registry).inspect codebase
        (site.rewritten (.given second false label :: rest) method) candidate := by
  have hread := Identifier.ofExpression?_self codebase.textOf? hpart hself hnamed
  obtain ⟨place, here, there, written, resolved, rfl, -⟩ :=
    Expression.memberOf?_eq_some_iff.1 hself
  obtain ⟨otherPlace, otherHere, otherThere, otherWritten, otherResolved, rfl, -⟩ :=
    Expression.memberOf?_eq_some_iff.1 hnamed
  obtain rfl : place = otherPlace := hlocation
  simp only [inspect, CallSite.argument?, CallSite.rewritten, Argument.first?, henclosing, hread,
    CallSite.parameterIssues]
  rfl

theorem inspect_enclosing {engine : Engine} (enclosing : Option String)
    (hother : ∀ argument, site.Passes argument → ¬ argument.IsOwnConstant) :
    engine.inspect codebase { site with enclosing := enclosing } candidate =
      engine.inspect codebase site candidate := by
  have hsame : ({ site with enclosing := enclosing } : CallSite).argument? = site.argument? := rfl
  unfold inspect
  rw [hsame]
  cases hargument : site.argument? with
  | none => rfl
  | some argument =>
    have hread := Identifier.ofExpression?_of_not_isOwnConstant codebase.textOf?
      (hother argument (CallSite.argument?_eq_some_iff.1 hargument)) enclosing site.enclosing
    simp only [hread]
    rfl

/-- What an engine with a registry does about a call that fetches a service depends on the
identifier that the first argument denotes and on the place of that argument: calls that spell the
identifier in different ways, label it differently, go on with other arguments or write the method
differently end in the same scene. In particular `self::MEMBER` does as `Owner::MEMBER` for the
class that the call stands in, whatever that constant is, and no other argument has that class
looked at. -/
theorem spelling_is_immaterial (registry : Registry) (codebase : Codebase) (site : CallSite)
    (scene : Scene) :
    let outcome (site : CallSite) :=
      (ofRegistry registry).respond codebase (.callAnalyzed site) scene
    (∀ first second id label otherLabel rest otherRest method otherMethod,
      site.Fetches .service → first.location? = second.location? →
      Denotes codebase site.enclosing first id → Denotes codebase site.enclosing second id →
      outcome (site.rewritten (.given first false label :: rest) method) =
        outcome (site.rewritten (.given second false otherLabel :: otherRest) otherMethod)) ∧
    (∀ first second className part label rest method, site.enclosing = some className →
      part ≠ "class" → first.memberOf? = some ("self", part) →
      second.memberOf? = some (className, part) → first.location? = second.location? →
      outcome (site.rewritten (.given first false label :: rest) method) =
        outcome (site.rewritten (.given second false label :: rest) method)) ∧
    (∀ value spread label otherLabel rest otherRest method otherMethod,
      outcome (site.rewritten (.given value spread label :: rest) method) =
        outcome (site.rewritten (.given value spread otherLabel :: otherRest) otherMethod)) ∧
    ∀ enclosing, (∀ argument, site.Passes argument → ¬ argument.IsOwnConstant) →
      outcome { site with enclosing := enclosing } = outcome site := by
  intro outcome
  refine ⟨?_, ?_, ?_, ?_⟩
  · intro first second id label otherLabel rest otherRest method otherMethod hfetch hlocation
      hfirst hsecond
    refine respond_call_congr ?_ rfl
    have hplace : site.locationOf first = site.locationOf second := by
      unfold CallSite.locationOf
      rw [hlocation]
    rw [inspect_rewritten hfetch hfirst, inspect_rewritten hfetch hsecond, hplace]
  · intro first second className part label rest method henclosing hpart hself hnamed hlocation
    refine respond_call_congr ?_ rfl
    exact inspect_self henclosing hpart hself hnamed hlocation label rest method
  · intro value spread label otherLabel rest otherRest method otherMethod
    refine respond_call_congr ?_ rfl
    cases spread <;> rfl
  · intro enclosing hother
    refine respond_call_congr ?_ rfl
    exact inspect_enclosing enclosing hother

/-- An identifier in full, and the same one in a constant of the class in which the call stands. -/
theorem spellings_of_mailer :
    let codebase : Codebase := { constants := [⟨"Home", "MAILER", some "app.Mailer"⟩] }
    let site : CallSite :=
      { methodId := "Psr\\Container\\ContainerInterface::get"
        arguments := []
        enclosing := some "Home"
        file := "a.php" }
    let outcome (arguments : List Argument) (method : String) :=
      (ofRegistry ⟨fun id _ => some ⟨id, some "Mailer", .internal⟩, []⟩).respond codebase
        (.callAnalyzed (site.rewritten arguments method)) ⟨{}, {}, none⟩
    outcome [.given (.literal none "app.Mailer") false (some "id")] "get" =
        outcome [.given (.member none (.name none "self" none) (.word none "MAILER")) false none,
          .placeholder] "GET" ∧
      outcome [.given (.member none (.name none "self" none) (.word none "TYPE")) false none] "get" =
        outcome [.given (.member none (.name none "Home" none) (.word none "TYPE")) false none]
          "get" := by
  intro codebase site outcome
  obtain ⟨hdenoted, hself, -⟩ := spelling_is_immaterial
    ⟨fun id _ => some ⟨id, some "Mailer", .internal⟩, []⟩ codebase site ⟨{}, {}, none⟩
  have hfetch : site.Fetches .service :=
    ⟨"Psr\\Container\\ContainerInterface", by decide, by decide +kernel⟩
  constructor
  · exact hdenoted _ _ "app.Mailer" _ _ _ _ _ _ hfetch rfl .literal
      (.ownConstant (by decide) rfl rfl (by decide +kernel))
  · exact hself _ _ "Home" "TYPE" _ _ _ rfl (by decide) rfl rfl rfl

end Engine

end ServiceWiring
