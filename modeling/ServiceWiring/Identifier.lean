import ServiceWiring.Expression

/-!
Service identifiers that can be read off a call site before the program runs.
-/

namespace ServiceWiring

/-- An identifier with the way in which it is written. -/
inductive Identifier where
  | literal (value : String)
  /-- `Owner::class`. -/
  | classReference (className : String)
  /-- `Owner::CONSTANT`, with the text that the constant has. -/
  | constant (className constant value : String)
deriving DecidableEq, Repr

namespace Identifier

def value : Identifier → String
  | .literal value => value
  | .classReference className => className
  | .constant _ _ value => value

/-- The member that stands for the name of its class. -/
def classMember : String := "class"

def selfReference : String := "self"

/-- The class that a constant of `owner` is looked up in: inside a class, `self` is that class. -/
def constantOwner? (enclosing : Option String) (owner : String) : Option String :=
  if owner = selfReference then enclosing else some owner

/-- The identifier that an argument denotes in the class `enclosing`, given the text of each class
constant that has one. The class of `Owner::class` is taken as the host resolves it, `self`
included; only for constants does `self` mean the enclosing class. -/
def ofExpression? (constants : String → String → Option String) (enclosing : Option String)
    (argument : Expression) : Option Identifier :=
  match argument with
  | .literal _ value => some (.literal value)
  | _ =>
    match argument.memberOf? with
    | none => none
    | some (owner, member) =>
      if member = classMember then some (.classReference owner)
      else do
        let className ← constantOwner? enclosing owner
        let value ← constants className member
        return .constant className member value

end Identifier

end ServiceWiring
