import ServiceWiring.Diagnostic

/-!
The expressions of a call site, as far as the engine looks into them.
-/

namespace ServiceWiring

mutual

/-- An expression with the place where it is written, if that is known. -/
inductive Expression where
  /-- A string without interpolation. -/
  | literal (location : Option CodeLocation) (value : String)
  /-- A class name as written, and what the host resolves it to. -/
  | name (location : Option CodeLocation) (written : String) (resolved : Option String)
  /-- A plain word, such as the member of a class constant. -/
  | word (location : Option CodeLocation) (text : String)
  /-- Anything whose value is not known before the program runs. -/
  | dynamic (location : Option CodeLocation) (source : String)
  /-- A member of a class, `Owner::MEMBER`. -/
  | member (location : Option CodeLocation) (owner : Expression) (member : Expression)
  | call (location : Option CodeLocation) (method : String) (arguments : List Argument)

inductive Argument where
  /-- The mark of a call that is turned into a closure instead of being made. -/
  | placeholder
  /-- A value, spread over several parameters if `spread` is set; `label` names the parameter. -/
  | given (value : Expression) (spread : Bool) (label : Option String)

end

namespace Expression

def location? : Expression → Option CodeLocation
  | .literal location _ => location
  | .name location _ _ => location
  | .word location _ => location
  | .dynamic location _ => location
  | .member location _ _ => location
  | .call location _ _ => location

/-- The class that `Owner::member` belongs to, and the member's name, where both are written
out. -/
def memberOf? : Expression → Option (String × String)
  | .member _ (.name _ written resolved) (.word _ text) => some (resolved.getD written, text)
  | _ => none

end Expression

namespace Argument

def first? : List Argument → Option Expression
  | .given value false _ :: _ => some value
  | _ => none

end Argument

end ServiceWiring
