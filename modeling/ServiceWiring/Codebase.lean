import ServiceWiring.Table
import ServiceWiring.Trail

/-!
The analysed code as far as its host answers questions about it: the values of class constants and
the parents of classes.
-/

namespace ServiceWiring

structure ClassConstant where
  owner : String
  name : String
  /-- The text that is its value, if the value is a text. -/
  text : Option String
deriving DecidableEq, Repr

structure Codebase where
  constants : List ClassConstant := []
  /-- The parent of each class that has one. -/
  parents : Table String := {}

namespace Codebase

/-- The text of a class constant; of several constants of one name the last one counts. -/
def textOf? (codebase : Codebase) (owner name : String) : Option String :=
  (codebase.constants.reverse.find? fun c => c.owner == owner && c.name == name).bind (·.text)

def descends (codebase : Codebase) (className ancestor : String) : Bool :=
  Trail.meets codebase.parents.get? ancestor codebase.parents.size className

end Codebase

end ServiceWiring
