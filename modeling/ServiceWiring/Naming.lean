/-!
Names of services and parameters. A name is written in lower case; a name with a backslash is a
class name and is not judged, and a parameter that reads an environment variable may hold capitals.
The engine and the command line share these rules.
-/

namespace ServiceWiring.Naming

def isCapital (c : Char) : Bool := 'A' ≤ c && c ≤ 'Z'

/-- No capital of the Latin alphabet occurs; capitals of other scripts are not looked for. -/
def isConventional (name : String) : Bool := !name.toList.any isCapital

/-- The start of a parameter that is read from the environment. -/
def environmentMark : String := "env("

def isConventionalParameter (name : String) : Bool :=
  environmentMark.toList.isPrefixOf name.toList || isConventional name

def isNamespaced (name : String) : Bool := name.toList.contains '\\'

def offends (name : String) : Bool := !isNamespaced name && !isConventional name

def offendsAsParameter (name : String) : Bool :=
  !isNamespaced name && !isConventionalParameter name

/-- A parameter may use every name that a service may use. -/
theorem offends_of_offendsAsParameter {name : String} (h : offendsAsParameter name = true) :
    offends name = true := by
  simp only [offendsAsParameter, isConventionalParameter, offends, Bool.and_eq_true,
    Bool.not_eq_true', Bool.or_eq_false_iff] at h ⊢
  exact ⟨h.1, h.2.2⟩

end ServiceWiring.Naming
