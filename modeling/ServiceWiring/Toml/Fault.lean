/-!
What can be wrong with the text of a TOML document.
-/

namespace ServiceWiring.Toml

inductive Fault where
  | invalidStatement
  | invalidKey
  | invalidValue
  | invalidMoment
  | invalidEscape
  | illegalCharacter
  | unterminated
  | repeatedKey
  | closedTable
  /-- A decimal integer has this many digits, more than are read. -/
  | oversizedInteger (digits : Nat)
deriving DecidableEq, Repr

end ServiceWiring.Toml
