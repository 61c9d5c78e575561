import ServiceWiring.SystemFailure

/-!
How an operation ends that gives no value. Most operations fail in ways of their own, which they
report; some input ends them before they can say anything about it.
-/

namespace ServiceWiring

/-- What ends an operation from outside, as no failure of its own. -/
inductive Interruption where
  /-- Bytes are not UTF-8. -/
  | undecodable
  /-- A path has a NUL character in it. -/
  | nulInPath
  /-- A decimal numeral has this many digits, more than are converted. -/
  | oversizedNumeral (digits : Nat)
  /-- The system does not tell whether a path names a file. -/
  | untestable (path : Path) (failure : SystemFailure)
  /-- A table has text in it that the console cannot make sense of. -/
  | undrawable
deriving DecidableEq, Repr

/-- The end of an operation without a value: a failure that it reports, or an interruption. -/
inductive Halt (ε : Type) where
  | failed (failure : ε)
  | interrupted (cause : Interruption)
deriving DecidableEq, Repr

def Halt.map {ε δ : Type} (f : ε → δ) : Halt ε → Halt δ
  | .failed failure => .failed (f failure)
  | .interrupted cause => .interrupted cause

end ServiceWiring

namespace Except

variable {α β δ ε : Type}

@[simp] theorem ok_bind (value : α) (next : α → Except ε β) :
    (Except.ok value >>= next) = next value := rfl

@[simp] theorem error_bind (failure : ε) (next : α → Except ε β) :
    (Except.error failure >>= next) = .error failure := rfl

@[simp] theorem mapError_ok (value : α) (f : δ → ε) :
    (Except.ok value : Except δ α).mapError f = .ok value := rfl

end Except
