import ServiceWiring.Diagnostic

/-!
The log of reported issues, oldest first.
-/

namespace ServiceWiring

/-- The issues recorded since the log was last cleared, in report order. -/
structure IssueLog where
  issues : List Issue := []
deriving DecidableEq, Repr

namespace IssueLog

def count (log : IssueLog) : Nat := log.issues.length

/-- Records an issue unless the call site suppresses its kind, and says whether it did. -/
def offer (log : IssueLog) (issue : Issue) (suppressed : List String) : Bool × IssueLog :=
  if issue.isSuppressedBy suppressed then (false, log) else (true, ⟨log.issues ++ [issue]⟩)

def countOf (log : IssueLog) (kind : IssueKind) : Nat :=
  log.issues.countP (·.kind == kind)

def byKind (log : IssueLog) : List (IssueKind × Nat) :=
  (IssueKind.all.map fun kind => (kind, log.countOf kind)).filter (·.2 != 0)

/-- The issues that are in `later` and were not yet in `log`, if `later` grew out of `log`. -/
def addedIn (log later : IssueLog) : List Issue := later.issues.drop log.issues.length

end IssueLog

end ServiceWiring
