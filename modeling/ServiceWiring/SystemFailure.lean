import ServiceWiring.Path
import ServiceWiring.Text.Quoted

/-!
Failures of the operating system, which has a number and a reason for each of them.
-/

namespace ServiceWiring

structure SystemFailure where
  code : Nat
  reason : String
  /-- Whether a report names the path; it does not if the failure came up behind its lookup. -/
  namesPath : Bool := true
deriving DecidableEq, Repr

namespace SystemFailure

def missing : SystemFailure := { code := 2, reason := "No such file or directory" }

def denied : SystemFailure := { code := 13, reason := "Permission denied" }

def notDirectory : SystemFailure := { code := 20, reason := "Not a directory" }

def isDirectory : SystemFailure := { code := 21, reason := "Is a directory" }

def nameTooLong : SystemFailure := { code := 36, reason := "File name too long" }

/-- The numbers of the failures that say that a path leads nowhere: besides `missing` and
`notDirectory` a bad descriptor and a circle of links. -/
def absenceCodes : List Nat := [missing.code, notDirectory.code, 9, 40]

def isAbsence (failure : SystemFailure) : Bool := absenceCodes.contains failure.code

def message (failure : SystemFailure) (path : Path) : String :=
  let report := "[Errno " ++ toString failure.code ++ "] " ++ failure.reason
  if failure.namesPath then report ++ ": " ++ Text.quoted path.toString else report

end SystemFailure

end ServiceWiring
