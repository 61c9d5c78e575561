import ServiceWiring.CallSite

/-!
The events of an analysis and the verdicts of those who hear of them.
-/

namespace ServiceWiring

inductive EventKind where
  | classVisited
  | codebasePopulated
  | callAnalyzed
  | issueReported
deriving DecidableEq, Repr

namespace EventKind

def all : List EventKind := [.classVisited, .codebasePopulated, .callAnalyzed, .issueReported]

def label : EventKind → String
  | .classVisited => "class-declaration-visited"
  | .codebasePopulated => "codebase-populated"
  | .callAnalyzed => "method-call-analyzed"
  | .issueReported => "before-issue-recorded"

def ofLabel? (text : String) : Option EventKind := all.find? (·.label == text)

end EventKind

inductive Verdict where
  | suppressed
  | noOpinion
deriving DecidableEq, Repr

namespace Verdict

def all : List Verdict := [.suppressed, .noOpinion]

def label : Verdict → String
  | .suppressed => "suppressed"
  | .noOpinion => "no-opinion"

def ofLabel? (text : String) : Option Verdict := all.find? (·.label == text)

end Verdict

/-- An issue that the host is about to record for reasons of its own. -/
structure IssueReport where
  kind : String
  selectedText : Option String := none
  /-- The key by which the host tells repeated issues; for a method, `Class::method`. -/
  dupeKey : Option String := none
deriving DecidableEq, Repr

inductive Event where
  /-- The declaration of a class was visited in a file. -/
  | classVisited (className file : String)
  /-- All classes are known. -/
  | codebasePopulated
  | callAnalyzed (site : CallSite)
  | issueReported (report : IssueReport)

def Event.kind : Event → EventKind
  | .classVisited _ _ => .classVisited
  | .codebasePopulated => .codebasePopulated
  | .callAnalyzed _ => .callAnalyzed
  | .issueReported _ => .issueReported

end ServiceWiring
