import ServiceWiring.Data
import ServiceWiring.Diagnostic

/-!
Locations and issues as records of a data document. Every field is written, absent values as
`null`.
-/

namespace ServiceWiring

namespace Data

def ofText? (text : Option String) : Data := (text.map Data.text).getD .null

def ofInteger? (value : Option Int) : Data := (value.map Data.integer).getD .null

end Data

def CodeLocation.toData (location : CodeLocation) : Data :=
  .record
    [("file_path", .text location.file),
     ("line", .ofInteger? location.line),
     ("column", .ofInteger? location.column),
     ("selected_text", .ofText? location.selectedText)]

def Issue.toData (issue : Issue) : Data :=
  .record
    [("kind", .text issue.kind.label),
     ("message", .text issue.message),
     ("location", issue.location.toData),
     ("severity", .text issue.severity.label),
     ("service_id", .ofText? issue.serviceId)]

end ServiceWiring
