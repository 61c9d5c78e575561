import ServiceWiring.Table
import ServiceWiring.Toml.Lexeme

/-!
The tables of a TOML document while it is read. A value that is written in line is closed: nothing
can be added to it later. A table that has a header, or that dotted keys have made in an earlier
section, cannot be opened again.
-/

namespace ServiceWiring.Toml

structure Draft where
  fields : List (String × Data) := []
  /-- The places of values written in line. -/
  closed : List Key := []
  /-- The places of tables that no header may open. -/
  defined : List Key := []
  /-- The places that become `defined` with the next header. -/
  pending : List Key := []
  /-- The table that key and value pairs go to. -/
  header : Key := []

namespace Draft

/-- Applies `update` to the table at a place, making the tables on the way. The way leads through
the last table of an array of tables if `throughArrays` is set. -/
def updateAt (throughArrays : Bool)
    (update : List (String × Data) → Except Fault (List (String × Data))) :
    Key → List (String × Data) → Except Fault (List (String × Data))
  | [], fields => update fields
  | part :: rest, fields => do
    let onward := updateAt throughArrays update rest
    match fields.lookup part with
    | none => return putPair part (.record (← onward [])) fields
    | some (.record inner) => return putPair part (.record (← onward inner)) fields
    | some (.list items) =>
      match throughArrays, items.getLast? with
      | true, some (.record inner) =>
        return putPair part (.list (items.dropLast ++ [.record (← onward inner)])) fields
      | _, _ => throw .closedTable
    | some _ => throw .closedTable

def addField (name : String) (value : Data) (fields : List (String × Data)) :
    Except Fault (List (String × Data)) :=
  if (fields.lookup name).isSome then throw .repeatedKey else return putPair name value fields

/-- Appends an empty table to an array of tables, which is made if it is not there. -/
def addItem (name : String) (fields : List (String × Data)) :
    Except Fault (List (String × Data)) :=
  match fields.lookup name with
  | none => return putPair name (.list [.record []]) fields
  | some (.list items) => return putPair name (.list (items ++ [.record []])) fields
  | some _ => throw .closedTable

/-- Whether a place lies in a value written in line. -/
def isClosed (draft : Draft) (place : Key) : Bool := draft.closed.any (·.isPrefixOf place)

def isNest : Data → Bool
  | .record _ | .list _ => true
  | _ => false

def splitLast (key : Key) : Key × String := (key.dropLast, key.getLast?.getD "")

/-- Ends a section: no header may open the tables that its dotted keys have made. -/
def endSection (draft : Draft) : Draft :=
  { draft with defined := draft.pending ++ draft.defined, pending := [] }

def openTable (draft : Draft) (key : Key) : Except Fault Draft := do
  if draft.defined.contains key || draft.isClosed key then throw .closedTable
  let fields ← updateAt true (fun inner => return inner) key draft.fields
  return { draft with fields := fields, defined := key :: draft.defined, header := key }

/-- Opens a new table of the array of a header `[[key]]`; what was defined in the table before it
can be defined anew. -/
def openItem (draft : Draft) (key : Key) : Except Fault Draft := do
  if draft.isClosed key then throw .closedTable
  let (outer, name) := splitLast key
  let fields ← updateAt true (addItem name) outer draft.fields
  return { draft with
    fields := fields
    closed := draft.closed.filter (!key.isPrefixOf ·)
    defined := key :: draft.defined.filter (!key.isPrefixOf ·)
    header := key }

/-- The places of the tables that a dotted key leads through. -/
def waypoints (header key : Key) : List Key :=
  (List.range key.length).filterMap fun n => if n = 0 then none else some (header ++ key.take n)

def addPair (draft : Draft) (key : Key) (value : Data) : Except Fault Draft := do
  let passed := waypoints draft.header key
  if passed.any draft.defined.contains then throw .closedTable
  let (outer, name) := splitLast key
  if draft.isClosed (draft.header ++ outer) then throw .closedTable
  let fields ← updateAt true (addField name value) (draft.header ++ outer) draft.fields
  return { draft with
    fields := fields
    pending := passed ++ draft.pending
    closed := if isNest value then (draft.header ++ key) :: draft.closed else draft.closed }

end Draft

end ServiceWiring.Toml
