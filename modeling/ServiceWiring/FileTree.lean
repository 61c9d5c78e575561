import ServiceWiring.Halt
import ServiceWiring.Path
import ServiceWiring.SystemFailure

/-!
File trees, seen as what the system says of each path: whether it leads to a regular file, and
which bytes are read there. Either question may fail for reasons of its own, so there are files
that cannot be read and devices that can. `FileTree.ofEntries` is the tree of a working directory
that holds some files and directories and nothing else.
-/

namespace ServiceWiring

structure FileTree where
  /-- Whether the path leads to a regular file. -/
  isRegular : Path → Except SystemFailure Bool
  /-- The bytes that are read at the path. -/
  content : Path → Except SystemFailure ByteArray

namespace FileTree

/-- Whether the path names a file. A path that leads nowhere names none; any other failure to find
out is passed on. -/
def isFile (tree : FileTree) (path : Path) : Except SystemFailure Bool :=
  if path.hasNul then .ok false
  else match tree.isRegular path with
    | .ok regular => .ok regular
    | .error failure => if failure.isAbsence then .ok false else .error failure

/-- The first of the paths that is a file. The search ends at a path that cannot be tested. -/
def firstFile? (tree : FileTree) : List Path → Except Interruption (Option Path)
  | [] => .ok none
  | path :: rest =>
    match tree.isFile path with
    | .ok true => .ok (some path)
    | .ok false => firstFile? tree rest
    | .error failure => .error (.untestable path failure)

/-- Whether there is something at a path that may not be read. -/
def isBarred (tree : FileTree) (path : Path) : Bool :=
  match tree.isRegular path, tree.content path with
  | .ok _, .error failure => failure.code == SystemFailure.denied.code
  | _, _ => false

/-- The text of a file, which has to be UTF-8. -/
def readText (tree : FileTree) (path : Path) : Except (Halt SystemFailure) String :=
  if path.hasNul then .error (.interrupted .nulInPath)
  else match tree.content path with
    | .error failure => .error (.failed failure)
    | .ok bytes =>
      match String.fromUTF8? bytes with
      | some text => .ok text
      | none => .error (.interrupted .undecodable)

inductive Entry where
  | file (bytes : ByteArray)
  | directory

/-- The places of a walk through a tree: inside the working directory, or that many levels above
it, where there is nothing but the way back. -/
inductive Place where
  | inside (segments : List String)
  | above (levels : Nat)

/-- What a list of entries has at a place: an entry that was listed, or a directory that one of
them stands in. -/
def entryAt (entries : List (List String × Entry)) (segments : List String) : Option Entry :=
  match entries.find? (fun entry => entry.1 == segments) with
  | some (_, entry) => some entry
  | none =>
    if segments.isEmpty || entries.any (fun entry => segments.isPrefixOf entry.1) then
      some .directory
    else none

def segmentBound : Nat := 255

def pathBound : Nat := 4095

/-- Follows the segments one by one; each step but the last has to end in a directory. -/
def walk (entries : List (List String × Entry)) :
    Place → List String → Except SystemFailure Entry
  | .above _, [] => return .directory
  | .above levels, ".." :: rest => walk entries (.above (levels + 1)) rest
  | .above _, segment :: _ =>
    throw (if segmentBound < segment.utf8ByteSize then .nameTooLong else .missing)
  | .inside here, [] =>
    match entryAt entries here with
    | none => throw .missing
    | some entry => return entry
  | .inside here, segment :: rest =>
    match entryAt entries here with
    | none => throw .missing
    | some (.file _) => throw .notDirectory
    | some .directory =>
      if segment == ".." then
        if here.isEmpty then walk entries (.above 1) rest
        else walk entries (.inside here.dropLast) rest
      else if segmentBound < segment.utf8ByteSize then throw .nameTooLong
      else walk entries (.inside (here ++ [segment])) rest

/-- What a path leads to in a working directory with the given entries. Of the absolute paths only
the root exists. -/
def locate (entries : List (Path × Entry)) (path : Path) : Except SystemFailure Entry :=
  if pathBound < path.toString.utf8ByteSize then throw .nameTooLong
  else match path.anchor with
    | .relative =>
      walk (entries.map fun entry => (entry.1.segments, entry.2)) (.inside []) path.segments
    | _ => walk [] (.above 0) path.segments

/-- The tree of a working directory with the given entries, all of which can be read. -/
def ofEntries (entries : List (Path × Entry)) : FileTree where
  isRegular path :=
    match locate entries path with
    | .ok (.file _) => .ok true
    | .ok .directory => .ok false
    | .error failure => .error failure
  content path :=
    match locate entries path with
    | .ok (.file bytes) => .ok bytes
    | .ok .directory => .error .isDirectory
    | .error failure => .error failure

end FileTree

end ServiceWiring
