import ProductQuery.Storage.File
/-!
# Storage.Directory — files found by their paths

A directory holds files under relative paths, and the directories on the way to them.  A path is followed step by step:
`.` stays, `..` goes back, and a name goes on only out of a directory that exists.
-/
namespace ProductQuery

/-- The files below a directory, each with its steps from there. -/
structure Directory where
  files : List (List String × List UInt8)

namespace Directory

def steps (path : String) : List String := (path.splitOn "/").filter (· ≠ "")

def ofFiles (files : List (String × List UInt8)) : Directory := ⟨files.map (fun f => (steps f.1, f.2))⟩

inductive Place where
  | file (bytes : List UInt8)
  | directory (at_ : List String)

def place? (d : Directory) (at_ : List String) : Option Place :=
  match d.files.find? (fun f => f.1 = at_) with
  | some (_, bytes) => some (.file bytes)
  | none => if at_ = [] ∨ d.files.any (fun f => at_.isPrefixOf f.1) then some (.directory at_) else none

/-- The longest name of one step, in bytes. -/
def longestName : Nat := 255

def longestPath : Nat := 4095

def follow (d : Directory) (name : String) : Place → Except ReadFault Place
  | .file _ => .error .notDirectory
  | .directory here =>
    if name = "." then .ok (.directory here)
    else if name = ".." then .ok (.directory here.dropLast)
    else if longestName < name.utf8ByteSize then .error .nameTooLong
    else
      match d.place? (here ++ [name]) with
      | some p => .ok p
      | none => .error .missing

/-- The bytes at the end of a path.  A path from the root leads nowhere, and one with a slash at its end to no file. -/
def read (d : Directory) (path : String) : Contents :=
  if path.toList.contains '\x00' then .error .nulInName
  else if path = "" then .error .missing
  else if longestPath < path.utf8ByteSize then .error .nameTooLong
  else if path.startsWith "/" then .error .missing
  else
    match (steps path).foldlM (fun p name => d.follow name p) (.directory []) with
    | .error e => .error e
    | .ok (.directory _) => .error .isDirectory
    | .ok (.file bytes) => if path.endsWith "/" then .error .notDirectory else .ok bytes

end Directory
end ProductQuery
