import RoadNet.MapFiles

/-!
# RoadNet.Folder

A folder of files without folders in it: what programs see of the files they work on.
-/

namespace RoadNet

/-- The contents of files, by name. -/
abbrev Folder := SortedMap String ByteArray

namespace Folder

/-- Whether a path can only name a folder. -/
def namesFolder (path : String) : Bool := path.endsWith "/" || path.endsWith "/."

/-- The file name that `path` stands for, seen from within the folder. -/
def locate (f : Folder) (path : String) : Except FileFault String :=
  if path.contains '\x00' then .error .invalidPath
  else if path.isEmpty then .error .notFound
  else
    match pathParts path with
    | [] => .error .isFolder
    | [name] =>
      if name = ".." then .error .isFolder
      else if path.startsWith "/" then .error .notFound
      else if !namesFolder path then .ok name
      else if f.contains name then .error .notFolder
      else .error .notFound
    | first :: _ => if f.contains first then .error .notFolder else .error .notFound

/-- Read a file as text. -/
def read (f : Folder) (path : String) : Except FileFault String := do
  match f.find? (← f.locate path) with
  | none => throw .notFound
  | some bytes =>
    match String.fromUTF8? bytes with
    | some text => return text
    | none => throw .notText

/-- Write a text to a file, replacing what it held. -/
def write (f : Folder) (path text : String) : Except FileFault Folder := do
  return f.insert (← f.locate path) text.toUTF8

/-- The files of a folder that is kept as state, through `read` and `write`. -/
def access : FileAccess (StateM Folder) where
  read path := return (← get).read path
  write path text := do
    match (← get).write path text with
    | .ok f => do
      set f
      return .ok ()
    | .error fault => return .error fault

end Folder

end RoadNet
