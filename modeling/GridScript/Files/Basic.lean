namespace GridScript

/-!
# Files

The files that a script can reach, by their paths. A file can be written where
its folder exists. Paths are read without empty and single-dot parts, and a
double dot takes back the part before it.
-/

/-- Files with their contents, and the folders that hold them. -/
structure Files where
  contents : List (String × ByteArray)
  folders : List String

namespace Files

/-- The parts of a path. -/
def pathParts (path : String) : List String :=
  (path.splitOn "/").filter fun part => part != "" && part != "."

/-- Parts with each double dot resolved against the part before it. -/
def resolveDots (done : List String) : List String → List String
  | [] => done.reverse
  | ".." :: rest =>
      match done with
      | [] => resolveDots [".."] rest
      | ".." :: _ => resolveDots (".." :: done) rest
      | _ :: before => resolveDots before rest
  | part :: rest => resolveDots (part :: done) rest

/-- The path starts at the root. -/
def isRooted (path : String) : Bool :=
  path.startsWith "/"

/-- A path in plain form, with its double dots kept. -/
def plainPath (path : String) : String :=
  let body := "/".intercalate (pathParts path)
  if isRooted path then "/" ++ body else if body.isEmpty then "." else body

/-- The key under which a path is kept. -/
def key (path : String) : String :=
  let body := "/".intercalate (resolveDots [] (pathParts path))
  if isRooted path then "/" ++ body else if body.isEmpty then "." else body

/-- The last part of a path. -/
def lastPart (path : String) : String :=
  (pathParts path).getLast?.getD ""

/-- The folder of a path. -/
def folder (path : String) : String :=
  key ("/".intercalate (path.splitOn "/").dropLast |> fun front =>
    if isRooted path then "/" ++ front else front)

/-- The last part of a path without its extension. -/
def stem (path : String) : String :=
  let name := lastPart path
  let pieces := name.splitOn "."
  match pieces.getLast? with
  | some extension =>
      let front := ".".intercalate pieces.dropLast
      if front.isEmpty || extension.isEmpty then name else front
  | none => name

/-- No files, in a folder of their own. -/
def empty : Files := ⟨[], ["."]⟩

/-- All folders above a path. -/
def foldersAbove (path : String) : List String :=
  let parts := (resolveDots [] (pathParts path)).dropLast
  (List.range (parts.length + 1)).map fun n =>
    key ((if isRooted path then "/" else "") ++ "/".intercalate (parts.take n))

/-- The path is a folder. -/
def isFolder (files : Files) (path : String) : Bool :=
  files.folders.contains (key path)

/-- The content of a file. -/
def read? (files : Files) (path : String) : Option ByteArray :=
  files.contents.lookup (key path)

/-- The content of a file as text. -/
def readText? (files : Files) (path : String) : Option String := do
  String.fromUTF8? (← files.read? path)

/-- The files with a content stored under a path. -/
def store (files : Files) (path : String) (content : ByteArray) : Files :=
  { files with
    contents :=
    (files.contents.filter fun held => held.1 != key path) ++
      [(key path, content)] }

/-- Write a file; its folder must exist and the path must not be a folder. -/
def write? (files : Files) (path : String) (content : ByteArray) : Option Files :=
  if files.isFolder (folder path) && !files.isFolder path then
    some (files.store path content)
  else none

/-- The files with the folders above a path known. -/
def withFoldersAbove (files : Files) (path : String) : Files :=
  { files with
    folders := files.folders ++
      (foldersAbove path).filter fun above => !files.folders.contains above }

/-- The files with a folder known, and the folders above it. -/
def withFolder (files : Files) (path : String) : Files :=
  files.withFoldersAbove (path ++ "/_")

/-- Put a file in place together with the folders above it. -/
def place (files : Files) (path : String) (content : ByteArray) : Files :=
  (files.store path content).withFoldersAbove path

end Files

end GridScript
