import RuleLexer.Files.ReadError

/-!
# A directory of files

A `Directory` is a working directory given by its files, named by their paths in it, and its empty
directories. Paths are resolved name by name: each name but the last has to be a directory, a
trailing slash asks for one, and `..` at the top leads out to where nothing is known.
-/

namespace RuleLexer

structure Directory where
  /-- Files by the names on their path, with their bytes. -/
  files : List (List String × ByteArray)
  /-- Directories that are there even without files. -/
  folders : List (List String)

namespace Directory

def file? (d : Directory) (path : List String) : Option ByteArray :=
  d.files.lookup path

/-- Whether the path leads to a directory; the working directory is the empty path. -/
def isFolder (d : Directory) (path : List String) : Bool :=
  path.isEmpty || d.folders.any path.isPrefixOf ||
    d.files.any fun f => path.isPrefixOf f.1 && f.1 != path

/-- Where a walk along a path stands. -/
inductive Standing where
  | inside (path : List String)
  /-- That many directories above the working directory. -/
  | above (levels : Nat)

def maxNameLength : Nat := 255

def maxPathLength : Nat := 4095

/-- Goes one name further; an empty name, as behind a trailing slash, stays in place. -/
def step (d : Directory) (here : Standing) (name : String) : Except ReadError Standing :=
  match here with
  | .inside path =>
    if !d.isFolder path then
      .error (if (d.file? path).isSome then .notDirectory else .notFound)
    else if name = "" ∨ name = "." then .ok here
    else if name = ".." then .ok (if path.isEmpty then .above 1 else .inside path.dropLast)
    else if maxNameLength < name.utf8ByteSize then .error .nameTooLong
    else .ok (.inside (path ++ [name]))
  | .above levels =>
    if name = "" ∨ name = "." then .ok here
    else if name = ".." then .ok (.above (levels + 1))
    else if maxNameLength < name.utf8ByteSize then .error .nameTooLong
    else .error .notFound

def resolve (d : Directory) (path : String) : Except ReadError Standing :=
  let names := path.splitOn "/"
  if path.startsWith "/" then names.foldlM d.step (.above 1) else names.foldlM d.step (.inside [])

/-- The bytes of the file that a path leads to. -/
def readBytes (d : Directory) (path : String) : Except ReadError ByteArray :=
  if path.contains '\x00' then .error .zeroByte
  else if path = "" then .error .notFound
  else if maxPathLength < path.utf8ByteSize then .error .nameTooLong
  else do
    match ← d.resolve path with
    | .above _ => throw .isDirectory
    | .inside names =>
      match d.file? names with
      | some bytes => return bytes
      | none => throw (if d.isFolder names then .isDirectory else .notFound)

def fileSystem (d : Directory) : FileSystem := fun path => (d.readBytes path).bind decodeText

end Directory

end RuleLexer
