import SolarTwin.Profile.File

namespace SolarTwin

/-!
# File trees

What opening and reading a path gives, where the files and directories below the current directory
are known.  Of what lies elsewhere only the usual directories and the empty device count.
-/

/-- Files and directories, by the parts of their paths. -/
structure FileTree where
  files : List (List String × ByteArray)
  dirs : List (List String)

namespace FileTree

/-- The parts of a path; a step that stays in place is none. -/
def partsOf (path : String) : List String :=
  (path.splitOn "/").filter fun part => part ≠ "" ∧ part ≠ "."

/-- The tree of files and directories given by their paths. -/
def ofPaths (files : List (String × ByteArray)) (dirs : List String) : FileTree :=
  ⟨files.map fun (path, content) => (partsOf path, content), dirs.map partsOf⟩

/-- What lies below the root of a file system. -/
def system : FileTree :=
  ⟨[(["dev", "null"], ByteArray.empty)],
    [["bin"], ["dev"], ["etc"], ["proc"], ["sys"], ["tmp"], ["usr"], ["var"]]⟩

/-- The longest name, in bytes. -/
def nameLimit : Nat := 255

/-- The longest path, in bytes. -/
def pathLimit : Nat := 4095

/-- Whether something lies at a place; a directory is there if anything below it is. -/
def holds (t : FileTree) (place : List String) : Bool :=
  place.isEmpty || t.files.any (place.isPrefixOf ·.1) || t.dirs.any (place.isPrefixOf ·)

/-- Follows the parts of a path from a place.  The parents of the start are directories in which
    nothing else is known. -/
def follow (t : FileTree) : List String → List String → Except FileFault (List String)
  | place, [] => .ok place
  | [], ".." :: rest => if rest.all (· = "..") then .ok [] else .error .notFound
  | place, part :: rest =>
    if (t.files.lookup place).isSome then .error .notDirectory
    else if nameLimit < part.utf8ByteSize then .error .nameTooLong
    else
      let next := if part = ".." then place.dropLast else place ++ [part]
      if t.holds next then t.follow next rest else .error .notFound

/-- The content of the file at a path. -/
def read (t : FileTree) (path : String) : Except FileFault ByteArray := do
  if path.contains (Char.ofNat 0) then
    throw (.stated "file name contained an unexpected NUL byte")
  if pathLimit < path.utf8ByteSize then throw .nameTooLong
  if path.isEmpty then throw .notFound
  let absolute := path.startsWith "/"
  let tree := if absolute then system else t
  let parts := if absolute then (partsOf path).dropWhile (· = "..") else partsOf path
  let place ← tree.follow [] parts
  match tree.files.lookup place with
  | none => throw .isDirectory
  | some bytes =>
    if path.endsWith "/" ∨ path.endsWith "/." then throw .notDirectory else return bytes

end FileTree

end SolarTwin
