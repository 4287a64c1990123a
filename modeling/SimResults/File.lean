import SimResults.Text.Utf8

/-! Files as far as results need them: a tree of named files below a home directory, paths into
it, and the faults of opening and reading. Every directory is known by the files in it. -/

namespace SimResults

open Text

inductive FileFault
  | notFound
  | notADirectory
  | isADirectory
  | nameTooLong
  | nulInName
  | nulInArgument
  | notPermitted
  | notText
  | other (text : String)
deriving DecidableEq, Repr

def FileFault.message : FileFault → String
  | .notFound => "No such file or directory (os error 2)"
  | .notADirectory => "Not a directory (os error 20)"
  | .isADirectory => "Is a directory (os error 21)"
  | .nameTooLong => "File name too long (os error 36)"
  | .nulInName => "file name contained an unexpected NUL byte"
  | .nulInArgument => "nul byte found in provided data"
  | .notPermitted => "Permission denied (os error 13)"
  | .notText => "stream did not contain valid UTF-8"
  | .other text => text

/-- Splits at `/`; there is one part more than separators. -/
def pathParts (path : String) : List String :=
  (go [] path.toList).map String.ofList
where
  go (part : List Char) : List Char → List (List Char)
    | [] => [part.reverse]
    | char :: rest => if char == '/' then part.reverse :: go [] rest else go (char :: part) rest

/-- A place in the tree: the names on the way from the root. -/
abbrev Location := List String

structure FileTree where
  /-- Where relative paths start. -/
  home : Location := ["tmp", "home"]
  /-- Files by their place below `home`. -/
  files : List (Location × Bytes) := []

namespace FileTree

/-- The tree with files at relative paths; a path's parts name the directories above it. -/
def ofFiles (files : List (String × Bytes)) : FileTree :=
  { files := files.map fun (path, bytes) =>
      ((pathParts path).filter fun part => part != "" && part != ".", bytes) }

/-- The places that make all others exist: `home` and every file. -/
def leaves (tree : FileTree) : List Location :=
  tree.home :: tree.files.map fun (place, _) => tree.home ++ place

def exists? (tree : FileTree) (place : Location) : Bool :=
  tree.leaves.any fun leaf => place.isPrefixOf leaf

def content? (tree : FileTree) (place : Location) : Option Bytes :=
  (tree.files.find? fun (file, _) => tree.home ++ file == place).map (·.2)

def isDirectory (tree : FileTree) (place : Location) : Bool :=
  tree.exists? place && (tree.content? place).isNone

/-- The names in a directory. -/
def children (tree : FileTree) (place : Location) : List String :=
  (tree.leaves.filterMap fun leaf =>
    if place.isPrefixOf leaf then leaf[place.length]? else none).eraseDups

/-- Every place strictly below a directory. -/
def descendants (tree : FileTree) (place : Location) : List Location :=
  (tree.leaves.flatMap fun leaf =>
    if place.isPrefixOf leaf then
      (List.range' (place.length + 1) (leaf.length - place.length)).map leaf.take
    else []).eraseDups

/-- One step of a path. An empty part and `.` stay, `..` goes up, and each of them, like a
name, needs a directory to start from. -/
def step (tree : FileTree) (place : Location) (part : String) : Except FileFault Location :=
  if !tree.isDirectory place then .error .notADirectory
  else if part == "" || part == "." then .ok place
  else if part == ".." then .ok place.dropLast
  else if 255 < part.utf8ByteSize then .error .nameTooLong
  else if tree.exists? (place ++ [part]) then .ok (place ++ [part])
  else .error .notFound

/-- The place a path leads to. -/
def locate (tree : FileTree) (path : String) : Except FileFault Location :=
  if path.toList.contains '\x00' then .error .nulInName
  else if path == "" then .error .notFound
  else if 4096 ≤ path.utf8ByteSize then .error .nameTooLong
  else
    let start := if path.startsWith "/" then [] else tree.home
    (pathParts path).foldlM tree.step start

/-- The bytes of the file at a path. -/
def read (tree : FileTree) (path : String) : Except FileFault Bytes := do
  match tree.content? (← tree.locate path) with
  | some bytes => return bytes
  | none => throw .isADirectory

def readText (tree : FileTree) (path : String) : Except FileFault String := do
  match decode? (← tree.read path) with
  | some text => return text
  | none => throw .notText

end FileTree

end SimResults
