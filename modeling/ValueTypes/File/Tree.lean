import ValueTypes.File.Path

/-! The files below a working directory, and what reading a path there gives. -/

namespace ValueTypes

inductive ReadFault where
  | missing
  | notDirectory
  | isDirectory
  | notUtf8
  | nulInName
  | other (text : String)

def ReadFault.message : ReadFault → String
  | missing => "No such file or directory (os error 2)"
  | notDirectory => "Not a directory (os error 20)"
  | isDirectory => "Is a directory (os error 21)"
  | notUtf8 => "stream did not contain valid UTF-8"
  | nulInName => "file name contained an unexpected NUL byte"
  | other text => text

/-- Files and directories under the names on the way to them. The directory in which the tree stands
is always there. -/
structure FileTree where
  files : List (List String × ByteArray) := []
  directories : List (List String) := []

inductive Place where
  | inside (names : List String)
  | outside

def Place.up : Place → Place
  | inside names => if names.isEmpty then .outside else .inside names.dropLast
  | outside => .outside

inductive Node where
  | file (content : ByteArray)
  | directory

namespace FileTree

def node? (tree : FileTree) : Place → Option Node
  | .outside => some .directory
  | .inside names =>
    match tree.files.lookup names with
    | some content => some (.file content)
    | none => if names.isEmpty || tree.directories.contains names then some .directory else none

def step (tree : FileTree) (place : Place) (part : String) : Except ReadFault Place :=
  match tree.node? place with
  | none => .error .missing
  | some (.file _) => .error .notDirectory
  | some .directory =>
    if part = "" || part = "." then .ok place
    else if part = ".." then .ok place.up
    else
      match place with
      | .inside names => .ok (.inside (names ++ [part]))
      | .outside => .error .missing

def walk (tree : FileTree) : Place → List String → Except ReadFault Place
  | place, [] => .ok place
  | place, part :: rest =>
    match tree.step place part with
    | .ok next => walk tree next rest
    | .error fault => .error fault

def read (tree : FileTree) (path : String) : Except ReadFault ByteArray :=
  if path.toList.contains '\x00' then .error .nulInName
  else if path.isEmpty then .error .missing
  else
    let start := if path.toList.head? = some '/' then Place.outside else .inside []
    match tree.walk start ((Path.parts path.toList).map String.ofList) with
    | .error fault => .error fault
    | .ok place =>
      match tree.node? place with
      | none => .error .missing
      | some .directory => .error .isDirectory
      | some (.file content) => .ok content

def trail (names : List String) : List String → List (List String)
  | [] => []
  | part :: rest =>
    let next :=
      if part = "" || part = "." then names
      else if part = ".." then names.dropLast
      else names ++ [part]
    next :: trail next rest

/-- Adds a file at a path. All the directories on the way are made, also those that the path leaves
again by `..`. -/
def add (tree : FileTree) (path : String) (content : ByteArray) : FileTree :=
  let places := trail [] ((Path.parts path.toList).map String.ofList)
  { files := (places.getLast?.getD [], content) :: tree.files
    directories := places.dropLast ++ tree.directories }

end FileTree
end ValueTypes
