/-
Reading a file: what can go wrong, and directories held in memory, which
answer as a file system does. A path is followed name by name. An empty
name and a dot stay where they are, two dots go up, and both need a
directory to stand in.
-/

namespace EntityMarkup.CommandLine

/-- Why a file cannot be read. -/
inductive FileFault where
  /-- The file system refused, with a number and a description. -/
  | system (number : Nat) (description : String)
  /-- The contents are not text. -/
  | notText
deriving DecidableEq, Repr

namespace FileFault

/-- Nothing is there. -/
def missing : FileFault := .system 2 "No such file or directory"

/-- A name on the way is that of a file. -/
def notDirectory : FileFault := .system 20 "Not a directory"

/-- The path leads to a directory. -/
def isDirectory : FileFault := .system 21 "Is a directory"

/-- A name has more bytes than a file system allows. -/
def nameTooLong : FileFault := .system 36 "File name too long"

/-- The fault in words. -/
def message : FileFault → String
  | .system number description =>
    description ++ " (os error " ++ toString number ++ ")"
  | .notText => "stream did not contain valid UTF-8"

end FileFault

/-- The text that a file's contents encode. -/
def textOf (contents : ByteArray) : Except FileFault String :=
  match String.fromUTF8? contents with
  | some text => .ok text
  | none => .error .notText

/-- Files by their names on the way from a directory. A name on the way
to a file is that of a directory. -/
structure Directory where
  files : List (List String × ByteArray)

namespace Directory

/-- Where a path has come to. -/
inductive Place where
  /-- In a directory that this one is inside of. -/
  | above
  /-- In the directory that these names lead to. -/
  | inside (names : List String)
  /-- At a file. -/
  | file (contents : ByteArray)

/-- The names between the slashes of a path. -/
def names (path : String) : List String := path.splitOn "/"

/-- The directory of these files, the last one of a name counting. -/
def ofFiles (files : List (String × ByteArray)) : Directory :=
  ⟨files.reverse.map fun (path, contents) =>
    ((names path).filter (fun name => name != "" && name != "."),
      contents)⟩

/-- The place of a name in a directory. -/
def enter (d : Directory) (names : List String) :
    Except FileFault Place :=
  match d.files.find? (·.1 == names) with
  | some (_, contents) => .ok (.file contents)
  | none =>
    if d.files.any (fun f => names.isPrefixOf f.1) then .ok (.inside names)
    else .error .missing

/-- Follows one name of a path. -/
def follow (d : Directory) (place : Place) (name : String) :
    Except FileFault Place :=
  if 255 < name.utf8ByteSize then .error .nameTooLong
  else match place with
    | .file _ => .error .notDirectory
    | .above =>
      if name ∈ ["", ".", ".."] then .ok .above else .error .missing
    | .inside names =>
      if name ∈ ["", "."] then .ok (.inside names)
      else if name = ".." then
        .ok (if names.isEmpty then .above else .inside names.dropLast)
      else d.enter (names ++ [name])

/-- The contents of the file that a path leads to. A path that starts
with a slash starts above. -/
def read (d : Directory) (path : String) : Except FileFault ByteArray := do
  let start := if path.startsWith "/" then Place.above else .inside []
  match ← (names path).foldlM d.follow start with
  | .file contents => return contents
  | _ => .error .isDirectory

end Directory

end EntityMarkup.CommandLine
