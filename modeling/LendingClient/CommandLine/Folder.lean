import LendingClient.Text.Split

/-!
# Folders

A folder as a value: the texts of its files, each with the names that lead to it. A path is followed
name by name, so a folder on the way has to be there even if the path leaves it again. What is
outside of the folder is not known, and nothing is found there.
-/

namespace LendingClient

/-- Why a file cannot be read. -/
inductive FileFault where
  /-- There is no such file. -/
  | missing
  /-- A folder stands in its place. -/
  | folder
  /-- A file stands in the place of a folder. -/
  | noFolder
  /-- A name is longer than names can be. -/
  | longName
  /-- The file holds no text. -/
  | noText
  /-- Any other reason, in words. -/
  | other (reason : String)
deriving DecidableEq

/-- The fault in words. -/
def FileFault.message : FileFault → String
  | .missing => "No such file or directory (os error 2)"
  | .folder => "Is a directory (os error 21)"
  | .noFolder => "Not a directory (os error 20)"
  | .longName => "File name too long (os error 36)"
  | .noText => "stream did not contain valid UTF-8"
  | .other reason => reason

/-- The files of a folder: the names that lead to each, and its text. -/
abbrev Folder := List (List String × String)

namespace Folder

/-- The names that a path consists of. -/
def namesOf (path : String) : List String :=
  (Text.split '/' path.toList).map String.ofList

/-- A folder of files with their paths. -/
def ofFiles (files : List (String × String)) : Folder :=
  files.map fun (path, text) => (namesOf path, text)

/-- What a name leads to: the files whose first name it is, without that name. -/
def enter (folder : Folder) (name : String) : Folder :=
  folder.filterMap fun
    | (first :: names, text) => if first = name then some (names, text) else none
    | ([], _) => none

/-- The longest name, in bytes. -/
def longestName : Nat := 255

/-- Follows names to a file; `around` holds the folders around this one, the innermost first. -/
def follow (around : List Folder) (here : Folder) : List String → Except FileFault String
  | [] => .error .folder
  | name :: names =>
    if name = "" ∨ name = "." then follow around here names
    else if name = ".." then
      match around with
      | [] => follow [] [] names
      | folder :: around => follow around folder names
    else if longestName < name.utf8ByteSize then .error .longName
    else
      let found := here.enter name
      match found with
      | [] => .error .missing
      | ([], text) :: _ => if names.isEmpty then .ok text else .error .noFolder
      | _ => follow (here :: around) found names

/-- The longest path, in bytes. -/
def longestPath : Nat := 4095

/-- The text of the file at a path. -/
def read (folder : Folder) (path : String) : Except FileFault String :=
  if path = "" then .error .missing
  else if longestPath < path.utf8ByteSize then .error .longName
  else follow [] folder (namesOf path)

end Folder

end LendingClient
