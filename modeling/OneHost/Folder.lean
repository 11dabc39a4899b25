import OneHost.Text.Split
import OneHost.Text.Utf8

/-!
# Files by their paths

What a program finds at the paths that it is given. `Folder.ofFiles` is a folder with some files in
it, as a program sees it that is started there: paths are relative to it, and what lies elsewhere is
not there.
-/

namespace OneHost

/-- Why a file cannot be read. -/
inductive FileError where
  | notFound
  | notFolder
  | isFolder
  | nameTooLong
  | nulInPath
  | notPermitted
  | other (message : String)
  deriving DecidableEq

/-- The text of the failure. -/
def FileError.message : FileError → String
  | notFound => "No such file or directory (os error 2)"
  | notFolder => "Not a directory (os error 20)"
  | isFolder => "Is a directory (os error 21)"
  | nameTooLong => "File name too long (os error 36)"
  | nulInPath => "file name contained an unexpected NUL byte"
  | notPermitted => "Permission denied (os error 13)"
  | other message => message

/-- What reading the file at a path brings. -/
structure Folder where
  read : String → Except FileError Bytes

namespace Folder

/-- The name of the folder itself, and that of the folder it is in. -/
def here : String := "."
def above : String := ".."

/-- A folder that holds some files and nothing else. Empty steps of a path and steps to where one is
already lead nowhere, but what they follow has to be a folder. -/
def ofFiles (files : List (String × Bytes)) : Folder where
  read path :=
    let steps := (Text.split '/' path.toList).map String.ofList
    if path.toList.contains '\x00' then .error .nulInPath
    else if path.isEmpty then .error .notFound
    else if 4096 ≤ path.utf8ByteSize || steps.any (255 < ·.utf8ByteSize) then .error .nameTooLong
    else
      match steps.filter fun step => step ≠ "" && step ≠ here with
      | [] => .error .isFolder
      | name :: rest =>
        match files.lookup name with
        | some content =>
          if steps.head? = some "" then .error .notFound
          else if steps.getLast? = some name && rest.isEmpty then .ok content
          else .error .notFolder
        | none => if (name :: rest).all (· = above) then .error .isFolder else .error .notFound

end Folder

end OneHost
