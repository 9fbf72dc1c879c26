import ShellTree.Text.Decimal

/-!
# Files

Why a file cannot be read, and a file tree in which paths are resolved one name at
a time.
-/

namespace ShellTree

inductive FileFault where
  | system (code : Nat) (text : String)
  | nulByte
  deriving DecidableEq

namespace FileFault

def missing : FileFault :=
  .system 2 "No such file or directory"

def notDirectory : FileFault :=
  .system 20 "Not a directory"

def directory : FileFault :=
  .system 21 "Is a directory"

def tooLong : FileFault :=
  .system 36 "File name too long"

def message : FileFault → String
  | .system code text => text ++ " (os error " ++ Decimal.text code ++ ")"
  | .nulByte => "file name contained an unexpected NUL byte"

end FileFault

/-- Directories and files by the names that lead to them from the root, last name
first, and the directory in which paths start. -/
structure Files where
  directories : List (List String) := []
  contents : List (List String × String) := []
  current : List String := []

namespace Files

def isDirectory (files : Files) (place : List String) : Bool :=
  place.isEmpty || files.directories.contains place

def follow (files : Files) (place : List String) : List String → Except FileFault (List String)
  | [] => .ok place
  | name :: rest =>
      if !files.isDirectory place then .error .notDirectory
      else if name = "" ∨ name = "." then files.follow place rest
      else if name = ".." then files.follow place.tail rest
      else if 255 < name.utf8ByteSize then .error .tooLong
      else if files.isDirectory (name :: place) ||
          (files.contents.lookup (name :: place)).isSome then
        files.follow (name :: place) rest
      else .error .missing

def names (path : List Char) : List String :=
  (path.splitOnP (· == '/')).map String.ofList

def read (files : Files) (path : String) : Except FileFault String := do
  if path.toList.contains '\x00' then .error .nulByte
  else if path.isEmpty then .error .missing
  else if 4096 ≤ path.utf8ByteSize then .error .tooLong
  else
    let start := if path.toList.head? = some '/' then [] else files.current
    let place ← files.follow start (names path.toList)
    match files.contents.lookup place with
    | some text => .ok text
    | none => .error .directory

end Files

end ShellTree
