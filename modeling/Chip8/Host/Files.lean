import Chip8.Numeral
import Chip8.Text.Fields
import Chip8.Word

/-!
# Files

A tree of directories, and what comes of reading a path in it. Names and paths have a largest length;
a name is looked at only when everything before it in the path has been found.
-/

namespace Chip8

/-- Why a file could not be read. -/
structure FileError where
  code : Nat
  kind : String
  message : String
  deriving DecidableEq, Repr

namespace FileError

def notFound : FileError := ⟨2, "NotFound", "No such file or directory"⟩

def permissionDenied : FileError := ⟨13, "PermissionDenied", "Permission denied"⟩

def notADirectory : FileError := ⟨20, "NotADirectory", "Not a directory"⟩

def isADirectory : FileError := ⟨21, "IsADirectory", "Is a directory"⟩

def nameTooLong : FileError := ⟨36, "InvalidFilename", "File name too long"⟩

def all : List FileError := [notFound, permissionDenied, notADirectory, isADirectory, nameTooLong]

def describe (e : FileError) : String :=
  let code := Numeral.decimal e.code
  s!"Os \x7b code: {code}, kind: {e.kind}, message: \"{e.message}\" \x7d"

end FileError

inductive FileTree where
  | file (bytes : List Byte)
  | directory (entries : List (String × FileTree))

namespace FileTree

/-- The longest name and the longest path, in bytes. -/
def nameLimit : Nat := 255
def pathLimit : Nat := 4095

/-- Follows the names of a path. The directories passed so far stand innermost first. -/
def follow : List FileTree → FileTree → List String → Except FileError FileTree
  | _, here, [] => .ok here
  | _, .file _, _ :: _ => .error .notADirectory
  | above, .directory entries, name :: rest =>
    if name = "" ∨ name = "." then follow above (.directory entries) rest
    else if name = ".." then
      match above with
      | [] => follow [] (.directory entries) rest
      | parent :: above => follow above parent rest
    else if nameLimit < name.utf8ByteSize then .error .nameTooLong
    else
      match entries.lookup name with
      | none => .error .notFound
      | some child => follow (.directory entries :: above) child rest

def names (path : String) : List String := (Fields.split '/' path.toList).map String.ofList

/-- The bytes of the file at a path; a path without a slash in front starts at `working`. -/
def read (root : FileTree) (working path : String) : Except FileError (List Byte) :=
  let start := if path.toList.head? = some '/' then [] else names working
  if pathLimit < path.utf8ByteSize then .error .nameTooLong
  else
    match follow [] root (start ++ names path) with
    | .error e => .error e
    | .ok (.file bytes) => .ok bytes
    | .ok (.directory _) => .error .isADirectory

end FileTree

end Chip8
