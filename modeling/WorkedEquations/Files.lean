/-
Files as far as this library meets them: what can go wrong with one, and a
directory of plain files kept in memory.
-/
import WorkedEquations.Text.Lines

namespace WorkedEquations
namespace Files

/-- What keeps a file from being read or written. -/
inductive Fault where
  | missing
  | isDirectory
  | notDirectory
  | nameTooLong
  /-- The name holds the character that ends names. -/
  | badName
  | notText
  /-- Anything else, in the system's words. -/
  | other (message : String)
deriving DecidableEq

def Fault.message : Fault → String
  | missing => "No such file or directory (os error 2)"
  | isDirectory => "Is a directory (os error 21)"
  | notDirectory => "Not a directory (os error 20)"
  | nameTooLong => "File name too long (os error 36)"
  | badName => "file name contained an unexpected NUL byte"
  | notText => "stream did not contain valid UTF-8"
  | other message => message

/-- The text of a file. -/
def decode (content : ByteArray) : Except Fault String :=
  match String.fromUTF8? content with
  | some text => .ok text
  | none => .error .notText

/-- How files are reached: for reading, and for writing as a whole. -/
structure Access (m : Type → Type) where
  read : String → m (Except Fault ByteArray)
  write : String → String → m (Except Fault Unit)

end Files

/-- The plain files that can be reached from a directory. There are no directories but this one
and those above it, and none of them is closed to new files. A file is kept under its shortest
path. -/
structure Directory where
  files : List (String × ByteArray)

namespace Directory

/-- The directory without files. -/
def empty : Directory := ⟨[]⟩

/-- The content of the file of a path. -/
def find? (d : Directory) (path : String) : Option ByteArray := d.files.lookup path

/-- The directory with a file put in, in place of one of the same path. -/
def insert (d : Directory) (path : String) (content : ByteArray) : Directory :=
  ⟨(path, content) :: d.files.filter (·.1 != path)⟩

/-- A directory there is. -/
inductive Place where
  /-- So many steps above the directory itself. -/
  | above (levels : Nat)
  | root
deriving DecidableEq

namespace Place

def parent : Place → Place
  | above n => above (n + 1)
  | root => root

/-- The shortest path of a file in the place. -/
def path (place : Place) (name : String) : String :=
  match place with
  | above n => String.join (List.replicate n "../") ++ name
  | root => "/" ++ name

end Place

/-- Where a path leads. -/
inductive Target where
  | directory (place : Place)
  /-- A place for a file of that name, where there may be one. -/
  | file (place : Place) (name : String)
deriving DecidableEq

/-- Bytes in a name, at most. -/
def maxName : Nat := 255

/-- Bytes in a path, at most. -/
def maxPath : Nat := 4095

/-- The name is not too long for a file. -/
def checkName (name : String) : Except Files.Fault Unit :=
  if maxName < name.utf8ByteSize then .error .nameTooLong else .ok ()

/-- Where the steps of a path lead. The name at the end is not looked at; a name before it is no
directory, so there is no way through. -/
def follow (d : Directory) (place : Place) : List String → Except Files.Fault Target
  | [] => .ok (.directory place)
  | "." :: rest => d.follow place rest
  | ".." :: rest => d.follow place.parent rest
  | [name] => .ok (.file place name)
  | name :: _ => do
    checkName name
    throw (if (d.find? (place.path name)).isSome then .notDirectory else .missing)

/-- The steps of a path. -/
def steps (path : String) : List String :=
  ((Text.pieces '/' path.toList).map String.ofList).filter (· != "")

/-- Where a path leads. -/
def target (d : Directory) (path : String) : Except Files.Fault Target :=
  if path.toList.contains '\x00' then .error .badName
  else if path.isEmpty then .error .missing
  else if maxPath < path.utf8ByteSize then .error .nameTooLong
  else d.follow (if path.toList.head? = some '/' then .root else .above 0) (steps path)

/-- The path asks for a directory: a slash is at its end. -/
def wantsDirectory (path : String) : Bool := path.toList.getLast? == some '/'

/-- Read a file. -/
def read (d : Directory) (path : String) : Except Files.Fault ByteArray := do
  match ← d.target path with
  | .directory _ => throw .isDirectory
  | .file place name =>
    checkName name
    match d.find? (place.path name) with
    | none => throw .missing
    | some content => if wantsDirectory path then throw .notDirectory else return content

/-- Write a file, as a whole. -/
def write (d : Directory) (path content : String) : Except Files.Fault Directory := do
  match ← d.target path with
  | .directory _ => throw .isDirectory
  | .file place name =>
    if wantsDirectory path then throw .isDirectory
    checkName name
    return d.insert (place.path name) content.toUTF8

end Directory
end WorkedEquations
