import BulkLoad.Text.Utf8

/-!
The files that a load can see, by their path from the working directory.

A path is walked name by name: each name but the last must lead to a directory, and `..` leads back
to the directory above. A path that begins with a slash starts at the root, which counts as a name
of its own. Nothing is known above the working directory.
-/
namespace BulkLoad

/-- Why a file cannot be read. -/
inductive FileError where
  | notFound
  | notDirectory
  | isDirectory
  | nameTooLong
  | zeroInName
  | notText
  | system (message : String)
  deriving DecidableEq, Repr

namespace FileError

def message : FileError → String
  | .notFound => "No such file or directory (os error 2)"
  | .notDirectory => "Not a directory (os error 20)"
  | .isDirectory => "Is a directory (os error 21)"
  | .nameTooLong => "File name too long (os error 36)"
  | .zeroInName => "file name contained an unexpected NUL byte"
  | .notText => "stream did not contain valid UTF-8"
  | .system m => m

end FileError

/-- The names of a path, without empty ones and without the name of the directory itself. -/
def pathNames (path : String) : List String :=
  (path.splitOn "/").filter fun name => name ≠ "" ∧ name ≠ "."

/-- The name of the directory in which all paths with a slash in front begin. -/
def rootName : String := "/"

/-- Where a path leads: the names to walk from the working directory. -/
def pathAddress (path : String) : List String :=
  if path.startsWith "/" then rootName :: pathNames path else pathNames path

/-- The last name of a path, unless it leads upwards. -/
def fileName? (path : String) : Option String :=
  match (pathNames path).getLast? with
  | none => none
  | some name => if name = ".." then none else some name

/-- What stands after the last point of a file name, if anything stands before it. -/
def extension? (path : String) : Option String :=
  match fileName? path with
  | none => none
  | some name =>
    match name.toList.reverse.span (· ≠ '.') with
    | (last, _ :: before) => if before.isEmpty then none else some (String.ofList last.reverse)
    | _ => none

/-- What a path leads to. -/
inductive File where
  | bytes (content : Bytes)
  | directory
  | unreadable (reason : FileError)
  deriving DecidableEq, Repr

/-- Files and directories by their names from the working directory. A directory that holds
something need not be listed. -/
structure Files where
  entries : List (List String × File) := []

namespace Files

def put (fs : Files) (path : String) (file : File) : Files :=
  ⟨(pathAddress path, file) :: fs.entries⟩

/-- Adds a file, or a directory if its name ends in a slash. -/
def add (fs : Files) (path : String) (content : Bytes) : Files :=
  fs.put path (if path.endsWith "/" then .directory else .bytes content)

/-- What lies at a list of names. The working directory and the root are there in any case. -/
def at? (fs : Files) (names : List String) : Option File :=
  match fs.entries.find? fun e => e.1 == names with
  | some e => some e.2
  | none =>
    let known := fs.entries.any fun e => names.isPrefixOf e.1
    if names.isEmpty || names == [rootName] || known then some .directory else none

def maxNameLength : Nat := 255

def maxPathLength : Nat := 4095

/-- Walks the names that are left from the directory at `here`. -/
def walk (fs : Files) (here : List String) : List String → Except FileError (List String × File)
  | [] =>
    match fs.at? here with
    | some file => .ok (here, file)
    | none => .error .notFound
  | name :: names =>
    match fs.at? here with
    | some .directory =>
      if maxNameLength < name.utf8ByteSize then .error .nameTooLong
      else if name ≠ ".." then walk fs (here ++ [name]) names
      else if here = [rootName] then walk fs here names
      else if here.isEmpty then .error .notFound
      else walk fs here.dropLast names
    | some (.bytes _) => .error .notDirectory
    | some (.unreadable reason) => .error reason
    | none => .error .notFound

/-- The file that is always there and always empty. -/
def emptyDevice : String := "/dev/null"

/-- Opens what a path leads to. A path that ends in a slash leads to a directory. -/
def open? (fs : Files) (path : String) : Except FileError File :=
  if path.contains '\x00' then .error .zeroInName
  else if path = emptyDevice then .ok (.bytes [])
  else if path.isEmpty then .error .notFound
  else if maxPathLength < path.utf8ByteSize then .error .nameTooLong
  else
    match fs.walk [] (pathAddress path) with
    | .error e => .error e
    | .ok (_, .unreadable reason) => .error reason
    | .ok (_, .bytes content) =>
      if path.endsWith "/" || path.endsWith "/." then .error .notDirectory else .ok (.bytes content)
    | .ok (_, .directory) => .ok .directory

def exists? (fs : Files) (path : String) : Bool :=
  match fs.open? path with
  | .ok _ => true
  | .error _ => false

/-- All bytes of a file. -/
def read (fs : Files) (path : String) : Except FileError Bytes :=
  match fs.open? path with
  | .error e => .error e
  | .ok (.bytes content) => .ok content
  | .ok .directory => .error .isDirectory
  | .ok (.unreadable reason) => .error reason

/-- A file as text. -/
def readText (fs : Files) (path : String) : Except FileError String :=
  match fs.read path with
  | .error e => .error e
  | .ok content =>
    match Utf8.decode? content with
    | some text => .ok text
    | none => .error .notText

end Files
end BulkLoad
