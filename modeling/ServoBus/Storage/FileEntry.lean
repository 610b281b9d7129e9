import ServoBus.Bytes
import ServoBus.Storage.Directories

/-!
# File entries

What a path leads to: a regular file, a place where none exists yet, a directory, one of the
devices that read as nothing or as endless zeros, or a place that cannot be opened.

A path that ends in a slash can only lead to a directory. To write through it is refused as
writing to a directory is, whatever is there.
-/

namespace ServoBus

/-- A path of so many bytes from the root on is not looked at. -/
def pathLimit : Nat := 4096

inductive FileEntry where
  | regular (content : Bytes)
  /-- No file is there, but one can be created. -/
  | absent
  | directory
  /-- Reads nothing, and takes everything without keeping it. -/
  | nullDevice
  /-- Reads as endless zeros, and has no room for anything. -/
  | fullDevice
  /-- It cannot be opened, for one reason to read and perhaps for another to write. -/
  | barred (reading writing : FileObstacle)
  deriving DecidableEq

namespace FileEntry

/-- The directory to hold the file does not exist. -/
def unreachable : FileEntry := barred .notFound .notFound

/-- The bytes of a regular file. -/
def content? : FileEntry → Option Bytes
  | regular content => some content
  | _ => none

/-- The file with a new content, where a regular file can be. -/
def put (entry : FileEntry) (content : Bytes) : FileEntry :=
  match entry with
  | regular _ | absent => regular content
  | other => other

/-- The path without its regular file. -/
def remove : FileEntry → FileEntry
  | regular _ => absent
  | other => other

/-- What the last name of a path leads to. Where a regular file can be, its content is given. -/
def ofName (directories : Directories) (holder : Place) (name : String) (endsInSlash : Bool)
    (content? : Option Bytes) : FileEntry :=
  let unlessSlash (entry : FileEntry) (obstacle : FileObstacle) : FileEntry :=
    if endsInSlash then barred obstacle .isDirectory else entry
  match directories.enter holder name with
  | .error .notDirectory => barred .notDirectory .notDirectory
  | .error .notFound => unlessSlash (content?.elim absent regular) .notFound
  | .error obstacle => unlessSlash (barred obstacle obstacle) obstacle
  | .ok place =>
      match directories.node? place with
      | some .nullDevice => unlessSlash nullDevice .notDirectory
      | some .fullDevice => unlessSlash fullDevice .notDirectory
      | some .directory | none => directory

/-- What a path leads to among directories, with at most one regular file, at the path itself. -/
def ofPath (directories : Directories) (path : String) (content? : Option Bytes) : FileEntry :=
  if path.toList.contains '\x00' then barred .nulByte .nulByte
  else if pathLimit ≤ directories.fullSize path then barred .longName .longName
  else
    let names := pathNames path
    match names.getLast? with
    | none => directory
    | some name =>
        match directories.walk (directories.origin path) names.dropLast with
        | .error obstacle => barred obstacle obstacle
        | .ok holder => ofName directories holder name (path.endsWith "/") content?

end FileEntry

end ServoBus
