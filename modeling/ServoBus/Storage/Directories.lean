import ServoBus.Error

/-!
# Directories

Which places a path leads through. A host has a root with the directory of the devices, the
directory where relative paths begin with all that hold it, and the directories made among these.
Nothing else is known to exist.

Each name of a path leads from a directory to a place in it. Two names are special: one leads
nowhere else, the other to the directory above, and from the root to the root.
-/

namespace ServoBus

/-- The most bytes that one name of a path can have. -/
def maxName : Nat := 255

/-- The names that lead to a place from the root, the last one first. -/
abbrev Place := List String

namespace Place

def along (place : Place) (name : String) : Place :=
  if name = "." then place
  else if name = ".." then place.tail
  else name :: place

/-- The bytes of the text of a place, each name behind a slash. -/
def textSize (place : Place) : Nat :=
  place.foldl (fun size name => size + (name.utf8ByteSize + 1)) 0

end Place

def pathNames (path : String) : List String :=
  (path.splitOn "/").filter fun name => name ≠ ""

inductive Node where
  | directory
  | nullDevice
  | fullDevice
  deriving DecidableEq

structure Directories where
  /-- Where relative paths begin. -/
  start : Place
  made : List Place := []

namespace Directories

def origin (directories : Directories) (path : String) : Place :=
  if path.startsWith "/" then [] else directories.start

/-- The bytes of a path once it is written from the root on. -/
def fullSize (directories : Directories) (path : String) : Nat :=
  if path.startsWith "/" then path.utf8ByteSize
  else directories.start.textSize + 1 + path.utf8ByteSize

def node? (directories : Directories) (place : Place) : Option Node :=
  if place = [] ∨ place = ["dev"] then some .directory
  else if place = ["null", "dev"] then some .nullDevice
  else if place = ["full", "dev"] then some .fullDevice
  else if place.isSuffixOf directories.start ∨ place ∈ directories.made then some .directory
  else none

/-- Goes from a directory to what a name leads to, or tells why it is not there. -/
def enter (directories : Directories) (place : Place) (name : String) :
    Except FileObstacle Place :=
  if directories.node? place ≠ some .directory then .error .notDirectory
  else if maxName < name.utf8ByteSize then .error .longName
  else if (directories.node? (place.along name)).isNone then .error .notFound
  else .ok (place.along name)

def walk (directories : Directories) (place : Place) : List String → Except FileObstacle Place
  | [] => .ok place
  | name :: rest =>
      match directories.enter place name with
      | .error obstacle => .error obstacle
      | .ok next => directories.walk next rest

/-- Makes every directory along some names that is not there. -/
def makeAlong (directories : Directories) (place : Place) : List String → Directories
  | [] => directories
  | name :: rest =>
      let next := place.along name
      let directories :=
        if (directories.node? next).isNone then
          { directories with made := next :: directories.made }
        else directories
      directories.makeAlong next rest

/-- Makes every directory along a path that is not there. -/
def make (directories : Directories) (path : String) : Directories :=
  directories.makeAlong (directories.origin path) (pathNames path)

end Directories

end ServoBus
