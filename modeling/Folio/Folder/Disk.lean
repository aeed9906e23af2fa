import Folio.Error
import Folio.Folder.Path
import Folio.Text.Utf8

/-!
# A disk

Files, folders and symbolic links under their absolute places. A place is the list of names from the
root down, without links.

* `Entry`, `Disk`: what stands at a place.
* **`Disk.resolve`**: the place of a path, after at most `maxLinks` links.
* `Disk.openFile`: the bytes of a file as a stream; a folder can be opened but not read.
* `Disk.put`, `Disk.erase`: change a disk.
-/

namespace Folio

/-- A place on a disk: the names from the root down. -/
abbrev Place := List String

/-- What stands at a place. -/
inductive Entry
  | file (bytes : List UInt8)
  | folder
  | link (target : String)
  deriving DecidableEq, Inhabited

/-- **A disk**, and the folder that relative paths are seen from. -/
structure Disk where
  entries : List (Place × Entry) := []
  home : Place := []
  deriving Inhabited

/-- A path goes through at most this many links. -/
def maxLinks : Nat := 40

/-- A name has at most this many bytes. -/
def maxNameBytes : Nat := 255

/-- A path has at most this many bytes. -/
def maxPathBytes : Nat := 4095

namespace Disk

/-- What stands at a place; the root is a folder. -/
def get? (disk : Disk) (place : Place) : Option Entry :=
  if place = [] then some .folder
  else (disk.entries.find? fun entry => entry.1 = place).map Prod.snd

/-- Follow names from a folder; `links` more links may be taken. -/
def follow (disk : Disk) (links : Nat) (start : Place) (names : List String) :
    Except ReadError Place :=
  match names with
  | [] => .ok start
  | name :: rest =>
    if name = "" || name = "." then follow disk links start rest
    else if name = ".." then follow disk links start.dropLast rest
    else if name.utf8ByteSize > maxNameBytes then .error .nameTooLong
    else
      match disk.get? (start ++ [name]) with
      | none => .error .notFound
      | some .folder => follow disk links (start ++ [name]) rest
      | some (.file _) => if rest = [] then .ok (start ++ [name]) else .error .notDirectory
      | some (.link target) =>
        match links with
        | 0 => .error .tooManyLinks
        | links + 1 =>
          follow disk links (if isAbsolute target then [] else start)
            (target.splitOn "/" ++ rest)
  termination_by (links, names.length)

/-- **The place that a path leads to.** -/
def resolve (disk : Disk) (path : String) : Except ReadError Place :=
  if path.toList.contains '\x00' then .error .nulInName
  else if path = "" then .error .notFound
  else if path.utf8ByteSize > maxPathBytes then .error .nameTooLong
  else disk.follow maxLinks (if isAbsolute path then [] else disk.home) (path.splitOn "/")

/-- The stream of a file. A folder can be opened but not read. -/
def openFile (disk : Disk) (path : String) : Except ReadError (Except ReadError (List UInt8)) :=
  match disk.resolve path with
  | .error e => .error e
  | .ok place =>
    match disk.get? place with
    | some (.file bytes) => .ok (.ok bytes)
    | some .folder => .ok (.error .isDirectory)
    | _ => .error .notFound

/-- The text of a file. -/
def readText (disk : Disk) (path : String) : Except ReadError String :=
  match disk.openFile path with
  | .error e => .error e
  | .ok (.error e) => .error e
  | .ok (.ok bytes) =>
    match Utf8.decode? bytes with
    | some text => .ok text
    | none => .error .malformedText

/-- Set what stands at a place. -/
def set (disk : Disk) (place : Place) (entry : Entry) : Disk :=
  { disk with entries := disk.entries.filter (fun e => e.1 ≠ place) ++ [(place, entry)] }

/-- The place of the folder that `names` lead to from `start`, with folders created on the way. -/
def makeFolders (disk : Disk) (start : Place) : List String → Disk × Place
  | [] => (disk, start)
  | name :: rest =>
    match disk.follow maxLinks start [name] with
    | .ok place => makeFolders disk place rest
    | .error _ => makeFolders (disk.set (start ++ [name]) .folder) (start ++ [name]) rest

/-- Where a file written under a name of a folder lands: links are taken, at most `links` of them,
also to a place where nothing stands yet. -/
def landing? (disk : Disk) (folder : Place) (name : String) (links : Nat) : Option Place :=
  match disk.get? (folder ++ [name]) with
  | some .folder => none
  | some (.link target) =>
    match links with
    | 0 => none
    | links + 1 =>
      let names := target.splitOn "/"
      match disk.follow links (if isAbsolute target then [] else folder) names.dropLast with
      | .error _ => none
      | .ok folder =>
        match names.getLastD "" with
        | "" | "." | ".." => none
        | name => disk.landing? folder name links
  | _ => some (folder ++ [name])

/-- Put an entry at a path seen from `start`. A file is written through the link that stands there;
a folder that stands there stays. -/
def put (disk : Disk) (start : Place) (path : String) (entry : Entry) : Disk :=
  let names := (path.splitOn "/").filter fun name => name ≠ "" && name ≠ "."
  let start := if isAbsolute path then [] else start
  let (disk, parent) := disk.makeFolders start names.dropLast
  match names.getLast? with
  | none => disk
  | some name =>
    match entry with
    | .file _ => (disk.landing? parent name maxLinks).elim disk fun place => disk.set place entry
    | .folder => if (disk.follow maxLinks parent [name]).isOk then disk
      else disk.set (parent ++ [name]) entry
    | .link _ => disk.set (parent ++ [name]) entry

/-- Remove what stands at a path seen from `start`, with all that lies below. -/
def erase (disk : Disk) (start : Place) (path : String) : Disk :=
  let names := (path.splitOn "/").filter fun name => name ≠ "" && name ≠ "."
  let start := if isAbsolute path then [] else start
  match names.getLast?, disk.follow maxLinks start names.dropLast with
  | some name, .ok parent =>
    { disk with entries := disk.entries.filter fun e => !(parent ++ [name]).isPrefixOf e.1 }
  | _, _ => disk

end Disk

end Folio
