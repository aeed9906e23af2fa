import Folio.Folder.Disk

/-!
# Walking a folder

A walk lists the files of a folder and of all folders in it: names in ascending order, a folder's
content where its name stands. Links are followed, except those that lead back into a folder the
walk is in. What can not be read is passed over.

* `Disk.names`: the names in a folder, in order.
* **`Disk.files`**: the paths of the files that a walk meets, in order.
-/

namespace Folio.Disk

/-- The names in a folder, in ascending order. -/
def names (disk : Disk) (folder : Place) : List String :=
  let inside := disk.entries.filterMap fun (place, _) =>
    if place.dropLast = folder then place.getLast? else none
  inside.mergeSort fun a b => a ≤ b

/-- The files at or below `path`, which has been reached at `place`; `within` holds the folders the
walk is in. -/
def filesFrom (disk : Disk) (within : List Place) (path : String) (place : Place) :
    Nat → List String
  | 0 => []
  | fuel + 1 =>
    match disk.get? place with
    | some (.file _) => [path]
    | some .folder =>
      (disk.names place).flatMap fun name =>
        let entry := joinPath path name
        match disk.get? (place ++ [name]) with
        | some (.link _) =>
          match disk.follow maxLinks place [name] with
          | .error _ => []
          | .ok target =>
            if (place :: within).contains target then []
            else disk.filesFrom (place :: within) entry target fuel
        | some _ => disk.filesFrom (place :: within) entry (place ++ [name]) fuel
        | none => []
    | _ => []

/-- **The paths of the files that a walk from `root` meets**, in order. -/
def files (disk : Disk) (root : String) : List String :=
  match disk.resolve root with
  | .error _ => []
  | .ok place =>
    let bound := disk.entries.length + 2
    disk.filesFrom [] root place (bound * bound)

end Folio.Disk
