import Folio.Folder.Walk
import Folio.Scanner.CharStream

/-!
# Template stores

Templates lie in memory under their names, or in a folder. A folder is searched with all folders in
it for the first file whose path ends with the name; where a name was found is remembered.

* `TemplateStore`: the two kinds of stores.
* `Located`: the names located so far.
* **`locate`**: the path of a name in a folder.
* **`TemplateStore.openTemplate`**: the stream of a template.
-/

namespace Folio

/-- Where templates come from. -/
inductive TemplateStore
  /-- Templates by name. -/
  | memory (templates : List (String × List UInt8))
  /-- The files of a disk. A folder given here takes the place of the one a caller hints at. -/
  | folder (rootFolder : Option String) (disk : Disk)
  deriving Inhabited

/-- The paths of the names located so far. -/
abbrev Located := List (String × String)

/-- The path remembered for a name. -/
def Located.path? (located : Located) (name : String) : Option String :=
  (located.find? fun entry => entry.1 = name).map Prod.snd

/-- The first file of a walk whose path ends with the name. -/
def search (disk : Disk) (root name : String) : Option String :=
  (disk.files root).find? fun path => endsWith path name

/-- **The path of a template file.** An absolute name is its own path; a name that was located
before keeps its path. -/
def locate (rootFolder : Option String) (disk : Disk) (located : Located) (name hint : String) :
    Except RenderError String × Located :=
  let root := rootFolder.getD hint
  if name = "" then (.error (.templateNotFound "" root), located)
  else if isAbsolute name then (.ok name, located)
  else
    match located.path? name with
    | some path => (.ok path, located)
    | none =>
      match search disk root name with
      | some path => (.ok path, located ++ [(name, path)])
      | none => (.error (.templateNotFound name root), located)

namespace TemplateStore

/-- The template of a name in memory. -/
def memory? (templates : List (String × List UInt8)) (name : String) : Option (List UInt8) :=
  (templates.find? fun entry => entry.1 = name).map Prod.snd

/-- Templates by name; of two with one name the later counts. -/
def ofTexts (templates : List (String × String)) : TemplateStore :=
  .memory (templates.reverse.map fun (name, text) => (name, Utf8.encode text))

/-- **The stream of a template.** -/
def openTemplate (store : TemplateStore) (located : Located) (name hint : String) :
    Except RenderError (List Signal) × Located :=
  match store with
  | .memory templates =>
    match memory? templates name with
    | some bytes => (.ok (Signal.ofBytes bytes), located)
    | none => (.error (.templateNotFound name hint), located)
  | .folder rootFolder disk =>
    match locate rootFolder disk located name hint with
    | (.error e, located) => (.error e, located)
    | (.ok path, located) =>
      match disk.openFile path with
      | .error e => (.error (.templateRead name e), located)
      | .ok (.error e) => (.ok [.fault e], located)
      | .ok (.ok bytes) => (.ok (Signal.ofBytes bytes), located)

end TemplateStore

end Folio
