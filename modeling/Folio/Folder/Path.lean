/-!
# Paths

A path is a text with slashes. Two paths are compared by their components, so repeated slashes,
slashes at the end and single dots in the middle make no difference.

* `joinPath`: a path seen from a folder.
* `PathPart`, `components`: what a path is made of.
* **`endsWith`**: does a path end with the components of another?
-/

namespace Folio

/-- Does the path begin at the root? -/
def isAbsolute (path : String) : Bool :=
  path.toList.head? == some '/'

/-- A path seen from a folder; an absolute one stays as it is. -/
def joinPath (folder path : String) : String :=
  if isAbsolute path || folder.isEmpty then path
  else if folder.toList.getLast? = some '/' then folder ++ path
  else folder ++ "/" ++ path

/-- A part of a path. -/
inductive PathPart
  | root
  /-- A single dot at the very beginning. -/
  | here
  | up
  | name (name : String)
  deriving DecidableEq, Inhabited, Repr

/-- What a path is made of. -/
def components (path : String) : List PathPart :=
  let parts := path.splitOn "/"
  let first : List PathPart :=
    if isAbsolute path then [.root] else if parts.head? = some "." then [.here] else []
  first ++ parts.filterMap fun part =>
    if part = "" || part = "." then none
    else if part = ".." then some .up
    else some (.name part)

/-- **Does the path end with the components of `tail`?** -/
def endsWith (path tail : String) : Bool :=
  (components tail).isSuffixOf (components path)

end Folio
