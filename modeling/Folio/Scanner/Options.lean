/-!
# Scan options

* `ScanOptions`: the delimiter of tags, the prefix of rooted tags and what it stands for, and
  whether line breaks are dropped.
* `appRootAt`: a virtual path between slashes.
* **`ScanOptions.rootedPath?`**: the path that a rooted tag stands for.
-/

namespace Folio

/-- How a template is scanned. -/
structure ScanOptions where
  /-- Opens and closes a tag; written twice it stands for itself. -/
  delimiter : Char := '@'
  /-- A tag that begins with this is a path below the application root. -/
  rootedPrefix : String := "~/"
  /-- The application root. -/
  appRoot : String := "/"
  /-- Drop line breaks before anything else is looked at. -/
  stripLineBreaks : Bool := false
  deriving DecidableEq, Inhabited, Repr

/-- A virtual path that begins and ends with a slash. -/
def appRootAt (virtualPath : String) : String :=
  let opened := if virtualPath.toList.head? = some '/' then virtualPath else "/" ++ virtualPath
  if opened.toList.getLast? = some '/' then opened else opened ++ "/"

/-- What follows `start` in a text that begins with it. -/
def dropStart? (start text : String) : Option String :=
  if start.toList.isPrefixOf text.toList then
    some (String.ofList (text.toList.drop start.toList.length))
  else none

/-- The path that a rooted tag stands for; none if the tag is not rooted. -/
def ScanOptions.rootedPath? (options : ScanOptions) (name : String) : Option String :=
  (dropStart? options.rootedPrefix name).map fun rest => options.appRoot ++ rest

end Folio
