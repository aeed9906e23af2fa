import Folio.Error
import Folio.Pattern.Expression
import Folio.Request.PathData
import Folio.Route.Declaration
import Folio.Text.Quoted
import Folio.Text.Utf8

/-!
# The route table

The routes of all builders, compiled and put in order: by priority, then by pattern, the greatest
first. A request path is made relative to the application root and given to the first route that
matches it.

* `RoutedBuilder`: a handler with the routes it declares.
* `Route`, `RouteTable`: a compiled route, and all of them.
* **`RouteTable.build`**: compile the routes. No two may have one pattern.
* `RouteTable.appRelative?`: a path relative to the application root, written after `~/`.
* **`RouteTable.resolve`**: where a request path leads.
-/

namespace Folio

/-- A handler of requests, the name of its type and the routes it declares. -/
structure RoutedBuilder (η : Type) where
  typeName : String
  handler : η
  declared : List RouteDeclaration

/-- A compiled route. -/
structure Route (η : Type) where
  id : Int
  priority : Int
  pattern : String
  expression : Pattern.Expression
  typeName : String
  handler : η

/-- How paths are matched. -/
structure PathOptions where
  /-- The application root, between slashes. -/
  appRoot : String := "/"
  lowercasePaths : Bool := true
  deriving DecidableEq, Inhabited, Repr

/-- The options for the application at a virtual path. -/
def PathOptions.ofPath (virtualPath : String) (lowercasePaths : Bool) : PathOptions :=
  { appRoot := appRootAt virtualPath, lowercasePaths := lowercasePaths }

/-- The routes in the order in which they are tried, and the handler of all other paths. -/
structure RouteTable (η : Type) where
  routes : List (Route η) := []
  /-- The handler of paths that no route matches, with the name of its type. -/
  fallback : Option (String × η) := none
  options : PathOptions := {}

/-- Where a request path leads. -/
structure Destination (η : Type) where
  routeId : Int
  priority : Int
  /-- The pattern that matched; none for the fallback. -/
  pattern : Option String
  typeName : String
  handler : η
  pathData : PathData
  fallback : Bool

variable {η : Type}

namespace Route

/-- The parameters of a path that the route matches. -/
def parameters? (route : Route η) (path : String) : Option PathData :=
  (route.expression.captures? path).map PathData.ofList

/-- Does the first route stand before the second, or are they alike? -/
def before (a b : Route η) : Bool :=
  b.priority < a.priority || (a.priority == b.priority && b.pattern ≤ a.pattern)

/-- A route as written for people to read. -/
def describe (route : Route η) : String :=
  "Route \x7b id: " ++ toString route.id ++ ", priority: " ++ toString route.priority ++
    ", pattern: " ++ quoteText route.pattern ++ ", handler: " ++ quoteText route.typeName ++ " \x7d"

end Route

namespace RouteTable

/-- Compile one expanded route; `seen` holds the patterns before it. -/
def compile (typeName : String) (handler : η) (seen : List String) (decl : RouteDeclaration) :
    Except ConfigurationError (Route η) :=
  if seen.contains decl.pattern then .error (.duplicatePattern typeName decl.pattern)
  else
    match Pattern.compile? decl.pattern with
    | none => .error (.invalidPattern typeName decl.pattern)
    | some expression =>
      .ok ⟨decl.id, decl.priority, decl.pattern, expression, typeName, handler⟩

/-- Compile expanded routes one after the other. -/
def compileAll (seen : List String) :
    List (RoutedBuilder η × RouteDeclaration) → Except ConfigurationError (List (Route η))
  | [] => .ok []
  | (builder, decl) :: rest =>
    match compile builder.typeName builder.handler seen decl with
    | .error e => .error e
    | .ok route => (compileAll (decl.pattern :: seen) rest).map (route :: ·)

/-- The expanded routes of all builders, in the order in which they are declared. -/
def expanded (builders : List (RoutedBuilder η)) : List (RoutedBuilder η × RouteDeclaration) :=
  builders.flatMap fun builder =>
    (contributedRoutes builder.typeName builder.declared).map fun decl => (builder, decl)

/-- **Compile the routes of all builders.** -/
def build (builders : List (RoutedBuilder η)) (options : PathOptions) :
    Except ConfigurationError (RouteTable η) :=
  (compileAll [] (expanded builders)).map fun routes =>
    { routes := routes.mergeSort Route.before, options := options }

/-- The table with a handler for the paths that no route matches. -/
def fallingBackTo (table : RouteTable η) (typeName : String) (handler : η) : RouteTable η :=
  { table with fallback := some (typeName, handler) }

/-- The number of routes. -/
def size (table : RouteTable η) : Nat :=
  table.routes.length

/-- A text without the slashes at its end. -/
def trimSlashes (text : String) : String :=
  String.ofList (text.toList.reverse.dropWhile (· == '/')).reverse

/-- What follows the application root in a path, up to the case of the letters A to Z. The root may
lack the slashes at its end. -/
def belowRoot? (root path : String) : Option String :=
  let bare := if asciiEqual path (trimSlashes root) then some "" else none
  match Utf8.splitText? root.utf8ByteSize path with
  | some (start, rest) => if asciiEqual start root then some rest else bare
  | none => bare

/-- A path relative to the application root; none if it lies outside. -/
def appRelative? (table : RouteTable η) (path : String) : Option String :=
  (belowRoot? table.options.appRoot path).map fun rest =>
    let relative := "~/" ++ rest
    if table.options.lowercasePaths then lowercase relative else relative

/-- Where a route leads. -/
def destination (route : Route η) (pathData : PathData) : Destination η :=
  { routeId := route.id, priority := route.priority, pattern := some route.pattern,
    typeName := route.typeName, handler := route.handler, pathData := pathData, fallback := false }

/-- Where the first route leads that matches a relative path. -/
def firstMatch? (table : RouteTable η) (relative : String) : Option (Destination η) :=
  table.routes.findSome? fun route => (route.parameters? relative).map (destination route)

/-- Where every other path leads. -/
def fallbackMatch? (table : RouteTable η) : Option (Destination η) :=
  table.fallback.map fun (typeName, handler) =>
    { routeId := 0, priority := 0, pattern := none, typeName := typeName, handler := handler,
      pathData := {}, fallback := true }

/-- **Where a request path leads.** -/
def resolve (table : RouteTable η) (path : String) : Option (Destination η) :=
  match (table.appRelative? path).bind table.firstMatch? with
  | some found => some found
  | none => table.fallbackMatch?

end RouteTable

end Folio
