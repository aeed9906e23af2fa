import Folio.Render.Page
import Folio.Route.Table

/-!
# Sites

A site is declared by its configuration, its templates, its views and its builders. Assembling it
registers the views and the named builders and compiles the routes of all builders; what is wrong
with a declaration shows there, before any request is served.

* `BuilderDeclaration`, `SiteDeclaration`: a builder with its identifier and routes, and all of a
  site.
* **`Site`**: what no request changes.
* **`SiteDeclaration.assemble`**: the site of a declaration, and its registries.
-/

namespace Folio

/-- A builder as declared to a site. -/
structure BuilderDeclaration where
  descriptor : Descriptor Builder
  /-- The tag that the builder is registered under; the empty one means the name of its type. -/
  identifier : Option String := none
  routes : List RouteDeclaration := []

/-- The tag that a definition is registered under. -/
def BuilderDeclaration.effectiveIdentifier (definition : BuilderDeclaration) : Option String :=
  definition.identifier.map fun identifier =>
    if identifier = "" then definition.descriptor.typeName else identifier

/-- All that a site is assembled from. -/
structure SiteDeclaration where
  settings : SiteSettings := {}
  templates : TemplateStore
  builders : List BuilderDeclaration := []
  views : List (String × Descriptor View) := []
  /-- Serves the paths that no route matches. -/
  notFound : Option (Descriptor Builder) := none

/-- **What no request changes.** -/
structure Site where
  settings : SiteSettings
  templates : TemplateStore
  routes : RouteTable (Descriptor Builder)

/-- What a request to the site is rendered with. -/
def Site.context (site : Site) (request : Request) : Context :=
  { request := request
    templates := site.templates
    searchRoot := site.settings.templates.searchRoot
    textOptions := site.settings.textOptions
    templateOptions := site.settings.templateOptions }

/-- Register descriptors one after the other. -/
def Registry.registerAll {α : Type} (registry : Registry α) :
    List (String × Descriptor α) → Except ConfigurationError (Registry α)
  | [] => .ok registry
  | (identifier, descriptor) :: rest =>
    match registry.register identifier descriptor with
    | .error e => .error e
    | .ok registry => registry.registerAll rest

namespace SiteDeclaration

/-- The builders that are registered under a tag. -/
def named (declaration : SiteDeclaration) : List (String × Descriptor Builder) :=
  declaration.builders.filterMap fun definition =>
    definition.effectiveIdentifier.map fun identifier => (identifier, definition.descriptor)

/-- The builders with the routes they declare. -/
def routed (declaration : SiteDeclaration) : List (RoutedBuilder (Descriptor Builder)) :=
  declaration.builders.map fun definition =>
    ⟨definition.descriptor.typeName, definition.descriptor, definition.routes⟩

/-- How the paths of requests are matched. -/
def pathOptions (declaration : SiteDeclaration) : PathOptions :=
  let settings := declaration.settings
  PathOptions.ofPath settings.app.virtualPath settings.routing.lowercasePaths

/-- **Assemble a site**: views first, then the builders' identifiers, then the routes. -/
def assemble (declaration : SiteDeclaration) : Except ConfigurationError (Site × Shared) := do
  let views ← Registry.registerAll { kind := "view" } declaration.views
  let builders ← Registry.registerAll { kind := "builder" } declaration.named
  let table ← RouteTable.build declaration.routed declaration.pathOptions
  let routes := declaration.notFound.elim table fun descriptor =>
    table.fallingBackTo descriptor.typeName descriptor
  let site : Site :=
    { settings := declaration.settings, templates := declaration.templates, routes := routes }
  return (site, { views := views, builders := builders })

end SiteDeclaration

/-- A site as written for people to read. -/
def Site.describe (site : Site) (shared : Shared) : String :=
  "Site \x7b views: " ++ quoteTexts shared.views.identifiers ++ ", builders: " ++
    quoteTexts shared.builders.identifiers ++ ", routes: " ++ toString site.routes.size ++ " \x7d"

end Folio
