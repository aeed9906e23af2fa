import Folio.Site.Basic

/-!
# The demonstration site

A small site of documents. Its layout pulls in a builder of the site for the navigation, the list of
documents is a repeater, and each document fills a template from its model.

In the namespace `Demonstration`:

* `templates`: its templates by name.
* `home`, `docs`, `nav`, `notFound`: its builders.
* **`declaration`**: the site, with the given configuration and templates.
-/

namespace Folio.Demonstration

open Json (Value)

/-! ## Templates -/

/-- Lines, each with a line feed after it. -/
def text (lines : List String) : String :=
  String.join (lines.map (· ++ "\n"))

/-- The frame of every page. -/
def layout : String := text [
  "<!doctype html>",
  "<html>",
  "<head><title>@Title@ | @SiteName@</title></head>",
  "<body>",
  "@nav@",
  "<main>@Body@</main>",
  "<footer>Served from @~/@ (contact: support@@example.com)</footer>",
  "</body>",
  "</html>"]

/-- The templates by name. -/
def templates : List (String × String) := [
  ("layout.html", layout),
  ("home.html", text [
    "<h1>Welcome to @SiteName@</h1>",
    "<p>@Tagline@</p>",
    "<p><a href=\"@~/docs@\">Browse the documentation</a></p>"]),
  ("docs-list.html", text [
    "<h1>@Heading@</h1>",
    "<ul>",
    "@ItemTemplate@",
    "</ul>"] ++ "@FooterTemplate@"),
  ("docs-item.html", text ["<li><a href=\"@~/docs/@@Slug@\">@Title@</a></li>"]),
  ("docs-footer.html", text ["<p>@Count@ documents</p>"]),
  ("doc.html", text [
    "<article>",
    "<h1>@Title@</h1>",
    "<p>@Body@</p>",
    "</article>"])]

/-! ## Documents -/

/-- A document. -/
structure Doc where
  slug : String
  title : String
  body : String
  deriving DecidableEq, Inhabited, Repr

/-- All documents. -/
def docList : List Doc := [
  ⟨"intro", "Introduction", "Builders choose a master template and fill its tags."⟩,
  ⟨"routing", "Routing", "Routes are regular expressions over the app-relative path."⟩,
  ⟨"views", "Views", "Views are leaves: content, raw templates or bound models."⟩]

/-- The model with these properties. -/
def record (members : List (String × Value)) : Model :=
  { value := Value.ofMembers members }

/-- The model of the site. -/
def frameModel : Model := record [
  ("SiteName", .string "quire"),
  ("Tagline", .string "Pages composed from templates, views and builders.")]

/-! ## Builders -/

/-- The page of a master template and views. -/
def composition (master : MasterTemplate) (views : List (String × View)) :
    Hook (List (PageCall Nat)) :=
  .assemble master (views.map fun (tag, view) => (tag, .inl view))

/-- The properties of the site's model as views. -/
def siteViews (model : Model) : List (String × View) :=
  ["SiteName", "Tagline"].filterMap fun tag =>
    (model.property tag).map fun value => (tag, .content value)

/-- A builder with a model and a composition. -/
def builder (name : String) (model : Option Model)
    (compose : Model → Hook (List (PageCall Nat))) : Builder :=
  .mk name [] (fun _ _ => return .null) (fun _ _ memory => return (memory, model))
    (fun _ _ _ model => compose (model.getD {}))

/-- The page at the root. -/
def home : Builder :=
  builder "HomeBuilder" (some frameModel) fun model =>
    composition (.file "layout.html")
      ([("Title", .content "Home")] ++ siteViews model ++
        [("Body", .modelTemplate "home.html" model)])

/-- The list of documents. -/
def docsList : View :=
  .repeater ⟨"docs-list.html", "docs-item.html", "docs-footer.html"⟩
    (docList.map fun doc => record [("Slug", .string doc.slug), ("Title", .string doc.title)])
    (record [("Heading", .string "Documentation"),
      ("Count", .number (.integer docList.length))])

/-- Title and body of the page of a document, or of the list of all documents. -/
def docsViews (slug : Option String) : List (String × View) :=
  match slug with
  | none => [("Title", .content "Documentation"), ("Body", docsList)]
  | some slug =>
    match docList.find? fun doc => doc.slug = slug with
    | some doc =>
      let model := record [("Title", .string doc.title), ("Body", .string doc.body)]
      [("Title", .content doc.title), ("Body", .modelTemplate "doc.html" model)]
    | none =>
      [("Title", .content "Unknown document"),
        ("Body", .content ("<p>No document named " ++ slug ++ ".</p>"))]

/-- The pages of the documents. -/
def docs (args : ConstructorArgs) : Builder :=
  let slug := (args.pathData.get? "slug").filter (· ≠ "")
  builder "DocsBuilder" (some frameModel) fun model =>
    composition (.file "layout.html") (siteViews model ++ docsViews slug)

/-- The navigation. -/
def nav : Builder :=
  .plain "NavBuilder"
    (.text "<nav><a href=\"@~/@\">Home</a> | <a href=\"@~/docs@\">Docs</a></nav>")

/-- The page of paths that are nowhere. -/
def notFound (args : ConstructorArgs) : Builder :=
  builder "NotFoundBuilder" none fun _ =>
    composition (.file "layout.html")
      (siteViews frameModel ++ [("Title", .content "Not found"),
        ("Body", .content ("<p>Nothing lives at " ++ args.request.path ++ ".</p>"))])

/-! ## The site -/

/-- A descriptor with a constructor that takes no model. -/
def descriptor (typeName : String) (constructor : Constructor Builder) :
    Fresh (Descriptor Builder) := do
  (← Descriptor.ofType typeName).withConstructor .context constructor

/-- The builders of the site; the last one serves the paths that are nowhere. -/
def builders : Fresh (List BuilderDeclaration × Descriptor Builder) := do
  let home ← descriptor "HomeBuilder" fun _ => home
  let docs ← descriptor "DocsBuilder" docs
  let nav ← descriptor "NavBuilder" fun _ => nav
  let notFound ← descriptor "NotFoundBuilder" notFound
  let docsRoutes : List RouteDeclaration :=
    [⟨0, "/?$", priorityOfStem⟩, ⟨1, "/(?P<slug>[a-z0-9-]+)/?$", 5⟩]
  return ([{ descriptor := home },
    { descriptor := docs, routes := docsRoutes },
    { descriptor := nav, identifier := some "nav", routes := [⟨0, "^~/nav-preview$", 1⟩] }],
    notFound)

/-- **The demonstration site**, with the given configuration and templates. -/
def declaration (settings : SiteSettings) (store : TemplateStore) : SiteDeclaration :=
  let ((builders, notFound), _) := builders 1
  { settings := settings, templates := store, builders := builders, notFound := some notFound }

end Folio.Demonstration
