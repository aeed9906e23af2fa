import Folio.Registry.Basic
import Folio.Text.Quoted

/-!
# Pages

A page is what a builder assembles: a master template, and the components that its tags stand for.

* `MasterTemplate`: the name of a template, or the text of one.
* `Component`: a view or a builder.
* **`Page`**: components by tag, in the order of each tag's last registration.
* `PageCall`, **`Page.after`**: the calls by which a page is composed, and the page after them.
* **`classify`**: what a tag stands for. A page's own components come before the site's builders.
-/

namespace Folio

/-- Where a master template comes from. -/
inductive MasterTemplate
  | file (name : String)
  | text (text : String)
  deriving DecidableEq, Inhabited, Repr

/-- What a tag of a page stands for: a view, or a builder with a name for messages. -/
inductive Component (ν β : Type)
  | view (view : ν)
  | builder (name : String) (builder : β)

/-- **A master template and the components of its tags.** -/
structure Page (κ : Type) where
  master : Option MasterTemplate := none
  components : List (String × κ) := []

namespace Page

variable {κ : Type}

/-- Choose the master template; the last choice counts. -/
def setMaster (page : Page κ) (source : MasterTemplate) : Page κ :=
  { page with master := some source }

/-- Put a component under a tag; the tag moves to the end. -/
def register (page : Page κ) (tag : String) (component : κ) : Page κ :=
  { page with
    components := page.components.filter (fun entry => entry.1 ≠ tag) ++ [(tag, component)] }

/-- The component of a tag. -/
def component? (page : Page κ) (tag : String) : Option κ :=
  (page.components.find? fun entry => entry.1 = tag).map Prod.snd

/-- Does a tag have a component? -/
def contains (page : Page κ) (tag : String) : Bool :=
  page.components.any fun entry => entry.1 = tag

/-- The tags, in the order of registration. -/
def tags (page : Page κ) : List String :=
  page.components.map Prod.fst

/-- The number of tags. -/
def size (page : Page κ) : Nat :=
  page.components.length

/-- The page with its components changed. -/
def map {κ' : Type} (f : κ → κ') (page : Page κ) : Page κ' where
  master := page.master
  components := page.components.map fun entry => (entry.1, f entry.2)

end Page

/-! ## Composing -/

/-- A call on a page that is being composed. -/
inductive PageCall (κ : Type)
  | setMaster (source : MasterTemplate)
  | register (tag : String) (component : κ)

/-- The page after one more call. -/
def Page.next {κ : Type} (page : Page κ) : PageCall κ → Page κ
  | .setMaster source => page.setMaster source
  | .register tag component => page.register tag component

/-- **The page after calls.** -/
def Page.after {κ : Type} (page : Page κ) (calls : List (PageCall κ)) : Page κ :=
  calls.foldl Page.next page

/-! ## Resolution -/

/-- The four things that a tag may stand for. -/
inductive Resolution
  /-- A view registered on the page. -/
  | subView
  /-- A builder registered on the page. -/
  | subBuilder
  /-- A builder of the site. -/
  | builder
  | unresolved
  deriving DecidableEq, Inhabited, Repr

/-- The name of a resolution. -/
def Resolution.name : Resolution → String
  | .subView => "SubView"
  | .subBuilder => "SubBuilder"
  | .builder => "Builder"
  | .unresolved => "Unresolved"

/-- **What a tag stands for.** -/
def classify {ν β γ : Type} (tag : String) (page : Page (Component ν β)) (builders : Registry γ) :
    Resolution :=
  match page.component? tag with
  | some (.view _) => .subView
  | some (.builder ..) => .subBuilder
  | none => if builders.contains tag then .builder else .unresolved

/-! ## Descriptions -/

/-- A source as written for people to read. -/
def MasterTemplate.describe : MasterTemplate → String
  | .file name => "File(" ++ quoteText name ++ ")"
  | .text content => "Text(" ++ quoteText content ++ ")"

/-- A component as written for people to read. -/
def Component.describe {ν β : Type} : Component ν β → String
  | .view _ => "Component::View"
  | .builder name _ => "Component::Builder(" ++ name ++ ")"

/-- A page as written for people to read. -/
def Page.describe {ν β : Type} (page : Page (Component ν β)) : String :=
  let master := page.master.elim "None" fun source => "Some(" ++ source.describe ++ ")"
  let components := page.components.map fun entry =>
    quoteText entry.1 ++ ": " ++ entry.2.describe
  "Page \x7b master: " ++ master ++ ", views: ViewRegistry \x7b components: \x7b" ++
    ", ".intercalate components ++ "\x7d \x7d \x7d"

end Folio
