import Folio.Render.Template

/-!
# Binding models

Every tag of a template is answered with the property of a model that has its name. A tag without a
value is answered by a callback, which by default does nothing.

* **`Render.fillTemplate`**, `Render.fillText`: fill a template, or a text, from a model.
* **`Render.repeatRecords`**: fill a template per record between a header and a footer.
-/

namespace Folio

namespace Render

/-- Write the value that a model has for a tag. -/
def answerFrom (model : Model) (unmatched : String → Render Unit) (tag : String) :
    Render Unit :=
  match model.property tag with
  | some value => write value
  | none => unmatched tag

/-- **Fill a template from a model.** -/
def fillTemplate (context : Context) (name : String) (model : Model)
    (unmatched : String → Render Unit := fun _ => pure ()) : Render Unit :=
  expandTemplate context name (answerFrom model unmatched)

/-- Fill a text from a model. -/
def fillText (context : Context) (text : String) (model : Model)
    (unmatched : String → Render Unit := fun _ => pure ()) : Render Unit :=
  expandText context text (answerFrom model unmatched)

/-! ## Repeaters -/

/-- **Fill a template per record.** The header's tags are filled from the ambient model, but for the
two that stand for the records and for the footer. The callback is told the record, if there is one.
-/
def repeatRecords (context : Context) (templates : RepeaterParts) (items : List Model)
    (ambient : Model) (unmatched : String → Option Model → Render Unit := fun _ _ => pure ()) :
    Render Unit :=
  expandTemplate context templates.header fun tag =>
    if tag = itemTag then
      items.forM fun item =>
        fillTemplate context templates.item item fun tag => unmatched tag (some item)
    else if tag = footerTag then
      fillTemplate context templates.footer ambient fun tag => unmatched tag none
    else answerFrom ambient (fun tag => unmatched tag none) tag

end Render

end Folio
