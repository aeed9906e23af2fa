import Folio.Render.Basic

/-!
# Templates into the sink

Templates are scanned into the sink: literal text is written as it is, and tags are answered by a
handler. A handler may remember something from one tag of a template to the next.

* `TagHandler`: answers the tags of one template.
* **`Render.scanTemplate`**, `Render.scanInline`: scan a template, or a text.
* `Render.expandTemplate`, `Render.expandText`: the same with handlers that remember nothing.
* `Render.copyTemplate`: copy a template, `templateText`: its text as a whole.
-/

namespace Folio

/-- Answers a tag, given what it remembers from the tags before. -/
abbrev TagHandler (σ : Type) := String → σ → Render σ

namespace Render

/-- The sink of a scan: literal text is written and tags go to the handler. -/
def offerTo {σ : Type} (onTag : TagHandler σ) : Offer Failure (σ × Rendering) :=
  fun event (memory, rendering) =>
    match event with
    | .literal text =>
      match write text rendering with
      | (outcome, rendering) => (outcome, (memory, rendering))
    | .tag name =>
      match onTag name memory rendering with
      | (.ok memory, rendering) => (.ok (), (memory, rendering))
      | (.error e, rendering) => (.error e, (memory, rendering))

/-- **Scan a template.** -/
def scanTemplate {σ : Type} (context : Context) (name : String) (onTag : TagHandler σ)
    (memory : σ) : Render Unit := do
  let signals ← openTemplate context name
  fun rendering =>
    match scanStream (fun e => .error (.templateRead name e)) signals context.templateOptions
      (offerTo onTag) (memory, rendering) with
    | (outcome, (_, rendering)) => (outcome, rendering)

/-- Scan a text. -/
def scanInline {σ : Type} (context : Context) (text : String) (onTag : TagHandler σ)
    (memory : σ) : Render Unit := fun rendering =>
  match scanText context.textOptions (offerTo onTag) text (memory, rendering) with
  | (outcome, (_, rendering)) => (outcome, rendering)

/-- Scan a template, with a handler that remembers nothing. -/
def expandTemplate (context : Context) (name : String) (onTag : String → Render Unit) :
    Render Unit :=
  scanTemplate context name (fun tag _ => onTag tag) ()

/-- Scan a text, with a handler that remembers nothing. -/
def expandText (context : Context) (text : String) (onTag : String → Render Unit) : Render Unit :=
  scanInline context text (fun tag _ => onTag tag) ()

/-- Copy a template without scanning it, character by character. -/
def copyTemplate (context : Context) (name : String) : Render Unit := do
  let signals ← openTemplate context name
  (charsOf signals).forM fun c =>
    match c with
    | .ok c => write (String.singleton c)
    | .error e => fail (.templateRead name e)

/-- The whole text of a template. -/
def templateText (context : Context) (name : String) : Render String := do
  let signals ← openTemplate context name
  match textOf signals with
  | .ok text => return text
  | .error e => fail (.templateRead name e)

end Render

end Folio
