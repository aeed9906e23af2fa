import Folio.Render.Output
import Folio.Request.PathData
import Folio.Scanner.ByteStream

/-!
# Programs

What a view does when it is rendered, and what a hook of a builder does, is up to those who write
them. It is a program: it asks for something, is given a reply, and goes on as the reply tells it
to. An error is a reply like any other, and a program may end with an error of its own or panic.

The components that a program constructs or brings along have numbers, by which it renders them. It
may render them into the output, or into a text of its own that it goes on with.

A program knows nothing but its replies. So there are none that remember more than they were told,
that catch a panic, that register anything while a page is rendered, that serve a request within a
request, or that see the single writes of a component that they render.

* `Ask`, `Ask.Reply`: what a program may ask for, and what it is told.
* **`Program`**: what is asked, and how to go on with the reply.
* `Program.write`, `Program.createView`, …: single steps that end with the error they are told.
* `Program.scanTemplate`, `Program.scanInline`: templates with a handler for their tags.
* `Program.fillTemplate`, `Program.repeatRecords`: templates filled from models.
-/

namespace Folio

/-- **What a program may ask for.** Only some programs have an output to write into. -/
inductive Ask (writes : Bool)
  /-- Write a text. -/
  | write (h : writes = true) (text : String)
  /-- Render a component into the output. A builder is built once more. -/
  | render (h : writes = true) (number : Nat)
  /-- Render a component into a text of its own. -/
  | capture (number : Nat)
  /-- Put an entry into the journal. -/
  | note (entry : Note)
  /-- Open a template. -/
  | openTemplate (name : String)
  /-- Construct a registered view; a model selects the constructor that takes one. -/
  | createView (identifier : String) (model : Option Model)
  /-- Construct a registered builder. -/
  | createBuilder (identifier : String) (pathData : PathData)

/-- What a program is told: in most cases an error or what it asked for. Of what was constructed it
is told the number. -/
def Ask.Reply {writes : Bool} : Ask writes → Type
  | .write _ _ | .render _ _ => Except RenderError Unit
  | .capture _ => Except RenderError Unit × String
  | .note _ => Unit
  | .openTemplate _ => Except RenderError (List Signal)
  | .createView _ _ | .createBuilder _ _ => Except RenderError Nat

/-- **A program**: what it asks for, and how it goes on with the reply. The components that it
brings along are views in `ν` and builders in `β`. -/
inductive Program (ν β : Type) (writes : Bool) (α : Type)
  | returns (value : α)
  | fails (error : RenderError)
  | panics
  /-- Give a number to a component that was constructed without the registries. -/
  | bring (component : ν ⊕ β) (next : Nat → Program ν β writes α)
  | ask (question : Ask writes) (next : question.Reply → Program ν β writes α)

/-- The three templates of a repeater. -/
structure RepeaterParts where
  header : String
  item : String
  footer : String
  deriving DecidableEq, Inhabited, Repr

/-- The tag of a header that stands for the records. -/
def Render.itemTag : String := "ItemTemplate"

/-- The tag of a header that stands for the footer. -/
def Render.footerTag : String := "FooterTemplate"

namespace Program

variable {ν β : Type} {writes : Bool} {α γ σ : Type}

instance : Inhabited (Program ν β writes α) := ⟨panics⟩

/-- One program after the other. Nothing follows a program that fails or panics. -/
def andThen (program : Program ν β writes α) (f : α → Program ν β writes γ) :
    Program ν β writes γ :=
  match program with
  | returns value => f value
  | fails error => fails error
  | panics => panics
  | bring component next => bring component fun number => (next number).andThen f
  | ask question next => ask question fun reply => (next reply).andThen f

instance : Monad (Program ν β writes) where
  pure := returns
  bind := andThen

/-! ## Steps -/

/-- Go on with what was asked for, or end with the error. -/
def orFail : Except RenderError α → Program ν β writes α
  | .ok value => returns value
  | .error error => fails error

/-- Write a text. -/
def write (text : String) : Program ν β true Unit :=
  ask (.write rfl text) orFail

/-- Render a component. -/
def render (number : Nat) : Program ν β true Unit :=
  ask (.render rfl number) orFail

/-- Put an entry into the journal. -/
def note (entry : Note) : Program ν β writes Unit :=
  ask (.note entry) returns

/-- Open a template. -/
def openTemplate (name : String) : Program ν β writes (List Signal) :=
  ask (.openTemplate name) orFail

/-- Construct a registered view. -/
def createView (identifier : String) (model : Option Model) : Program ν β writes Nat :=
  ask (.createView identifier model) orFail

/-- Construct a registered builder. -/
def createBuilder (identifier : String) (pathData : PathData) : Program ν β writes Nat :=
  ask (.createBuilder identifier pathData) orFail

/-- Give a number to a component. -/
def bringing (component : ν ⊕ β) : Program ν β writes Nat :=
  bring component returns

/-! ## Templates -/

/-- Scan a template. -/
def scanTemplate (options : ScanOptions) (name : String)
    (onTag : String → σ → Program ν β true σ) (memory : σ) : Program ν β true σ := do
  let signals ← openTemplate name
  let (ending, events) :=
    transcript options ((charsOf signals).map fun c => c.mapError (RenderError.templateRead name))
  let memory ← answerEvents write onTag events memory
  orFail ending
  return memory

/-- Scan a text. -/
def scanInline (options : ScanOptions) (text : String)
    (onTag : String → σ → Program ν β true σ) (memory : σ) : Program ν β true σ :=
  answerEvents write onTag (transcript (ε := Empty) options (text.toList.map .ok)).2 memory

/-- Copy a template without scanning it, character by character. -/
def copyTemplate (name : String) : Program ν β true Unit := do
  let signals ← openTemplate name
  (charsOf signals).forM fun c =>
    match c with
    | .ok c => write (String.singleton c)
    | .error e => fails (.templateRead name e)

/-! ## Models -/

/-- Write the value that a model has for a tag. -/
def answerFrom (model : Model) (unmatched : String → Program ν β true Unit) (tag : String) :
    Program ν β true Unit :=
  match model.property tag with
  | some value => write value
  | none => unmatched tag

/-- Fill a template from a model. -/
def fillTemplate (options : ScanOptions) (name : String) (model : Model)
    (unmatched : String → Program ν β true Unit := fun _ => pure ()) : Program ν β true Unit :=
  scanTemplate options name (fun tag _ => answerFrom model unmatched tag) ()

/-- Fill a template per record between a header and a footer, whose tags are filled from the ambient
model. -/
def repeatRecords (options : ScanOptions) (templates : RepeaterParts) (items : List Model)
    (ambient : Model)
    (unmatched : String → Option Model → Program ν β true Unit := fun _ _ => pure ()) :
    Program ν β true Unit :=
  scanTemplate options templates.header (fun tag _ =>
    if tag = Render.itemTag then
      items.forM fun item =>
        fillTemplate options templates.item item fun tag => unmatched tag (some item)
    else if tag = Render.footerTag then
      fillTemplate options templates.footer ambient fun tag => unmatched tag none
    else answerFrom ambient (fun tag => unmatched tag none) tag) ()

end Program

end Folio
