import Folio.Cli.TemplateTool
import Folio.Proofs.Folder.Naming
import Folio.Proofs.Render.Filling
import Folio.Proofs.Request.Selecting
import Folio.Proofs.Scanner.Streaming

/-!
# Two ways to look at a template

The template tool lists the tags of a template, and fills it from a model. The one reads the bytes
of the file as they come. The other reads the file as a whole, keeps it in memory, assembles a site
around it, and scans it there. Both say the events of one text.

* `tagsOf_ofBytes`: what is listed.
* `Piece.forM_noting`, `bindNoting_outcome`: what is printed, and what is reported.
* `mem_missing_iff`: the tags that are reported.
* `Asks`, **`inspections_agree`**: what two command lines say about one template.
-/

namespace Folio

/-! ## Filling and noting -/

namespace Piece

/-- What a piece leaves where a tag without a value leaves nothing. -/
def text : Piece → String
  | .literal text | .value _ text => text
  | .missing _ => ""

/-- What is done about a piece where tags without a value are noted. -/
def act : Piece → Act
  | .literal text | .value _ text => .write text
  | .missing tag => .note (.unmatched tag none)

theorem join_texts_act (pieces : List Piece) :
    String.join (texts (pieces.map act)) = String.join (pieces.map text) := by
  induction pieces with
  | nil => rfl
  | cons piece pieces ih =>
    have hwritten (text : String) :
        String.join (text :: texts (pieces.map act)) =
          String.join (text :: pieces.map Piece.text) := by
      rw [String.join_cons, String.join_cons, ih]
    cases piece with
    | literal text => exact hwritten text
    | value tag text => exact hwritten text
    | missing tag =>
      rw [List.map_cons, List.map_cons, String.join_cons, text, String.empty_append, ← ih]
      rfl

theorem notes_act (pieces : List Piece) :
    notes (pieces.map act) = (pieces.filterMap missing?).map fun tag => .unmatched tag none := by
  induction pieces with
  | nil => rfl
  | cons piece pieces ih =>
    cases piece with
    | literal text => exact ih
    | value tag text => exact ih
    | missing tag => exact congrArg (Note.unmatched tag none :: ·) ih

theorem render_noting (piece : Piece) :
    piece.render (fun tag => Render.note (.unmatched tag none)) = piece.act.perform := by
  cases piece <;> rfl

/-- Writing pieces and noting the tags without a value is doing one thing about each piece. -/
theorem forM_noting (pieces : List Piece) (start : Rendering) :
    pieces.forM (render fun tag => Render.note (.unmatched tag none)) start =
      performAll (pieces.map act) start := by
  induction pieces generalizing start with
  | nil => rfl
  | cons piece pieces ih =>
    change (piece.render _ >>= fun _ => pieces.forM _) start = _
    rw [Render.bind_apply, render_noting, List.map_cons, performAll]
    rcases piece.act.perform start with ⟨_ | _, next⟩
    · rfl
    · exact ih next

end Piece

namespace Cli

open Json (Value)

/-! ## Listing -/

theorem collectTags_all (events : List Event) (tags : List String) :
    offerAll collectTags events tags = (.ok (), (tagNames events).reverse ++ tags) := by
  induction events generalizing tags with
  | nil => rfl
  | cons event events ih =>
    cases event with
    | literal text => exact ih tags
    | tag name =>
      refine (ih (name :: tags)).trans ?_
      simp [tagNames, Event.tagName?]

/-- **What is listed** of bytes that are text: the tags among the events of the text. -/
theorem tagsOf_ofBytes {bytes : List UInt8} {text : String} (h : Utf8.decode? bytes = some text)
    (settings : SiteSettings) (name : String) :
    tagsOf settings name (Signal.ofBytes bytes) =
      (.ok (), tagNames (eventsOf settings.templateOptions (withoutMark text))) := by
  have hchars : (charsOf (Signal.ofBytes bytes)).map
      (fun c => c.mapError (RenderError.templateRead name)) =
        (withoutMark text).toList.map .ok := by
    rw [charsOf_of_decode? h, List.map_map]
    rfl
  rw [tagsOf, scanStream, hchars, scan_eq_offerAll, saidOf_text, collectTags_all]
  simp

/-! ## Filling -/

theorem assemble_templateSite (settings : SiteSettings) (name text : String) :
    ∃ site shared, (templateSite settings name text).assemble = .ok (site, shared) ∧
      site.settings = settings ∧ site.templates = .ofTexts [(name, text)] := by
  let declaration := templateSite settings name text
  let table : RouteTable (Descriptor Builder) := { options := declaration.pathOptions }
  have hroutes : RouteTable.build declaration.routed declaration.pathOptions = .ok table := by
    simp [declaration, table, templateSite, SiteDeclaration.routed, RouteTable.build,
      RouteTable.expanded, RouteTable.compileAll, Except.map]
  refine ⟨{ settings := settings, templates := declaration.templates, routes := table }, {}, ?_,
    rfl, rfl⟩
  rw [SiteDeclaration.assemble, hroutes]
  rfl

/-- Filling a template that is kept as a text is doing one thing about each of its pieces. -/
theorem bindNoting_eq {context : Context} {name text : String}
    (h : context.templates = .ofTexts [(name, text)]) (model : Model) (start : Rendering) :
    bindNoting context name model start =
      performAll ((piecesOf model (eventsOf context.templateOptions (withoutMark text))).map
        Piece.act) start := by
  let signals := Signal.ofBytes (Utf8.encode text)
  have hopen : Render.openTemplate context name start = (.ok signals, start) := by
    simp [Render.openTemplate, h, TemplateStore.ofTexts, TemplateStore.openTemplate,
      TemplateStore.memory?, Except.mapError, signals]
  have hchars : Expansion.charsOfTemplate name signals = (withoutMark text).toList.map .ok := by
    rw [Expansion.charsOfTemplate, charsOf_of_decode? (Utf8.decode?_eq_some_iff.mpr rfl),
      List.map_map]
    rfl
  rw [bindNoting, Render.fillTemplate_eq, Render.bind_apply, hopen]
  simp only [hchars, saidOf_text, ending_map_ok]
  rw [Render.bind_apply, Piece.forM_noting]
  rcases performAll _ start with ⟨_ | _, last⟩ <;> rfl

theorem missingTags_unmatched (tags : List String) :
    missingTags (tags.map fun tag => .unmatched tag none) = tags := by
  rw [missingTags, List.filterMap_map]
  exact List.filterMap_some

/-- What filling a template that is kept as a text leaves: its pieces in the sink, and the tags
without a value in the journal. -/
theorem bindNoting_outcome {context : Context} {name text : String}
    (h : context.templates = .ofTexts [(name, text)]) (model : Model) (shared : Shared) :
    let pieces := piecesOf model (eventsOf context.templateOptions (withoutMark text))
    ∃ outcome last, (bindNoting context name model).outcome? {} shared = some (outcome, last) ∧
      outcome.ending = .returned () ∧ outcome.body = String.join (pieces.map Piece.text) ∧
      missingTags outcome.journal = pieces.filterMap Piece.missing? := by
  intro pieces
  let script : Script Unit := ⟨pieces.map Piece.act, .ok ()⟩
  let start : Rendering := { shared := shared }
  have hrun : bindNoting context name model start = script.perform start := by
    rw [bindNoting_eq h, Script.perform]
    rcases performAll script.acts start with ⟨_ | _, last⟩ <;> rfl
  have hfate := (script.perform_fate start).of_open ⟨rfl, rfl⟩
  unfold Render.outcome?
  rw [hrun]
  revert hfate
  rcases script.perform start with ⟨result, last⟩
  rintro ⟨rfl : result = .ok (), hperformed⟩
  refine ⟨_, _, rfl, rfl, hperformed.text.trans ?_, ?_⟩
  · rw [Piece.join_texts_act]
    exact String.empty_append
  · rw [hperformed.journal, Piece.notes_act, List.append_nil, List.reverse_reverse,
      missingTags_unmatched]

/-- **What filling prints and reports**: the pieces one after the other, and on request the tags
without a value. -/
theorem bindModel_eq (settings : SiteSettings) (name text : String) (model : Model)
    (missing : Bool) :
    let pieces := piecesOf model (eventsOf settings.templateOptions (withoutMark text))
    bindModel settings name text model missing =
      { stdout := String.join (pieces.map Piece.text)
        stderr := lines (if missing then (pieces.filterMap Piece.missing?).map ("missing: " ++ ·)
          else []) } := by
  intro pieces
  obtain ⟨site, shared, hsite, rfl, htemplates⟩ := assemble_templateSite settings name text
  have hkept : (site.context {}).templates = .ofTexts [(name, text)] := htemplates
  obtain ⟨outcome, last, houtcome, hending, hbody, hmissing⟩ :=
    bindNoting_outcome hkept model shared
  unfold bindModel
  rw [hsite]
  dsimp only
  rw [houtcome]
  dsimp only
  rw [hending, hbody, hmissing]
  rfl

/-- **What is reported** where a model was read from a text: the tags for which it selects no
member, or one that is null. -/
theorem mem_missing_iff {source tag : String} {value : Value} {events : List Event}
    (h : Value.parse? source = some value) :
    tag ∈ (piecesOf { value := value } events).filterMap Piece.missing? ↔
      tag ∈ tagNames events ∧ ∀ members key selected, value = .object members →
        Model.Selects members tag key selected → selected = .null := by
  have hnone : (Model.mk value).property tag = none ↔ _ :=
    Model.property_eq_none_iff (Value.ordered_of_parse? h)
  rw [missing_piecesOf, List.mem_filter, Option.isNone_iff_eq_none, hnone]

/-! ## Command lines -/

theorem exists_parsed {β : Type} {words : List String} {f : Invocation → β} {b : β}
    (h : (templateTool.parse words).map f = .ok b) :
    ∃ invocation, templateTool.parse words = .ok invocation ∧ f invocation = b := by
  cases hwords : templateTool.parse words with
  | error refusal =>
    rw [hwords] at h
    cases h
  | ok invocation =>
    rw [hwords] at h
    exact ⟨invocation, rfl, Except.ok.inj h⟩

/-- A file in the root of a disk that has no other. -/
theorem openFile_root (bytes : List UInt8) :
    ({ entries := [(["t"], .file bytes)] } : Disk).openFile "t" = .ok (.ok bytes) := by
  have hsplit : "t".splitOn "/" = ["t"] := by
    rw [splitOn_slash]
    decide +kernel
  have hsize : "t".utf8ByteSize = 1 := by decide +kernel
  have habsolute : isAbsolute "t" = false := by decide +kernel
  have hresolve : ({ entries := [(["t"], .file bytes)] } : Disk).resolve "t" = .ok ["t"] := by
    simp [Disk.resolve, hsize, habsolute, hsplit, Disk.follow, Disk.get?, maxPathBytes,
      maxNameBytes]
  simp [Disk.openFile, hresolve, Disk.get?]

/-- The command line asks for a command about a template, with a configuration that is accepted. -/
structure Asks (disk : Disk) (words : List String) (command : String) (settings : SiteSettings)
    (template : String) (invocation : Invocation) : Prop where
  parsed : templateTool.parse words = .ok invocation
  command : invocation.command = command
  template : invocation.words.argument = some template
  settings : settingsFrom disk.readText (invocation.global.value? "config") = .ok settings

/-- **Listing and filling agree**, for every configuration that is accepted, every file that is text
and every JSON model. Both say the events of the text without its byte order mark. Of the tags that
are listed, those are reported that the model has no value for, in their order and each time; for an
empty object these are all. What is printed is the literal text, with the values of the other tags
and nothing for those that are reported. -/
theorem inspections_agree {disk : Disk} {listing filling : List String} {settings : SiteSettings}
    {template text source : String} {bytes : List UInt8} {value : Value}
    {first second : Invocation} (hlisting : Asks disk listing "tags" settings template first)
    (hfilling : Asks disk filling "bind" settings template second)
    (hreports : (second.words.value? "missing").isSome)
    (hmodel : second.words.value? "model" = some source)
    (hvalue : Value.parse? source = some value)
    (hfile : disk.openFile template = .ok (.ok bytes)) (htext : Utf8.decode? bytes = some text) :
    let events := eventsOf settings.templateOptions (withoutMark text)
    let model : Model := { value := value }
    let reported := (tagNames events).filter fun tag => (model.property tag).isNone
    runTemplateTool disk listing = { stdout := lines (tagNames events) } ∧
    runTemplateTool disk filling =
      { stdout := String.join ((piecesOf model events).map Piece.text)
        stderr := lines (reported.map ("missing: " ++ ·)) } ∧
    reported.Sublist (tagNames events) ∧
    (value = .object [] → reported = tagNames events) := by
  intro events model reported
  refine ⟨?_, ?_, List.filter_sublist, ?_⟩
  · have hcommand : runTemplateTool disk listing = listTags disk settings template := by
      simp only [runTemplateTool, hlisting.parsed, runTemplateCommand, hlisting.settings,
        hlisting.command, hlisting.template]
    rw [hcommand]
    simp only [listTags, hfile, streamOf, tagsOf_ofBytes htext]
    rfl
  · have hcommand : runTemplateTool disk filling =
        bindFile disk settings template source (second.words.value? "missing").isSome := by
      simp only [runTemplateTool, hfilling.parsed, runTemplateCommand, hfilling.settings,
        hfilling.command, hfilling.template, hmodel]
    have hread : disk.readText template = .ok text := by simp only [Disk.readText, hfile, htext]
    rw [hcommand, hreports]
    simp only [bindFile, hvalue, hread, bindModel_eq, missing_piecesOf]
    rfl
  · rintro rfl
    exact List.filter_eq_self.mpr fun tag _ => rfl

/-- A template that begins with a byte order mark, and a model with a value for one of its tags. -/
theorem inspections_agree_marked :
    let disk : Disk := { entries := [(["t"], .file (Utf8.encode "\uFEFFa@x@b@y@@x@"))] }
    let model := "\x7b\"x\": \"1\"\x7d"
    runTemplateTool disk ["tags", "t"] = { stdout := "x\ny\nx\n" } ∧
      runTemplateTool disk ["bind", "--missing", "-m", model, "t"] =
        { stdout := "a1b1", stderr := "missing: y\n" } := by
  intro disk model
  have hfile := openFile_root (Utf8.encode "\uFEFFa@x@b@y@@x@")
  have hlisting : (templateTool.parse ["tags", "t"]).map (fun invocation =>
      (invocation.command, invocation.words.argument, invocation.global.value? "config")) =
        .ok ("tags", some "t", none) := by decide +kernel
  have hfilling : (templateTool.parse ["bind", "--missing", "-m", model, "t"]).map
      (fun invocation => (invocation.command, invocation.words.argument,
        invocation.global.value? "config", invocation.words.value? "missing",
        invocation.words.value? "model")) =
        .ok ("bind", some "t", none, some "", some model) := by decide +kernel
  obtain ⟨first, hfirst, hfields⟩ := exists_parsed hlisting
  obtain ⟨second, hsecond, hfields'⟩ := exists_parsed hfilling
  obtain ⟨hcommand, htemplate, hconfig⟩ : _ ∧ _ ∧ _ := by simpa using hfields
  obtain ⟨hcommand', htemplate', hconfig', hmissing, hmodel⟩ : _ ∧ _ ∧ _ ∧ _ ∧ _ := by
    simpa using hfields'
  obtain ⟨value, hvalue, hvalues⟩ : ∃ value, Value.parse? model = some value ∧
      ["x", "y"].map (Model.property { value := value }) = [some "1", none] :=
    Option.map_eq_some_iff.mp (by decide +kernel)
  have hx : (Model.mk value).property "x" = some "1" := (List.cons.inj hvalues).1
  have hy : (Model.mk value).property "y" = none := (List.cons.inj (List.cons.inj hvalues).2).1
  obtain ⟨hlisted, hfilled, -⟩ := inspections_agree
    (⟨hfirst, hcommand, htemplate, by rw [hconfig]; rfl⟩ : Asks disk _ "tags" {} "t" first)
    (⟨hsecond, hcommand', htemplate', by rw [hconfig']; rfl⟩ : Asks disk _ "bind" {} "t" second)
    (by rw [hmissing]; rfl) hmodel hvalue hfile (Utf8.decode?_eq_some_iff.mpr rfl)
  let events : List Event := [.literal "a", .tag "x", .literal "b", .tag "y", .tag "x"]
  have hevents : eventsOf ({} : SiteSettings).templateOptions
      (withoutMark "\uFEFFa@x@b@y@@x@") = events := by decide +kernel
  have hpieces : piecesOf { value := value } events =
      [.literal "a", .value "x" "1", .literal "b", .missing "y", .value "x" "1"] := by
    simp [piecesOf, Piece.ofEvent, events, hx, hy]
  have hreported : ((tagNames events).filter
      fun tag => ((Model.mk value).property tag).isNone) = ["y"] := by
    rw [show tagNames events = ["x", "y", "x"] from rfl]
    simp [hx, hy]
  rw [hevents] at hlisted hfilled
  rw [hpieces, hreported] at hfilled
  exact ⟨hlisted.trans (by decide +kernel), hfilled.trans (by decide +kernel)⟩

end Cli

end Folio
