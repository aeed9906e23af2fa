import Folio.Proofs.Scanner.Reading

/-!
# Writing templates

Every document has a template: its literal text is written with each delimiter doubled, and its tags
stand between two delimiters. Neighbouring segments may bring delimiters together; scanning tells
them apart, because the scanner is outside a tag wherever a segment ends.

* `ScanOptions.Names`: the texts that a tag can deliver.
* `ScanOptions.doubled`, **`ScanOptions.written`**: a text and a document as a template.
* `Reads.letters`, `Reads.named`, `Reads.written`: what is written is read as what it was written
  from.
* `scanText_taking`: the events of a text are what a sink takes down that rejects nothing.
* **`scanText_written`**: scanning undoes writing.
-/

namespace Folio

/-- **The names that a tag can deliver.** -/
structure ScanOptions.Names (options : ScanOptions) (name : String) : Prop where
  nonempty : name ≠ ""
  trimmed : trim name = name
  inTag : options.InTag name.toList
  unrooted : ∀ path, name ≠ options.rootedPrefix ++ path

/-- A text with each delimiter doubled. -/
def ScanOptions.doubled (options : ScanOptions) (text : String) : String :=
  String.ofList (text.toList.flatMap fun c => if c = options.delimiter then [c, c] else [c])

/-- **The template of a document.** -/
def ScanOptions.written (options : ScanOptions) : List Event → String
  | [] => ""
  | .literal text :: rest => options.doubled text ++ options.written rest
  | .tag name :: rest =>
    String.singleton options.delimiter ++ name ++ String.singleton options.delimiter ++
      options.written rest

/-! ## What is written can be read -/

section Written

variable {options : ScanOptions}

/-- A text as the literal pieces of its characters. -/
def lettersOf (text : String) : List Event :=
  text.toList.map fun c => .literal (String.singleton c)

theorem joined_lettersOf_append (text : String) (pieces : List Event) :
    joined (lettersOf text ++ pieces) = joinFront text (joined pieces) := by
  unfold lettersOf
  induction h : text.toList generalizing text with
  | nil =>
    rw [String.toList_eq_nil_iff.mp h, joinFront_empty]
    rfl
  | cons c cs ih =>
    have hcs := ih (String.ofList cs) String.toList_ofList
    rw [List.map_cons, List.cons_append, joined, hcs, joinFront_joinFront, ← String.ofList_cons,
      ← h, String.ofList_toList]

theorem Reads.letters {rest : List Char} {pieces : List Event} (hrest : Reads options rest pieces)
    (text : String) :
    Reads options ((options.doubled text).toList ++ rest) (lettersOf text ++ pieces) := by
  unfold ScanOptions.doubled lettersOf
  rw [String.toList_ofList]
  induction text.toList with
  | nil => exact hrest
  | cons c cs ih =>
    rw [List.flatMap_cons, List.map_cons, List.append_assoc]
    split
    · next hc =>
      subst hc
      exact .doubled ih
    · next hc => exact .plain hc ih

theorem Reads.named {rest : List Char} {pieces : List Event} (hrest : Reads options rest pieces)
    {name : String} (hname : options.Names name) :
    Reads options (options.delimiter :: (name.toList ++ options.delimiter :: rest))
      (.tag name :: pieces) := by
  have htrim : trim (String.ofList name.toList) = name := by
    rw [String.ofList_toList, hname.trimmed]
  have htag := Reads.tag hname.inTag (fun h => hname.nonempty (String.toList_eq_nil_iff.mp h))
    (by rw [htrim]; exact hname.unrooted) hrest
  rwa [htrim] at htag

/-- The template of a document reads as the document, but for the way in which it is cut. -/
theorem Reads.written {segments : List Event}
    (hnames : ∀ name, .tag name ∈ segments → options.Names name) :
    ∃ pieces, Reads options (options.written segments).toList pieces ∧
      joined pieces = joined segments := by
  induction segments with
  | nil => exact ⟨[], .done, rfl⟩
  | cons segment segments ih =>
    obtain ⟨pieces, hread, hjoined⟩ :=
      ih fun name hmem => hnames name (List.mem_cons_of_mem _ hmem)
    cases segment with
    | literal text =>
      refine ⟨lettersOf text ++ pieces, ?_, ?_⟩
      · rw [ScanOptions.written, String.toList_append]
        exact hread.letters text
      · rw [joined_lettersOf_append, hjoined, joined]
    | tag name =>
      refine ⟨.tag name :: pieces, ?_, ?_⟩
      · simpa [ScanOptions.written] using hread.named (hnames name List.mem_cons_self)
      · rw [joined, hjoined, joined]

end Written

/-! ## Scanning what is written -/

theorem offerAll_taking (events taken : List Event) :
    offerAll taking events taken = (.ok (), taken ++ events) := by
  induction events generalizing taken with
  | nil => rw [offerAll, List.append_nil]
  | cons event events ih =>
    rw [offerAll, taking]
    exact (ih _).trans (by rw [List.append_assoc, List.singleton_append])

/-- The events of a text are what a sink takes down that rejects nothing. -/
theorem scanText_taking (options : ScanOptions) (text : String) :
    scanText options taking text [] = (.ok (), eventsOf options text) := by
  rw [scanText, scan_eq_offerAll, saidOf_text, offerAll_taking, ending_map_ok, List.nil_append]

/-- The events of a text, literals joined, are the pieces that what is looked at is read as. -/
theorem joined_eventsOf_visible {options : ScanOptions} {text : String} {pieces : List Event}
    (h : Reads options (options.visible text.toList) pieces) :
    joined (eventsOf options text) = joined pieces := by
  rw [eventsOf, Scanner.said_visible, Scanner.joined_said options h, joinFront_empty]

theorem Reads.joined_eventsOf {options : ScanOptions} (hkeep : options.stripLineBreaks = false)
    {text : String} {pieces : List Event} (h : Reads options text.toList pieces) :
    joined (eventsOf options text) = joined pieces :=
  joined_eventsOf_visible (by simpa [ScanOptions.visible, hkeep] using h)

theorem joined_literal (text : String) : joined [.literal text] = literalRun text :=
  List.append_nil _

/-- **Scanning undoes writing.** The template of a document is scanned to the document, literals
joined and empty ones dropped. A text with its delimiters doubled is scanned to that text alone. -/
theorem scanText_written (options : ScanOptions) (hkeep : options.stripLineBreaks = false) :
    (∀ segments : List Event, (∀ name, .tag name ∈ segments → options.Names name) →
      ∃ events, scanText options taking (options.written segments) [] = (.ok (), events) ∧
        joined events = joined segments) ∧
    ∀ text, ∃ events, scanText options taking (options.doubled text) [] = (.ok (), events) ∧
      joined events = literalRun text := by
  have hscan (segments : List Event)
      (hnames : ∀ name, .tag name ∈ segments → options.Names name) :
      ∃ events, scanText options taking (options.written segments) [] = (.ok (), events) ∧
        joined events = joined segments := by
    obtain ⟨pieces, hread, hjoined⟩ := Reads.written hnames
    exact ⟨_, scanText_taking options _, (hread.joined_eventsOf hkeep).trans hjoined⟩
  refine ⟨hscan, fun text => ?_⟩
  have htext := hscan [.literal text] (by simp)
  rwa [joined_literal, ScanOptions.written, ScanOptions.written, String.append_empty] at htext

/-- A literal that ends in a delimiter, two tags side by side, a literal that begins with one. -/
theorem scanText_written_abutting :
    let segments : List Event :=
      [.literal "a@", .tag "x", .tag "y", .literal "", .literal "@\nb", .literal "c"]
    ({} : ScanOptions).stripLineBreaks = false ∧
      (∀ name, .tag name ∈ segments → ({} : ScanOptions).Names name) ∧
      ({} : ScanOptions).written segments = "a@@@x@@y@@@\nbc" ∧
      ∃ events, scanText {} taking "a@@@x@@y@@@\nbc" [] = (.ok (), events) ∧
        joined events = [.literal "a@", .tag "x", .tag "y", .literal "@\nbc"] := by
  intro segments
  have hnames : ∀ name, .tag name ∈ segments → ({} : ScanOptions).Names name := by
    intro name hmem
    have hname : name = "x" ∨ name = "y" := by simpa [segments] using hmem
    rcases hname with rfl | rfl <;>
      exact ⟨by decide, by decide +kernel, by simp [ScanOptions.InTag],
        ScanOptions.rootedPath?_eq_none.mp (by decide +kernel)⟩
  have hwritten : ({} : ScanOptions).written segments = "a@@@x@@y@@@\nbc" := by decide +kernel
  obtain ⟨events, hscan, hjoined⟩ := (scanText_written {} rfl).1 segments hnames
  exact ⟨rfl, hnames, hwritten, events, hwritten ▸ hscan, hjoined.trans (by decide +kernel)⟩

end Folio
