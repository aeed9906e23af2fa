import Folio.Proofs.Render.Script
import Folio.Proofs.Scanner.Buffering
import Folio.Proofs.Scanner.Decoding
import Folio.Render.Template

/-!
# Three ways to read a template

A template can be read as a whole, copied character by character, or scanned. The whole is decoded
at once; the others decode as they go, and write what they have decoded until they meet what cannot
be decoded. They accept the same bytes, and where a template has no delimiter they write the same
text, but for what the scanner holds back when it fails.

* `Scanner.moves_undelimited`: what is said of text without a delimiter.
* `Sink.Open.write`: writing into a sink that takes every text.
* `Render.templateText_ofBytes`, `Render.copyTemplate_ofBytes`, `Render.scanTemplate_ofBytes`: each
  way to read bytes.
* `TagHandler.Unfailing`: handlers that never fail; `Render.offerAll_unfailing`,
  `Render.offerAll_untagged`: what becomes of events.
* **`Render.accesses_agree`**: how the three ways are related, for all bytes.
-/

namespace Folio

variable {σ : Type}

/-! ## Text without a delimiter -/

namespace Scanner

theorem empty_lt_flushBytes : "".utf8ByteSize < flushBytes := by decide

theorem pushPlain_pending_lt (s : Scanner) (c : Char) :
    (s.pushPlain taking c []).scanner.pending.utf8ByteSize < flushBytes := by
  unfold pushPlain
  dsimp only
  split
  · rw [flush_taking]
    exact empty_lt_flushBytes
  · next hsize => exact Nat.lt_of_not_ge hsize

/-- **Text without a delimiter** is said as it is, but for an end that is shorter than the limit. -/
theorem moves_undelimited {options : ScanOptions} (hkeep : options.stripLineBreaks = false)
    {cs : List Char} (h : options.delimiter ∉ cs) :
    let now := ({} : Scanner).moves options cs
    now.2.mode = .literal ∧ tagNames now.1 = [] ∧
      literalText now.1 ++ now.2.pending = String.ofList cs ∧
      now.2.pending.utf8ByteSize < flushBytes := by
  induction cs using List.reverseRecOn with
  | nil => exact ⟨rfl, rfl, rfl, empty_lt_flushBytes⟩
  | append_singleton cs c ih =>
    rw [List.mem_append, List.mem_singleton, not_or] at h
    obtain ⟨hmode, htags, htext, -⟩ := ih h.1
    rw [moves_concat]
    generalize ({} : Scanner).moves options cs = now at hmode htags htext ⊢
    obtain ⟨events, mode, p⟩ := now
    dsimp only at hmode htags htext ⊢
    obtain rfl : mode = .literal := hmode
    have hseen : (options.stripLineBreaks && isLineBreak c) = false := by rw [hkeep]; rfl
    have hturn : ScanMode.literal.turn options c =
        { mode := .literal, added := String.singleton c } := by
      simp [ScanMode.turn, hkeep, Ne.symm h.2]
    obtain ⟨hmode', hkept, htags'⟩ := move_turn options { pending := p } c
    rw [hturn] at hmode' hkept htags'
    refine ⟨hmode', ?_, ?_, ?_⟩
    · rw [tagNames_append, htags, htags']
      rfl
    · rw [literalText_append, String.append_assoc, hkept, ← String.append_assoc, htext,
        String.ofList_append]
      rfl
    · rw [move_keeping options _ hseen, move_plain options p (Ne.symm h.2)]
      exact pushPlain_pending_lt _ c

end Scanner

/-! ## Sinks that take every text -/

theorem Sink.Open.write {start : Rendering} (h : start.sink.Open) (text : String) :
    ∃ last, Render.write text start = (.ok (), { start with sink := last }) ∧
      last.text = start.sink.text ++ text ∧ last.Open :=
  ⟨_, Render.write_taken (h.taken text), Sink.offer_taken (h.taken text), h.offer text⟩

/-- A handler that never fails, and leaves open a sink that takes every text. -/
def TagHandler.Unfailing (onTag : TagHandler σ) : Prop :=
  ∀ tag memory start, start.sink.Open →
    ∃ memory' last, onTag tag memory start = (.ok memory', last) ∧ last.sink.Open

/-- A handler that only writes. -/
theorem TagHandler.unfailing_write (text : String → String) :
    TagHandler.Unfailing fun tag (_ : Unit) => Render.write (text tag) := by
  intro tag memory start h
  obtain ⟨last, hwrite, -, hlast⟩ := h.write (text tag)
  exact ⟨(), { start with sink := last }, hwrite, hlast⟩

namespace Render

/-- Literal events are written, whatever the handler. -/
theorem offerAll_untagged {events : List Event} (htags : tagNames events = []) (start : Rendering)
    (h : start.sink.Open) :
    ∃ last, last.text = start.sink.text ++ literalText events ∧
      ∀ (σ : Type) (onTag : TagHandler σ) (memory : σ),
        offerAll (offerTo onTag) events (memory, start) =
          (.ok (), (memory, { start with sink := last })) := by
  induction events generalizing start with
  | nil => exact ⟨start.sink, String.append_empty.symm, fun _ _ _ => rfl⟩
  | cons event events ih =>
    cases event with
    | literal text =>
      obtain ⟨next, hwrite, htext, hnext⟩ := h.write text
      obtain ⟨last, hrest, hall⟩ := ih htags { start with sink := next } hnext
      refine ⟨last, ?_, fun σ onTag memory => ?_⟩
      · rw [hrest, htext, literalText, String.append_assoc]
      · rw [offerAll, offerTo, hwrite]
        exact hall σ onTag memory
    | tag name => cases htags

/-- Events are all taken, if the handler never fails. -/
theorem offerAll_unfailing {onTag : TagHandler σ} (h : onTag.Unfailing) (events : List Event)
    (memory : σ) (start : Rendering) (hopen : start.sink.Open) :
    ∃ memory' last,
      offerAll (offerTo onTag) events (memory, start) = (.ok (), (memory', last)) := by
  induction events generalizing memory start with
  | nil => exact ⟨memory, start, rfl⟩
  | cons event events ih =>
    cases event with
    | literal text =>
      obtain ⟨next, hwrite, -, hnext⟩ := hopen.write text
      obtain ⟨memory', last, hlast⟩ := ih memory { start with sink := next } hnext
      refine ⟨memory', last, ?_⟩
      rw [offerAll, offerTo, hwrite]
      exact hlast
    | tag name =>
      obtain ⟨memory', next, hcall, hnext⟩ := h name memory start hopen
      obtain ⟨memory'', last, hlast⟩ := ih memory' next hnext
      refine ⟨memory'', last, ?_⟩
      rw [offerAll, offerTo, hcall]
      exact hlast

/-! ## The three ways -/

/-- The failure of a reader that takes one character at a time. -/
def malformed (name : String) : Failure :=
  .error (.templateRead name .malformedCharacter)

/-- One character of a copy, or the error that ends it. -/
def copyChar (name : String) : Except ReadError Char → Render Unit
  | .ok c => write (String.singleton c)
  | .error e => fail (.templateRead name e)

theorem copyTemplate_eq (context : Context) (name : String) :
    copyTemplate context name =
      openTemplate context name >>= fun signals => (charsOf signals).forM (copyChar name) := rfl

/-- Characters are written one by one. -/
theorem forM_copyChar (name : String) (cs : List Char) (chars : List (Except ReadError Char))
    (start : Rendering) (h : start.sink.Open) :
    ∃ last, (cs.map Except.ok ++ chars).forM (copyChar name) start =
        chars.forM (copyChar name) { start with sink := last } ∧
      last.text = start.sink.text ++ String.ofList cs := by
  induction cs generalizing start with
  | nil => exact ⟨start.sink, rfl, String.append_empty.symm⟩
  | cons c cs ih =>
    obtain ⟨next, hwrite, htext, hnext⟩ := h.write (String.singleton c)
    obtain ⟨last, hlast, hrest⟩ := ih { start with sink := next } hnext
    refine ⟨last, ?_, ?_⟩
    · change (copyChar name (.ok c) >>= fun _ => _) start = _
      rw [bind_apply, show copyChar name (.ok c) start = _ from hwrite]
      exact hlast
    · rw [hrest, htext, String.ofList_cons, String.append_assoc]

section Ways

variable {context : Context} {name : String} {bytes rest : List UInt8} {cs : List Char}
  {start opened : Rendering}
  (hopen : openTemplate context name start = (.ok (Signal.ofBytes bytes), opened))
  (hdecode : Utf8.decodePrefix bytes = (cs, rest))

include hopen hdecode

/-- **The whole of a template.** -/
theorem templateText_ofBytes : templateText context name start =
    (if rest = [] then .ok (String.ofList cs)
      else .error (.error (.templateRead name .malformedText)), opened) := by
  rw [templateText, bind_apply, hopen]
  dsimp only
  simp only [textOf, bytesOf_ofBytes, Utf8.decode?, hdecode]
  cases rest <;> rfl

theorem templateText_eq_ok_iff {text : String} :
    (templateText context name start).1 = .ok text ↔ bytes = Utf8.encode text := by
  rw [templateText_ofBytes hopen hdecode, ← Utf8.decode?_eq_some_iff, Utf8.decode?, hdecode]
  cases rest <;> simp

/-- **A copy of a template.** -/
theorem copyTemplate_ofBytes (hsink : opened.sink.Open) :
    ∃ last, copyTemplate context name start =
        (if rest = [] then .ok () else .error (malformed name), { opened with sink := last }) ∧
      last.text = opened.sink.text ++ withoutMark (String.ofList cs) := by
  obtain ⟨last, hlast, htext⟩ := forM_copyChar name (withoutMark (String.ofList cs)).toList
    (if rest = [] then [] else [.error .malformedCharacter]) opened hsink
  refine ⟨last, ?_, by rwa [String.ofList_toList] at htext⟩
  rw [copyTemplate_eq, bind_apply, hopen]
  dsimp only
  rw [charsOf_ofBytes hdecode, hlast]
  split <;> rfl

/-- **A template that is scanned.** -/
theorem scanTemplate_ofBytes (onTag : TagHandler σ) (memory : σ) :
    let cs := (withoutMark (String.ofList cs)).toList
    scanTemplate context name onTag memory start =
      if rest = [] then
        let heard := offerAll (offerTo onTag) (({} : Scanner).said context.templateOptions cs)
          (memory, opened)
        (heard.1, heard.2.2)
      else
        let heard := offerAll (offerTo onTag) (({} : Scanner).moves context.templateOptions cs).1
          (memory, opened)
        (heard.1.bind fun _ => .error (malformed name), heard.2.2) := by
  intro cs
  rw [scanTemplate, bind_apply, hopen]
  dsimp only
  have hok : (fun c : Except ReadError Char =>
      c.mapError fun e => Failure.error (.templateRead name e)) ∘ Except.ok = Except.ok := rfl
  rw [scanStream, charsOf_ofBytes hdecode, List.map_append, List.map_map, hok]
  split
  · rw [List.map_nil, List.append_nil, scan_map_ok]
  · rw [List.map_singleton, Except.mapError, scan_error]
    dsimp only [malformed]

/-- **Scanning fails only where the bytes are no text**, if the handler never fails. -/
theorem scanTemplate_outcome (hsink : opened.sink.Open) {onTag : TagHandler σ}
    (h : onTag.Unfailing) (memory : σ) :
    (scanTemplate context name onTag memory start).1 =
      if rest = [] then .ok () else .error (malformed name) := by
  have hheard (events : List Event) :
      (offerAll (offerTo onTag) events (memory, opened)).1 = .ok () := by
    obtain ⟨_, _, hall⟩ := offerAll_unfailing h events memory opened hsink
    rw [hall]
  rw [scanTemplate_ofBytes hopen hdecode]
  split
  · dsimp only
    rw [hheard]
  · dsimp only
    rw [hheard]
    rfl

/-- **Scanning text without a delimiter** is writing it, whatever the handler. If the bytes are no
text, the end of it is missing. -/
theorem scanTemplate_undelimited (hsink : opened.sink.Open)
    (hkeep : context.templateOptions.stripLineBreaks = false)
    (h : context.templateOptions.delimiter ∉ (withoutMark (String.ofList cs)).toList) :
    ∃ last written missing,
      (∀ (σ : Type) (onTag : TagHandler σ) (memory : σ),
        scanTemplate context name onTag memory start =
          (if rest = [] then .ok () else .error (malformed name), { opened with sink := last })) ∧
      last.text = opened.sink.text ++ written ∧
      withoutMark (String.ofList cs) = written ++ missing ∧
      missing.utf8ByteSize < flushBytes ∧ (rest = [] → missing = "") := by
  obtain ⟨-, htags, htext, hsize⟩ := Scanner.moves_undelimited hkeep h
  rw [String.ofList_toList] at htext
  by_cases hrest : rest = []
  · have htags' : tagNames (({} : Scanner).said context.templateOptions
        (withoutMark (String.ofList cs)).toList) = [] := by
      rw [Scanner.said, tagNames_append, htags, tagNames_literalRun]
      rfl
    obtain ⟨last, hlast, hall⟩ := offerAll_untagged htags' opened hsink
    refine ⟨last, withoutMark (String.ofList cs), "", fun σ onTag memory => ?_, ?_,
      String.append_empty.symm, Scanner.empty_lt_flushBytes, fun _ => rfl⟩
    · rw [scanTemplate_ofBytes hopen hdecode, if_pos hrest, if_pos hrest, hall]
    · rw [hlast, Scanner.said, literalText_append, literalText_literalRun, htext]
  · obtain ⟨last, hlast, hall⟩ := offerAll_untagged htags opened hsink
    refine ⟨last, _, _, fun σ onTag memory => ?_, hlast, htext.symm, hsize,
      fun hnil => absurd hnil hrest⟩
    rw [scanTemplate_ofBytes hopen hdecode, if_neg hrest, if_neg hrest, hall]
    rfl

end Ways

/-- **The ways to read a template agree**, for all bytes, where the sink takes every text and line
breaks are looked at:

* The whole of the template is there exactly if the bytes are text, and it is this text. Exactly
  then the template is copied, and exactly then it is scanned if the handler never fails.
* Then the text is copied without a byte order mark at its beginning; and if it has no delimiter,
  the scan writes the same, whatever the handler would do, so none is called.
* Otherwise each way fails and says that the template cannot be read. The longest text that the
  bytes begin with has been copied, without its byte order mark; and if it has no delimiter, the
  scan has written it but for an end that is shorter than the limit. -/
theorem accesses_agree {context : Context} {name : String} {bytes : List UInt8}
    {start : Rendering} {located : Located}
    (hbytes : context.templates.openTemplate start.shared.located name context.searchRoot =
      (.ok (Signal.ofBytes bytes), located))
    (hsink : start.sink.Open) (hkeep : context.templateOptions.stripLineBreaks = false) :
    let whole := templateText context name start
    let copied := copyTemplate context name start
    let scanned {σ : Type} (onTag : TagHandler σ) (memory : σ) :=
      scanTemplate context name onTag memory start
    let undelimited (text : String) := context.templateOptions.delimiter ∉ text.toList
    (∀ text, whole.1 = .ok text ↔ bytes = Utf8.encode text) ∧
    (copied.1 = .ok () ↔ ∃ text, whole.1 = .ok text) ∧
    (∀ (σ : Type) (onTag : TagHandler σ) (memory : σ), onTag.Unfailing →
      ((scanned onTag memory).1 = .ok () ↔ ∃ text, whole.1 = .ok text)) ∧
    (∀ text, whole.1 = .ok text →
      copied.2.sink.text = start.sink.text ++ withoutMark text ∧
      (undelimited (withoutMark text) →
        ∃ last : Rendering, last.sink.text = copied.2.sink.text ∧
          ∀ (σ : Type) (onTag : TagHandler σ) (memory : σ),
            scanned onTag memory = (.ok (), last))) ∧
    ((∀ text, bytes ≠ Utf8.encode text) →
      whole.1 = .error (.error (.templateRead name .malformedText)) ∧
      copied.1 = .error (.error (.templateRead name .malformedCharacter)) ∧
      (∀ (σ : Type) (onTag : TagHandler σ) (memory : σ), onTag.Unfailing →
        (scanned onTag memory).1 = .error (.error (.templateRead name .malformedCharacter))) ∧
      ∃ text : String, (∀ other, Utf8.encode other <+: bytes ↔ other.toList <+: text.toList) ∧
        copied.2.sink.text = start.sink.text ++ withoutMark text ∧
        (undelimited (withoutMark text) →
          ∃ (last : Rendering) (written missing : String),
            (∀ (σ : Type) (onTag : TagHandler σ) (memory : σ), scanned onTag memory =
              (.error (.error (.templateRead name .malformedCharacter)), last)) ∧
            last.sink.text = start.sink.text ++ written ∧
            withoutMark text = written ++ missing ∧ missing.utf8ByteSize < flushBytes)) := by
  intro whole copied scanned undelimited
  cases hdecode : Utf8.decodePrefix bytes with
  | mk cs rest =>
    let opened : Rendering := { start with shared := { start.shared with located := located } }
    have hopen : openTemplate context name start = (.ok (Signal.ofBytes bytes), opened) := by
      simp only [openTemplate, hbytes, Except.mapError, opened]
    have hok {text : String} : whole.1 = .ok text ↔ bytes = Utf8.encode text :=
      templateText_eq_ok_iff hopen hdecode
    have hwhole : whole = _ := templateText_ofBytes hopen hdecode
    obtain ⟨sink, hcopied, hcopy⟩ := copyTemplate_ofBytes hopen hdecode hsink
    have hcopied : copied = _ := hcopied
    have hscanned {σ : Type} {onTag : TagHandler σ} (h : onTag.Unfailing) (memory : σ) :
        (scanned onTag memory).1 = _ := scanTemplate_outcome hopen hdecode hsink h memory
    have hplain := scanTemplate_undelimited hopen hdecode hsink hkeep
    by_cases hrest : rest = []
    · simp only [if_pos hrest] at hwhole hcopied hscanned hplain
      have htext : ∃ text, whole.1 = .ok text := ⟨String.ofList cs, by rw [hwhole]⟩
      refine ⟨fun _ => hok, iff_of_true (by rw [hcopied]) htext,
        fun σ onTag memory h => iff_of_true (hscanned h memory) htext, fun text h => ?_,
        fun hnone => ?_⟩
      · rw [hwhole] at h
        obtain rfl : String.ofList cs = text := Except.ok.inj h
        rw [hcopied]
        refine ⟨hcopy, fun hfree => ?_⟩
        obtain ⟨last, written, missing, hall, hlast, hsplit, -, hmissing⟩ := hplain hfree
        refine ⟨{ opened with sink := last }, ?_, hall⟩
        rw [hlast, hcopy, hsplit, hmissing hrest, String.append_empty]
      · obtain ⟨text, h⟩ := htext
        exact absurd (hok.mp h) (hnone text)
    · simp only [if_neg hrest] at hwhole hcopied hscanned hplain
      have htext : ¬ ∃ text, whole.1 = .ok text := by
        rintro ⟨text, h⟩
        rw [hwhole] at h
        cases h
      refine ⟨fun _ => hok, iff_of_false (by rw [hcopied]; exact nofun) htext,
        fun σ onTag memory h => iff_of_false (by rw [hscanned h memory]; exact nofun) htext,
        fun text h => absurd ⟨text, h⟩ htext, fun _ => ?_⟩
      refine ⟨by rw [hwhole], by rw [hcopied]; rfl, fun σ onTag memory h => hscanned h memory,
        String.ofList cs, fun other => ?_, ?_, fun hfree => ?_⟩
      · rw [String.toList_ofList]
        exact Utf8.decodePrefix_longest hdecode other
      · rw [hcopied]
        exact hcopy
      · obtain ⟨last, written, missing, hall, hlast, hsplit, hsize, -⟩ := hplain hfree
        exact ⟨{ opened with sink := last }, written, missing, hall, hlast, hsplit, hsize⟩

/-- A byte order mark, two letters and half of a character, with a handler that writes tags and one
that always panics. -/
theorem accesses_agree_half :
    let bytes : List UInt8 := [0xEF, 0xBB, 0xBF, 0x61, 0x62, 0xC3]
    let context : Context :=
      { request := {}, templates := .memory [("t", bytes)], searchRoot := ".", textOptions := {}
        templateOptions := {} }
    let start : Rendering := {}
    let onTag : TagHandler Unit := fun _ _ => throw .panic
    context.templates.openTemplate start.shared.located "t" context.searchRoot =
        (.ok (Signal.ofBytes bytes), []) ∧
      start.sink.Open ∧ context.templateOptions.stripLineBreaks = false ∧
      (templateText context "t" start).1 =
        .error (.error (.templateRead "t" .malformedText)) ∧
      (copyTemplate context "t" start).1 =
        .error (.error (.templateRead "t" .malformedCharacter)) ∧
      (copyTemplate context "t" start).2.sink.text = "ab" ∧
      (scanTemplate context "t" (fun tag (_ : Unit) => write tag) () start).1 =
        .error (.error (.templateRead "t" .malformedCharacter)) ∧
      (scanTemplate context "t" onTag () start).1 =
        .error (.error (.templateRead "t" .malformedCharacter)) ∧
      ∃ missing, (scanTemplate context "t" onTag () start).2.sink.text ++ missing = "ab" ∧
        missing.utf8ByteSize < flushBytes := by
  intro bytes context start onTag
  have hbytes : context.templates.openTemplate start.shared.located "t" context.searchRoot =
      (.ok (Signal.ofBytes bytes), []) := rfl
  have hsink : start.sink.Open := ⟨rfl, rfl⟩
  have hdecode : Utf8.decodePrefix bytes = (['\uFEFF', 'a', 'b'], [0xC3]) := by decide +kernel
  have hnone : ∀ text, bytes ≠ Utf8.encode text := by
    intro text h
    have hsome := Utf8.decode?_eq_some_iff.mpr h
    rw [Utf8.decode?, hdecode] at hsome
    cases hsome
  have hopen : openTemplate context "t" start = (.ok (Signal.ofBytes bytes), start) := rfl
  obtain ⟨sink, hcopied, htext⟩ := copyTemplate_ofBytes hopen hdecode hsink
  obtain ⟨-, -, -, -, hfails⟩ := accesses_agree hbytes hsink rfl
  obtain ⟨hwhole, hcopy, hscan, text, -, hwritten, hplain⟩ := hfails hnone
  have hab : withoutMark text = "ab" := by
    rw [hcopied] at hwritten
    have hmark : withoutMark (String.ofList ['\uFEFF', 'a', 'b']) = "ab" := by decide +kernel
    rw [hmark] at htext
    exact (String.append_right_inj _).mp (hwritten.symm.trans htext)
  have hfree : '@' ∉ (withoutMark text).toList := by
    rw [hab]
    decide
  obtain ⟨last, written, missing, hall, hlast, hsplit, hsize⟩ := hplain hfree
  have hscanned : scanTemplate context "t" onTag () start = _ := hall Unit onTag ()
  refine ⟨hbytes, hsink, rfl, hwhole, hcopy, ?_, hscan Unit _ () (TagHandler.unfailing_write id),
    by rw [hscanned], missing, ?_, hsize⟩
  · rw [hwritten, hab]
    rfl
  · rw [hscanned, hlast, ← hab, hsplit]
    exact congrArg (· ++ missing) String.empty_append

end Render

end Folio
