import Folio.Scanner.Options
import Folio.Text.Blank

/-!
# The tag scanner

A template is literal text with tags between delimiters. The scanner takes one character at a time
and offers events to a sink: runs of literal text, and the names of tags.

* A delimiter opens a tag and closes it; two delimiters in a row are one literal delimiter.
* A blank or a line break abandons the tag: what was read of it becomes literal text.
* A rooted tag becomes the path it stands for, as literal text.
* A tag that is still open when the text ends is dropped.

Literal text gathers in a buffer, which is offered when a plain character brings it to
`flushBytes` bytes, before every tag and at the end. A sink may reject an offer: a rejected run
stays in the buffer, a rejected tag is lost.

Main definitions:

* `Event`, `Offer`: what the scanner says, and a sink that may reject it.
* `Scanner.push`, `Scanner.finish`: one character, and the end of the text.
* **`scan`**: scan characters, the last of which may be an error; `scanText` scans a text.
* `transcript`: all that a scan says; `answerEvents`: go through it.
-/

namespace Folio

/-- Literal runs are offered once they reach this many bytes. -/
def flushBytes : Nat := 8192

/-- What the scanner says about a template. -/
inductive Event
  /-- Text to be copied as it is. -/
  | literal (text : String)
  /-- The name of a tag. -/
  | tag (name : String)
  deriving DecidableEq, Inhabited, Repr

/-- A sink of events: it answers each with its new state, and with an error if it rejects it. -/
abbrev Offer (ε σ : Type) := Event → σ → Except ε Unit × σ

/-- Is the scanner inside a tag, and what has it read of it? -/
inductive ScanMode
  | literal
  | tag (raw : String)
  deriving DecidableEq, Inhabited, Repr

/-- **The scanner**: its mode, and the literal text not yet offered. -/
structure Scanner where
  mode : ScanMode := .literal
  pending : String := ""
  deriving DecidableEq, Inhabited, Repr

/-- What one step gives: its outcome, the scanner after it and the sink after it. -/
structure ScanStep (ε σ : Type) where
  outcome : Except ε Unit
  scanner : Scanner
  sink : σ

variable {ε σ : Type} (options : ScanOptions) (offer : Offer ε σ)

namespace Scanner

/-- Offer the pending literal text, and empty the buffer if it is taken. -/
def flush (s : Scanner) (sink : σ) : ScanStep ε σ :=
  if s.pending.isEmpty then ⟨.ok (), s, sink⟩
  else
    match offer (.literal s.pending) sink with
    | (.ok (), sink) => ⟨.ok (), { s with pending := "" }, sink⟩
    | (.error e, sink) => ⟨.error e, s, sink⟩

/-- A character that is no delimiter, outside a tag. -/
def pushPlain (s : Scanner) (c : Char) (sink : σ) : ScanStep ε σ :=
  let s := { s with mode := .literal, pending := s.pending.push c }
  if s.pending.utf8ByteSize ≥ flushBytes then s.flush offer sink else ⟨.ok (), s, sink⟩

/-- What becomes of the text of an abandoned tag: the delimiter is restored before two characters
or more. -/
def abandoned (raw : String) : String :=
  if raw.length > 1 then String.singleton options.delimiter ++ raw else raw

/-- A closing delimiter after the non-empty text `raw`. -/
def close (s : Scanner) (raw : String) (sink : σ) : ScanStep ε σ :=
  let s := { s with mode := .literal }
  match options.rootedPath? (trim raw) with
  | some path => ⟨.ok (), { s with pending := s.pending ++ path }, sink⟩
  | none =>
    match s.flush offer sink with
    | ⟨.ok (), s, sink⟩ =>
      let (outcome, sink) := offer (.tag (trim raw)) sink
      ⟨outcome, s, sink⟩
    | ⟨.error e, s, sink⟩ => ⟨.error e, s, sink⟩

/-- One character of the template. -/
def push (s : Scanner) (c : Char) (sink : σ) : ScanStep ε σ :=
  if options.stripLineBreaks && isLineBreak c then ⟨.ok (), s, sink⟩
  else
    match s.mode with
    | .literal =>
      if c = options.delimiter then ⟨.ok (), { s with mode := .tag "" }, sink⟩
      else s.pushPlain offer c sink
    | .tag raw =>
      if c = options.delimiter then
        if raw.isEmpty then ⟨.ok (), { mode := .literal, pending := s.pending.push c }, sink⟩
        else s.close options offer raw sink
      else if c == ' ' || isLineBreak c then
        { s with pending := s.pending ++ abandoned options raw }.pushPlain offer c sink
      else ⟨.ok (), { s with mode := .tag (raw.push c) }, sink⟩

/-- The end of the template. -/
def finish (s : Scanner) (sink : σ) : ScanStep ε σ :=
  { s with mode := .literal }.flush offer sink

/-- Push characters until one is an error or the sink rejects an offer. -/
def run (s : Scanner) : List (Except ε Char) → σ → Except ε Unit × σ
  | [], sink =>
    let step := s.finish offer sink
    (step.outcome, step.sink)
  | .error e :: _, sink => (.error e, sink)
  | .ok c :: rest, sink =>
    match s.push options offer c sink with
    | ⟨.ok (), s, sink⟩ => s.run rest sink
    | ⟨.error e, _, sink⟩ => (.error e, sink)

end Scanner

/-- **Scan characters**, the last of which may be an error. -/
def scan (chars : List (Except ε Char)) (sink : σ) : Except ε Unit × σ :=
  ({} : Scanner).run options offer chars sink

/-- Scan a text. -/
def scanText (text : String) (sink : σ) : Except ε Unit × σ :=
  scan options offer (text.toList.map .ok) sink

/-- All that a scan says where nothing is rejected, and how it ends. -/
def transcript (chars : List (Except ε Char)) : Except ε Unit × List Event :=
  scan options (fun event events => (.ok (), events ++ [event])) chars []

/-- Go through the events of a template: write the literal text and answer the tags. What is
remembered goes from one tag to the next. -/
def answerEvents {m : Type → Type} [Monad m] (write : String → m Unit)
    (onTag : String → σ → m σ) : List Event → σ → m σ
  | [], memory => pure memory
  | .literal text :: events, memory => do
    write text
    answerEvents write onTag events memory
  | .tag name :: events, memory => do
    let memory ← onTag name memory
    answerEvents write onTag events memory

end Folio
