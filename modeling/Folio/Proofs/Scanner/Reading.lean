import Folio.Proofs.Scanner.Grammar

/-!
# Scanning is reading

The events of a text, literals joined, are the pieces that the grammar reads it as.

* `dropStart?_eq_some`, `ScanOptions.rootedPath?_eq_some`: what a rooted name is.
* `Scanner.said_visible`: what is dropped is not looked at.
* `Scanner.joined_said`: the invariant. Between two constructs of the grammar the scanner is outside
  a tag, and what it still says is its pending text in front of what is still to be read.
* **`scanText_reads`**: a scan into a sink that rejects nothing says what is read.
-/

namespace Folio

/-! ## Rooted names -/

theorem dropStart?_eq_some {start text rest : String} :
    dropStart? start text = some rest ↔ text = start ++ rest := by
  unfold dropStart?
  constructor
  · intro h
    split at h
    · next hprefix =>
      obtain ⟨tail, htail⟩ := List.isPrefixOf_iff_prefix.mp hprefix
      rw [Option.some.injEq] at h
      rw [← h, ← htail, List.drop_left, ← String.toList_inj, String.toList_append, htail.symm,
        String.toList_ofList]
    · exact absurd h (by simp)
  · rintro rfl
    rw [String.toList_append, if_pos (List.isPrefixOf_iff_prefix.mpr (List.prefix_append _ _)),
      List.drop_left, String.ofList_toList]

theorem ScanOptions.rootedPath?_eq_some {options : ScanOptions} {name path : String} :
    options.rootedPath? name = some path ↔
      ∃ rest, name = options.rootedPrefix ++ rest ∧ options.appRoot ++ rest = path := by
  simp only [rootedPath?, Option.map_eq_some_iff, dropStart?_eq_some]

theorem ScanOptions.rootedPath?_eq_none {options : ScanOptions} {name : String} :
    options.rootedPath? name = none ↔ ∀ rest, name ≠ options.rootedPrefix ++ rest := by
  rw [Option.eq_none_iff_forall_ne_some]
  constructor
  · intro h rest hrest
    exact h _ (rootedPath?_eq_some.mpr ⟨rest, hrest, rfl⟩)
  · intro h path hpath
    obtain ⟨rest, hrest, -⟩ := rootedPath?_eq_some.mp hpath
    exact h rest hrest

/-! ## Dropped line breaks -/

/-- The same options with line breaks looked at. -/
def ScanOptions.keeping (options : ScanOptions) : ScanOptions :=
  { options with stripLineBreaks := false }

@[simp] theorem ScanOptions.keeping_stripLineBreaks (options : ScanOptions) :
    options.keeping.stripLineBreaks = false := rfl

@[simp] theorem ScanOptions.keeping_delimiter (options : ScanOptions) :
    options.keeping.delimiter = options.delimiter := rfl

@[simp] theorem ScanOptions.keeping_rootedPath? (options : ScanOptions) (name : String) :
    options.keeping.rootedPath? name = options.rootedPath? name := rfl

@[simp] theorem Scanner.abandoned_keeping (options : ScanOptions) (raw : String) :
    abandoned options.keeping raw = abandoned options raw := rfl

namespace Scanner

variable (options : ScanOptions)

theorem move_dropped (s : Scanner) {c : Char} (hstrip : options.stripLineBreaks = true)
    (hc : isLineBreak c = true) : s.move options c = ([], s) := by
  simp [move, push, hstrip, hc]

theorem move_keeping (s : Scanner) {c : Char}
    (h : (options.stripLineBreaks && isLineBreak c) = false) :
    s.move options c = s.move options.keeping c := by
  have hkeep : (options.keeping.stripLineBreaks && isLineBreak c) = false := rfl
  simp only [move, push, h, hkeep]
  rfl

/-- **What is dropped is not looked at.** -/
theorem said_visible (s : Scanner) (cs : List Char) :
    s.said options cs = s.said options.keeping (options.visible cs) := by
  unfold ScanOptions.visible
  split
  · next hstrip =>
    induction cs generalizing s with
    | nil => rfl
    | cons c cs ih =>
      cases hc : isLineBreak c with
      | true =>
        rw [said_cons, move_dropped options s hstrip hc, List.filter_cons_of_neg (by simp [hc])]
        exact ih s
      | false =>
        rw [said_cons, move_keeping options s (by rw [hc, Bool.and_false]),
          List.filter_cons_of_pos (by simp [hc]), said_cons, ih]
  · next hstrip =>
    induction cs generalizing s with
    | nil => rfl
    | cons c cs ih =>
      rw [said_cons, said_cons, ih, move_keeping options s (by simp [hstrip])]

/-! ## One construct at a time -/

theorem move_open (p : String) :
    ({ pending := p } : Scanner).move options.keeping options.delimiter =
      ([], { mode := .tag "", pending := p }) := by
  simp [move, push]

theorem move_plain (p : String) {c : Char} (hc : c ≠ options.delimiter) :
    ({ pending := p } : Scanner).move options.keeping c =
      ((({ pending := p } : Scanner).pushPlain taking c []).sink,
        (({ pending := p } : Scanner).pushPlain taking c []).scanner) := by
  simp [move, push, hc]

theorem move_inTag (raw p : String) {c : Char}
    (hc : c ≠ options.delimiter ∧ c ≠ ' ' ∧ c ≠ '\r' ∧ c ≠ '\n') :
    ({ mode := .tag raw, pending := p } : Scanner).move options.keeping c =
      ([], { mode := .tag (raw.push c), pending := p }) := by
  simp [move, push, isLineBreak, hc]

theorem move_doubled (p : String) :
    ({ mode := .tag "", pending := p } : Scanner).move options.keeping options.delimiter =
      ([], { pending := p.push options.delimiter }) := by
  simp [move, push]

theorem move_close {raw : String} (p : String) (hraw : raw ≠ "") :
    ({ mode := .tag raw, pending := p } : Scanner).move options.keeping options.delimiter =
      match options.rootedPath? (trim raw) with
      | some path => ([], { pending := p ++ path })
      | none => (literalRun p ++ [.tag (trim raw)], {}) := by
  simp only [move, push, ScanOptions.keeping_stripLineBreaks, ScanOptions.keeping_delimiter,
    Bool.false_and, Bool.false_eq_true, if_false, if_true, String.isEmpty_iff, hraw, close_taking,
    ScanOptions.keeping_rootedPath?]
  cases options.rootedPath? (trim raw) <;> rfl

theorem move_break (raw p : String) {c : Char} (hc : options.Breaks c) :
    ({ mode := .tag raw, pending := p } : Scanner).move options.keeping c =
      let broken : Scanner := { mode := .tag raw, pending := p ++ abandoned options raw }
      ((broken.pushPlain taking c []).sink, (broken.pushPlain taking c []).scanner) := by
  obtain ⟨hd, rfl | rfl | rfl⟩ := hc <;> simp [move, push, isLineBreak, hd]

/-! ## The simulation -/

theorem said_inTag {more : List Char} (hmore : options.InTag more) (raw p : String)
    (rest : List Char) :
    ({ mode := .tag raw, pending := p } : Scanner).said options.keeping (more ++ rest) =
      ({ mode := .tag (raw ++ String.ofList more), pending := p } : Scanner).said
        options.keeping rest := by
  induction more generalizing raw with
  | nil => simp
  | cons c more ih =>
    have hc := hmore c List.mem_cons_self
    rw [List.cons_append, said_cons, move_inTag options raw p hc, List.nil_append,
      ih fun d hd => hmore d (List.mem_cons_of_mem c hd), String.ofList_cons, ← String.append_assoc,
      String.append_singleton]

/-- A delimiter and the characters of a tag after it are taken in without a word. -/
theorem said_opened {raw : List Char} (hraw : options.InTag raw) (p : String) (rest : List Char) :
    ({ pending := p } : Scanner).said options.keeping (options.delimiter :: (raw ++ rest)) =
      ({ mode := .tag (String.ofList raw), pending := p } : Scanner).said options.keeping rest := by
  rw [said_cons, move_open, List.nil_append, said_inTag options hraw, String.empty_append]

/-- A plain character goes to the end of the pending text, whether or not the text is offered. -/
theorem joined_pushPlain (s : Scanner) (c : Char) (rest : List Char) (pieces : List Event)
    (hrest : ∀ p, joined (({ pending := p } : Scanner).said options.keeping rest) =
      joinFront p pieces) :
    joined ((s.pushPlain taking c []).sink ++
      (s.pushPlain taking c []).scanner.said options.keeping rest) =
        joinFront (s.pending.push c) pieces := by
  unfold pushPlain
  dsimp only
  split
  · rw [flush_taking, joined_literalRun_append, hrest, joinFront_empty]
  · rw [List.nil_append, hrest]

theorem joined_said_nil (s : Scanner) :
    joined (s.said options.keeping []) = joinFront s.pending (joined []) := by
  rw [← joined_literalRun_append, List.append_nil]
  rfl

/-- After the character that breaks a tag, the scanner is as if it had never been in the tag. -/
theorem said_break (raw p : String) {c : Char} (hc : options.Breaks c) (rest : List Char) :
    ({ mode := .tag raw, pending := p } : Scanner).said options.keeping (c :: rest) =
      ({ pending := p ++ abandoned options raw } : Scanner).said options.keeping (c :: rest) := by
  rw [said_cons, said_cons, move_break options raw p hc, move_plain options _ hc.1]
  rfl

theorem abandoned_ofList (raw : List Char) :
    abandoned options (String.ofList raw) =
      String.ofList (if 2 ≤ raw.length then options.delimiter :: raw else raw) := by
  unfold abandoned
  rw [String.length_ofList]
  split
  · next h => rw [if_pos (by omega), String.ofList_cons]
  · next h => rw [if_neg (by omega)]

/-- **The invariant**: outside a tag, what a scanner still says is its pending text in front of what
is still to be read. -/
theorem joined_said {cs : List Char} {pieces : List Event} (h : Reads options cs pieces)
    (p : String) :
    joined (({ pending := p } : Scanner).said options.keeping cs) =
      joinFront p (joined pieces) := by
  induction h generalizing p with
  | done => exact joined_said_nil options _
  | @plain c rest pieces hc hrest ih =>
    rw [said_cons, move_plain options p hc, joined_pushPlain options _ c rest _ ih, joined,
      joinFront_joinFront, String.append_singleton]
  | @doubled rest pieces hrest ih =>
    have hempty : options.InTag [] := by simp [ScanOptions.InTag]
    have hopen := said_opened options hempty p (options.delimiter :: rest)
    rw [List.nil_append] at hopen
    rw [hopen, String.ofList_nil, said_cons, move_doubled, List.nil_append, ih, joined,
      joinFront_joinFront, String.append_singleton]
  | @rooted raw rest path pieces hraw hne hname hrest ih =>
    rw [said_opened options hraw, said_cons, move_close options p (by simpa using hne),
      ScanOptions.rootedPath?_eq_some.mpr ⟨path, hname, rfl⟩, List.nil_append, ih, joined,
      joinFront_joinFront]
  | @tag raw rest pieces hraw hne hname hrest ih =>
    rw [said_opened options hraw, said_cons, move_close options p (by simpa using hne),
      ScanOptions.rootedPath?_eq_none.mpr hname]
    simp only [List.append_assoc, List.cons_append, List.nil_append]
    rw [joined_literalRun_append, joined, ih, joinFront_empty, joined]
  | @abandoned raw rest c pieces hraw hc hrest ih =>
    rw [said_opened options hraw, said_break options _ p hc, ih, abandoned_ofList, joined,
      joinFront_joinFront]
  | @unclosed raw hraw =>
    have hopen := said_opened options hraw p []
    rw [List.append_nil] at hopen
    rw [hopen]
    exact joined_said_nil options _

end Scanner

/-- **A scan into a sink that rejects nothing says what the grammar reads**: it ends well, and the
sink hears the events of the text one after the other. The text has a reading, and the events,
literals joined, are the pieces of every reading that it has. -/
theorem scanText_reads {ε σ : Type} (options : ScanOptions) (offer : Offer ε σ)
    (haccept : ∀ event sink, (offer event sink).1 = .ok ()) (text : String) (sink : σ) :
    scanText options offer text sink =
        (.ok (), (eventsOf options text).foldl (fun sink event => (offer event sink).2) sink) ∧
      (∃ pieces, Reads options (options.visible text.toList) pieces) ∧
      ∀ pieces, Reads options (options.visible text.toList) pieces →
        joined (eventsOf options text) = joined pieces := by
  refine ⟨?_, exists_reads options _, fun pieces h => ?_⟩
  · rw [scanText, scan_eq_offerAll, saidOf_text, offerAll_of_accepting haccept, ending_map_ok]
  · rw [eventsOf, Scanner.said_visible, Scanner.joined_said options h, joinFront_empty]

/-- A text with dropped line breaks, a doubled delimiter, a tag, an abandoned tag, a rooted tag and
an open one. -/
theorem scanText_reads_mixed :
    (∀ event sink, (taking event sink).1 = .ok ()) ∧
      scanText { stripLineBreaks := true } taking "a\r\n@@b @x\ny@ @zz w@~/v@@open" [] =
        (.ok (), [.literal "a@b ", .tag "xy", .literal " @zz w/v"]) ∧
      ∀ pieces, Reads { stripLineBreaks := true } "a@@b @xy@ @zz w@~/v@@open".toList pieces →
        joined pieces = [.literal "a@b ", .tag "xy", .literal " @zz w/v"] := by
  have haccept : ∀ event sink, (taking event sink).1 = .ok () := fun _ _ => rfl
  have h := scanText_reads { stripLineBreaks := true } taking haccept
    "a\r\n@@b @x\ny@ @zz w@~/v@@open" []
  exact ⟨haccept, h.1.trans (by rfl),
    fun pieces hpieces => (h.2.2 pieces hpieces).symm.trans (by decide +kernel)⟩

end Folio
