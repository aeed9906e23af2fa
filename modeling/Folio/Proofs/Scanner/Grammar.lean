import Folio.Proofs.Scanner.Events
import Mathlib.Data.List.TakeDrop

/-!
# The grammar of templates

A template is read with look-ahead, one construct after the other: a plain character, or a delimiter
with the longest run of characters that may stand in a tag and what ends the run.

* `ScanOptions.InTag`, `ScanOptions.Breaks`: the characters of a tag, and those that abandon it.
* **`Reads`**: the grammar, as the pieces that a text is read as.
* `joined`: pieces with neighbouring literals joined and empty ones dropped.
* `exists_reads`: every text can be read.
-/

namespace Folio

/-- Characters that may stand in a tag. -/
def ScanOptions.InTag (options : ScanOptions) (raw : List Char) : Prop :=
  ∀ c ∈ raw, c ≠ options.delimiter ∧ c ≠ ' ' ∧ c ≠ '\r' ∧ c ≠ '\n'

/-- A character that abandons a tag. -/
def ScanOptions.Breaks (options : ScanOptions) (c : Char) : Prop :=
  c ≠ options.delimiter ∧ (c = ' ' ∨ c = '\r' ∨ c = '\n')

/-- The characters that are looked at: line breaks may be dropped. -/
def ScanOptions.visible (options : ScanOptions) (cs : List Char) : List Char :=
  if options.stripLineBreaks then cs.filter fun c => !isLineBreak c else cs

/-- **The grammar of templates**: a text and the pieces that it is read as. -/
inductive Reads (options : ScanOptions) : List Char → List Event → Prop
  | done : Reads options [] []
  | plain {c : Char} {rest : List Char} {pieces : List Event}
    (hc : c ≠ options.delimiter) (hrest : Reads options rest pieces) :
    Reads options (c :: rest) (.literal (String.singleton c) :: pieces)
  /-- Two delimiters in a row. -/
  | doubled {rest : List Char} {pieces : List Event} (hrest : Reads options rest pieces) :
    Reads options (options.delimiter :: options.delimiter :: rest)
      (.literal (String.singleton options.delimiter) :: pieces)
  /-- A tag whose name begins with the rooted prefix. -/
  | rooted {raw rest : List Char} {path : String} {pieces : List Event}
    (hraw : options.InTag raw) (hne : raw ≠ [])
    (hname : trim (String.ofList raw) = options.rootedPrefix ++ path)
    (hrest : Reads options rest pieces) :
    Reads options (options.delimiter :: (raw ++ options.delimiter :: rest))
      (.literal (options.appRoot ++ path) :: pieces)
  | tag {raw rest : List Char} {pieces : List Event}
    (hraw : options.InTag raw) (hne : raw ≠ [])
    (hname : ∀ path, trim (String.ofList raw) ≠ options.rootedPrefix ++ path)
    (hrest : Reads options rest pieces) :
    Reads options (options.delimiter :: (raw ++ options.delimiter :: rest))
      (.tag (trim (String.ofList raw)) :: pieces)
  /-- A tag that is abandoned: its text stands for itself, with the delimiter before it if it has
  two characters or more. The character that breaks it is read again. -/
  | abandoned {raw rest : List Char} {c : Char} {pieces : List Event}
    (hraw : options.InTag raw) (hc : options.Breaks c)
    (hrest : Reads options (c :: rest) pieces) :
    Reads options (options.delimiter :: (raw ++ c :: rest))
      (.literal (String.ofList (if 2 ≤ raw.length then options.delimiter :: raw else raw)) ::
        pieces)
  /-- A tag that is open when the text ends. -/
  | unclosed {raw : List Char} (hraw : options.InTag raw) :
    Reads options (options.delimiter :: raw) []

/-! ## Joining literals -/

/-- Put literal text in front of pieces that are joined. -/
def joinFront (text : String) : List Event → List Event
  | .literal more :: events => .literal (text ++ more) :: events
  | events => literalRun text ++ events

/-- Neighbouring literals joined, and empty ones dropped. -/
def joined : List Event → List Event
  | [] => []
  | .literal text :: events => joinFront text (joined events)
  | .tag name :: events => .tag name :: joined events

theorem joinFront_empty (events : List Event) : joinFront "" events = events := by
  cases events with
  | nil => rfl
  | cons event events =>
    cases event with
    | literal more => rw [joinFront, String.empty_append]
    | tag name => rfl

theorem joinFront_joinFront (first second : String) (events : List Event) :
    joinFront first (joinFront second events) = joinFront (first ++ second) events := by
  by_cases hsecond : second = ""
  · rw [hsecond, joinFront_empty, String.append_empty]
  have hrun : literalRun second = [.literal second] := by simp [literalRun, hsecond]
  have hruns : literalRun (first ++ second) = [.literal (first ++ second)] := by
    simp [literalRun, hsecond]
  cases events with
  | nil => simp only [joinFront, hrun, hruns, List.append_nil]
  | cons event events =>
    cases event with
    | literal more => simp only [joinFront, String.append_assoc]
    | tag name => simp only [joinFront, hrun, hruns, List.cons_append, List.nil_append]

theorem joined_literalRun_append (text : String) (events : List Event) :
    joined (literalRun text ++ events) = joinFront text (joined events) := by
  unfold literalRun
  split
  · next h => rw [String.isEmpty_iff.mp h, joinFront_empty, List.nil_append]
  · rfl

/-! ## Every text can be read -/

section Total

variable (options : ScanOptions)

/-- Characters are those of a tag, up to the end or to a character that ends it. -/
theorem exists_run (cs : List Char) :
    ∃ raw, options.InTag raw ∧ (cs = raw ∨
      ∃ c rest, cs = raw ++ c :: rest ∧ (c = options.delimiter ∨ options.Breaks c)) := by
  induction cs with
  | nil => exact ⟨[], by simp [ScanOptions.InTag], .inl rfl⟩
  | cons c cs ih =>
    by_cases hd : c = options.delimiter
    · exact ⟨[], by simp [ScanOptions.InTag], .inr ⟨c, cs, rfl, .inl hd⟩⟩
    by_cases hb : c = ' ' ∨ c = '\r' ∨ c = '\n'
    · exact ⟨[], by simp [ScanOptions.InTag], .inr ⟨c, cs, rfl, .inr ⟨hd, hb⟩⟩⟩
    obtain ⟨raw, hraw, hcs⟩ := ih
    refine ⟨c :: raw, ?_, ?_⟩
    · intro a ha
      rcases List.mem_cons.mp ha with rfl | ha
      · simp_all
      · exact hraw a ha
    · rcases hcs with rfl | ⟨d, rest, rfl, hd⟩
      · exact .inl rfl
      · exact .inr ⟨d, rest, rfl, hd⟩

/-- **Every text can be read.** -/
theorem exists_reads (cs : List Char) : ∃ pieces, Reads options cs pieces := by
  induction h : cs.length using Nat.strongRecOn generalizing cs with
  | ind n ih =>
    subst h
    cases cs with
    | nil => exact ⟨[], .done⟩
    | cons c cs =>
      by_cases hd : c = options.delimiter
      · subst hd
        have hshort (raw tail : List Char) :
            tail.length < (options.delimiter :: (raw ++ tail)).length := by
          simp only [List.length_cons, List.length_append]
          omega
        obtain ⟨raw, hraw, rfl | ⟨d, rest, rfl, rfl | hbreak⟩⟩ := exists_run options cs
        · exact ⟨[], .unclosed hraw⟩
        · obtain ⟨pieces, hrest⟩ := ih rest.length
            (Nat.lt_of_succ_lt (hshort raw (options.delimiter :: rest))) rest rfl
          by_cases hne : raw = []
          · subst hne
            exact ⟨_, .doubled hrest⟩
          by_cases hname : ∃ path, trim (String.ofList raw) = options.rootedPrefix ++ path
          · obtain ⟨path, hname⟩ := hname
            exact ⟨_, .rooted hraw hne hname hrest⟩
          · exact ⟨_, .tag hraw hne (fun path h => hname ⟨path, h⟩) hrest⟩
        · obtain ⟨pieces, hrest⟩ := ih (d :: rest).length (hshort raw _) (d :: rest) rfl
          exact ⟨_, .abandoned hraw hbreak hrest⟩
      · obtain ⟨pieces, hrest⟩ := ih cs.length (by simp) cs rfl
        exact ⟨_, .plain hd hrest⟩

end Total

end Folio
