import Folio.Error
import Folio.Text.Utf8

/-!
# Characters of a byte stream

A byte stream arrives as signals: bytes, interruptions, and faults that end it. Its characters are
taken one at a time.

* An interruption is passed over, wherever it falls.
* A byte order mark is skipped where it is the first character.
* The first fault or malformed sequence is reported once, and nothing after it.

Main definitions:

* `Signal`: what a byte stream delivers.
* **`CharStream.next`**: the next character or error; none after the end or an error.
* `CharStream.toList`: all that is yielded; `charsOf` reads a byte stream from its beginning.
-/

namespace Folio

/-- What a stream delivers. -/
inductive Signal
  | byte (b : UInt8)
  | interrupted
  | fault (error : ReadError)
  deriving DecidableEq, Inhabited

/-- U+FEFF. -/
def byteOrderMark : Char := '\uFEFF'

/-- The bytes of a stream that delivers nothing else. -/
def Signal.ofBytes (bytes : List UInt8) : List Signal :=
  bytes.map .byte

/-- The next byte, none at the end, and the signals after it. -/
def takeByte : List Signal → Except ReadError (Option UInt8) × List Signal
  | [] => (.ok none, [])
  | .byte b :: rest => (.ok (some b), rest)
  | .interrupted :: rest => takeByte rest
  | .fault e :: rest => (.error e, rest)

/-- The next `n` bytes, which are there if the stream is well formed. -/
def takeBytes : Nat → List Signal → Except ReadError (List UInt8) × List Signal
  | 0, signals => (.ok [], signals)
  | n + 1, signals =>
    match takeByte signals with
    | (.error e, rest) => (.error e, rest)
    | (.ok none, rest) => (.error .malformedCharacter, rest)
    | (.ok (some b), rest) =>
      match takeBytes n rest with
      | (.error e, rest) => (.error e, rest)
      | (.ok bytes, rest) => (.ok (b :: bytes), rest)

/-- The next character, none at the end, and the signals after it. -/
def takeChar (signals : List Signal) : Except ReadError (Option Char) × List Signal :=
  match takeByte signals with
  | (.error e, rest) => (.error e, rest)
  | (.ok none, rest) => (.ok none, rest)
  | (.ok (some b), rest) =>
    match Utf8.width? b with
    | none => (.error .malformedCharacter, rest)
    | some width =>
      match takeBytes (width - 1) rest with
      | (.error e, rest) => (.error e, rest)
      | (.ok bytes, rest) =>
        match Utf8.char? (b :: bytes) with
        | none => (.error .malformedCharacter, rest)
        | some c => (.ok (some c), rest)

theorem takeByte_length (signals : List Signal) :
    (takeByte signals).2.length ≤ signals.length := by
  induction signals with
  | nil => simp [takeByte]
  | cons signal signals ih =>
    cases signal with
    | byte b => simp [takeByte]
    | interrupted => exact Nat.le_succ_of_le ih
    | fault e => simp [takeByte]

theorem takeByte_length_lt {signals rest : List Signal} {b : UInt8}
    (h : takeByte signals = (.ok (some b), rest)) : rest.length < signals.length := by
  induction signals with
  | nil => simp [takeByte] at h
  | cons signal signals ih =>
    cases signal with
    | byte a => simp [takeByte] at h; simp [← h.2]
    | interrupted => exact Nat.lt_succ_of_lt (ih (by simpa [takeByte] using h))
    | fault e => simp [takeByte] at h

theorem takeBytes_length (n : Nat) (signals : List Signal) :
    (takeBytes n signals).2.length ≤ signals.length := by
  induction n generalizing signals with
  | zero => simp [takeBytes]
  | succ n ih =>
    have hb := takeByte_length signals
    unfold takeBytes
    split <;> rename_i heq <;> rw [heq] at hb
    · exact hb
    · exact hb
    · rename_i rest
      have hr := ih rest
      split <;> rename_i hrest <;> (rw [hrest] at hr; exact Nat.le_trans hr hb)

theorem takeChar_length_lt {signals rest : List Signal} {c : Char}
    (h : takeChar signals = (.ok (some c), rest)) : rest.length < signals.length := by
  unfold takeChar at h
  split at h
  · simp at h
  · simp at h
  · rename_i b after hb
    have hlt := takeByte_length_lt hb
    split at h
    · simp at h
    · rename_i width _
      have hle := takeBytes_length (width - 1) after
      split at h
      · simp at h
      · rename_i bytes after' hbytes
        rw [hbytes] at hle
        split at h
        · simp at h
        · simp only [Prod.mk.injEq] at h
          rw [← h.2]
          exact Nat.lt_of_le_of_lt hle hlt

/-- **A stream of characters**: the signals to come, whether a character has been taken, and whether
the end or an error has been met. -/
structure CharStream where
  signals : List Signal
  started : Bool := false
  done : Bool := false

namespace CharStream

/-- The next character or error, a byte order mark included. -/
def nextPlain (stream : CharStream) : Option (Except ReadError Char) × CharStream :=
  match takeChar stream.signals with
  | (.ok (some c), rest) => (some (.ok c), { signals := rest, started := true })
  | (.ok none, rest) => (none, { stream with signals := rest, done := true })
  | (.error e, rest) => (some (.error e), { stream with signals := rest, done := true })

/-- **The next character or error**, none once the end or an error has been met. -/
def next (stream : CharStream) : Option (Except ReadError Char) × CharStream :=
  if stream.done then (none, stream)
  else
    match stream.nextPlain with
    | (some (.ok c), stream') =>
      if !stream.started && c == byteOrderMark then stream'.nextPlain
      else (some (.ok c), stream')
    | result => result

theorem nextPlain_length_lt {stream stream' : CharStream} {c : Char}
    (h : stream.nextPlain = (some (.ok c), stream')) :
    stream'.signals.length < stream.signals.length := by
  unfold nextPlain at h
  split at h
  · rename_i hread
    simp only [Prod.mk.injEq] at h
    rw [← h.2]
    exact takeChar_length_lt hread
  · simp at h
  · simp at h

theorem next_length_lt {stream stream' : CharStream} {c : Char}
    (h : stream.next = (some (.ok c), stream')) :
    stream'.signals.length < stream.signals.length := by
  unfold next at h
  split at h
  · simp at h
  · split at h
    · rename_i hplain
      have hlt := nextPlain_length_lt hplain
      split at h
      · exact Nat.lt_trans (nextPlain_length_lt h) hlt
      · simp only [Prod.mk.injEq] at h
        rw [← h.2]
        exact hlt
    · exact nextPlain_length_lt h

/-- All that a stream yields, and the stream after it. -/
def drain (stream : CharStream) : List (Except ReadError Char) × CharStream :=
  match _h : stream.next with
  | (none, stream') => ([], stream')
  | (some (.error e), stream') => ([.error e], stream')
  | (some (.ok c), stream') =>
    let (items, last) := drain stream'
    (.ok c :: items, last)
  termination_by stream.signals.length
  decreasing_by exact next_length_lt _h

/-- All that a stream yields. -/
def toList (stream : CharStream) : List (Except ReadError Char) :=
  stream.drain.1

end CharStream

/-- The characters of a stream, then the error that ends it, if one does. -/
def charsOf (signals : List Signal) : List (Except ReadError Char) :=
  CharStream.toList { signals := signals }

/-- All bytes of a stream, unless a fault ends it. -/
def bytesOf : List Signal → Except ReadError (List UInt8)
  | [] => .ok []
  | .byte b :: rest => (bytesOf rest).map (b :: ·)
  | .interrupted :: rest => bytesOf rest
  | .fault e :: _ => .error e

/-- The whole of a stream as text. -/
def textOf (signals : List Signal) : Except ReadError String :=
  match bytesOf signals with
  | .error e => .error e
  | .ok bytes =>
    match Utf8.decode? bytes with
    | some text => .ok text
    | none => .error .malformedText

end Folio
