import Folio.Text.Hexadecimal

/-!
# Sets of characters

A set of characters is a list of spans of scalar values, in ascending order and with gaps between
them. Spans may run across the surrogates, which are no characters.

* `Span`: the values between two ends. `41-5a` is written for the capital letters.
* **`CharSet`**: a set of characters; `CharSet.ofText` reads one, `CharSet.ofSpans` puts spans in
  order and joins them.
* `CharSet.has`: membership, by binary search.
* `CharSet.union`, `CharSet.inter`, `CharSet.diff`, `CharSet.symmDiff`, `CharSet.compl`: the
  operations on sets.
-/

namespace Folio.Unicode

/-- The values from `lo` to `hi`, both included. -/
structure Span where
  lo : Nat
  hi : Nat
  deriving DecidableEq, Inhabited, Repr

/-- A written span: a value, or two joined by a hyphen. -/
def Span.ofText (text : String) : Span :=
  let low := text.toList.takeWhile (· != '-')
  let high := text.toList.drop (low.length + 1)
  ⟨hexNat low, if high.isEmpty then hexNat low else hexNat high⟩

/-- The greatest scalar value. -/
def lastScalar : Nat := 0x10FFFF

/-- The scalar value after another; surrogates are passed over. -/
def nextScalar (n : Nat) : Nat :=
  if n = 0xD7FF then 0xE000 else n + 1

/-- The scalar value before another; surrogates are passed over. -/
def previousScalar (n : Nat) : Nat :=
  if n = 0xE000 then 0xD7FF else n - 1

/-- **A set of characters**, as spans in ascending order. -/
structure CharSet where
  spans : Array Span
  deriving DecidableEq, Inhabited, Repr

namespace CharSet

/-- Join spans that overlap or touch; they are in the order of their lower ends. -/
def joinSpans (current : Span) : List Span → List Span
  | [] => [current]
  | next :: rest =>
    if next.lo ≤ current.hi + 1 then joinSpans ⟨current.lo, max current.hi next.hi⟩ rest
    else current :: joinSpans next rest

/-- The set of spans in the order of their lower ends. -/
def ofOrdered : List Span → CharSet
  | [] => ⟨#[]⟩
  | span :: rest => ⟨(joinSpans span rest).toArray⟩

/-- Put a span among others that are in the order of their lower ends. -/
def insertSpan (span : Span) : List Span → List Span
  | [] => [span]
  | next :: rest =>
    if span.lo ≤ next.lo then span :: next :: rest else next :: insertSpan span rest

/-- The set of spans in any order. -/
def ofSpans (spans : List Span) : CharSet :=
  ofOrdered (spans.foldr insertSpan [])

/-- A set as written: lines of spans in ascending order, separated by blanks. -/
def ofText (lines : List String) : CharSet :=
  ofOrdered (lines.flatMap fun line => (line.splitOn " ").map Span.ofText)

def none : CharSet := ⟨#[]⟩

/-- Every character. -/
def all : CharSet := ⟨#[⟨0, lastScalar⟩]⟩

/-- The characters from `lo` to `hi`. -/
def span (lo hi : Char) : CharSet := ⟨#[⟨lo.toNat, hi.toNat⟩]⟩

def single (c : Char) : CharSet := span c c

def ofChars (cs : List Char) : CharSet :=
  ofSpans (cs.map fun c => ⟨c.toNat, c.toNat⟩)

/-- Binary search among the `n` spans from index `start` on. -/
def hasFrom (spans : Array Span) (value : Nat) : Nat → Nat → Bool
  | 0, _ => false
  | n + 1, start =>
    let half := n / 2
    match spans[start + half]? with
    | Option.none => false
    | some span =>
      if value < span.lo then hasFrom spans value half start
      else if span.hi < value then hasFrom spans value (n - half) (start + half + 1)
      else true
  termination_by n => n
  decreasing_by all_goals omega

/-- Is the character in the set? -/
def has (set : CharSet) (c : Char) : Bool :=
  hasFrom set.spans c.toNat set.spans.size 0

def isEmpty (set : CharSet) : Bool :=
  set.spans.isEmpty

/-- Are all members ASCII characters? -/
def isAscii (set : CharSet) : Bool :=
  set.spans.all fun span => span.hi < 0x80

/-- The only member of a set that has just one. -/
def only? (set : CharSet) : Option Char :=
  match set.spans.toList with
  | [span] => if span.lo = span.hi then some (Char.ofNat span.lo) else Option.none
  | _ => Option.none

def union (a b : CharSet) : CharSet :=
  ofOrdered (a.spans.toList.merge b.spans.toList fun a b => a.lo ≤ b.lo)

/-- The spans that two ascending lists have in common. -/
def interSpans : List Span → List Span → List Span
  | [], _ => []
  | _, [] => []
  | a :: as, b :: bs =>
    let common := if max a.lo b.lo ≤ min a.hi b.hi then [⟨max a.lo b.lo, min a.hi b.hi⟩] else []
    common ++ (if a.hi < b.hi then interSpans as (b :: bs) else interSpans (a :: as) bs)
  termination_by as bs => as.length + bs.length

def inter (a b : CharSet) : CharSet :=
  ⟨(interSpans a.spans.toList b.spans.toList).toArray⟩

/-- What the second of two ascending lists leaves of the first. -/
def diffSpans : List Span → List Span → List Span
  | [], _ => []
  | as, [] => as
  | a :: as, b :: bs =>
    if b.hi < a.lo then diffSpans (a :: as) bs
    else if a.hi < b.lo then a :: diffSpans as (b :: bs)
    else
      let before := if a.lo < b.lo then [⟨a.lo, previousScalar b.lo⟩] else []
      before ++
        (if b.hi < a.hi then diffSpans (⟨nextScalar b.hi, a.hi⟩ :: as) bs
        else diffSpans as (b :: bs))
  termination_by as bs => as.length + bs.length

def diff (a b : CharSet) : CharSet :=
  ⟨(diffSpans a.spans.toList b.spans.toList).toArray⟩

def symmDiff (a b : CharSet) : CharSet :=
  (a.union b).diff (a.inter b)

/-- The gaps after the value `before` and between spans. A gap runs from the scalar value after one
span to the one before the next; where two spans meet across the surrogates these two come in the
opposite order, and the gap holds both. -/
def gapsAfter (before : Nat) : List Span → List Span
  | [] => if before < lastScalar then [⟨nextScalar before, lastScalar⟩] else []
  | span :: rest =>
    let lo := nextScalar before
    let hi := previousScalar span.lo
    ⟨min lo hi, max lo hi⟩ :: gapsAfter span.hi rest

/-- The gaps of a set. -/
def compl (set : CharSet) : CharSet :=
  match set.spans.toList with
  | [] => all
  | span :: rest =>
    let first : List Span := if span.lo = 0 then [] else [⟨0, previousScalar span.lo⟩]
    ⟨(first ++ gapsAfter span.hi rest).toArray⟩

end CharSet

end Folio.Unicode
