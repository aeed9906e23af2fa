import Folio.Unicode.CharSet

/-!
# Editions of the character tables

The tables of characters grow from edition to edition. Two editions are in use: names, letter case
and quoting follow the later one, patterns the earlier one. The tables are written for the later
edition; what they say of a character that is older is the same in both, but for one letter (see
`Category.chars`).

* `Edition`: the two editions.
* `newcomers`: the characters that only the later edition has.
* **`Edition.chars`**: what an edition has of a written set.
-/

namespace Folio.Unicode

/-- The editions in use. -/
inductive Edition
  | sixteen
  | seventeen
  deriving DecidableEq, Inhabited, Repr

/-- The characters that the later edition has and the earlier one has not, as written. -/
def newcomersText : List String :=
  ["88f c5c cdc 1acf-1add 1ae0-1aeb 20c1 2b96 a7ce-a7cf a7d2 a7d4 a7f1 fbc3-fbd2 fd90-fd91",
   "fdc8-fdce 10940-10959 10ec5-10ec7 10ed0-10ed8 10efa-10efb 11b60-11b67 11db0-11ddb",
   "11de0-11de9 16ea0-16eb8 16ebb-16ed3 16ff2-16ff6 187f8-187ff 18d09-18d1e 18d80-18df2",
   "1ccfa-1ccfc 1ceba-1ced0 1cee0-1cef0 1e6c0-1e6de 1e6e0-1e6f5 1e6fe-1e6ff 1f6d8 1f777-1f77a",
   "1f8d0-1f8d8 1fa54-1fa57 1fa8a 1fa8e 1fac8 1facd 1faea 1faef 1fbfa 2b73a-2b73f 2cea2-2cead",
   "323b0-33479"]

/-- The characters that the later edition has and the earlier one has not. -/
def newcomers : CharSet :=
  CharSet.ofText newcomersText

/-- What an edition has of a set of characters of the later one. -/
def Edition.keep (edition : Edition) (set : CharSet) : CharSet :=
  match edition with
  | .sixteen => set.diff newcomers
  | .seventeen => set

/-- What an edition has of a written set. -/
def Edition.chars (edition : Edition) (lines : List String) : CharSet :=
  edition.keep (CharSet.ofText lines)

end Folio.Unicode
