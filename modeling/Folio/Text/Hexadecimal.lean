/-!
# Hexadecimal numerals

* `hexDigit`: the value of a digit.
* **`hexNat`**: the value of a numeral.
-/

namespace Folio

/-- The value of a hexadecimal digit of either case; other characters count as zero. -/
def hexDigit (c : Char) : Nat :=
  if '0' ≤ c ∧ c ≤ '9' then c.toNat - '0'.toNat
  else if 'a' ≤ c ∧ c ≤ 'f' then c.toNat - 'a'.toNat + 10
  else if 'A' ≤ c ∧ c ≤ 'F' then c.toNat - 'A'.toNat + 10
  else 0

/-- The value of a hexadecimal numeral. -/
def hexNat (digits : List Char) : Nat :=
  digits.foldl (fun n c => n * 16 + hexDigit c) 0

end Folio
