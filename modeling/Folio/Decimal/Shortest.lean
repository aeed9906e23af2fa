/-!
# Shortest decimals

A binary floating-point number stands for every real that rounds to it. Among the decimals in that
interval one with the fewest digits is chosen, and of those the nearest to the number.

* `Dyadic`: a positive number `m · 2^q` with the interval of reals that round to it.
* `Dyadic.leading`: the decimal exponent of its first digit.
* **`Dyadic.shortest`**: the digits and the exponent of the shortest decimal.
* `positional`, `scientific`: two ways to write digits and an exponent.
-/

namespace Folio.Decimal

/-- A positive number `value / scale`; the reals between `low / scale` and `high / scale` round to
it, the two ends among them if `closed`. -/
structure Dyadic where
  value : Nat
  low : Nat
  high : Nat
  scale : Nat
  closed : Bool

/-- A positive finite double, taken apart. -/
def Dyadic.ofFloat (x : Float) : Dyadic :=
  let bits := x.toBits.toNat
  let fraction := bits % Nat.pow 2 52
  let exponent := bits / Nat.pow 2 52 % Nat.pow 2 11
  let m := if exponent = 0 then fraction else Nat.pow 2 52 + fraction
  let below := if fraction = 0 ∧ exponent > 1 then 1 else 2
  let shift := if exponent = 0 then 1 else exponent
  let up := Nat.pow 2 (shift - 1077)
  { value := 4 * m * up
    low := (4 * m - below) * up
    high := (4 * m + 2) * up
    scale := Nat.pow 2 (1077 - shift)
    closed := m % 2 = 0 }

/-- The number of decimal digits of `n`. -/
def digitCount (n : Nat) : Nat :=
  (Nat.toDigits 10 n).length

/-- The least `j` from `start` on, among `fuel` candidates, with `scale ≤ value · 10^j`. -/
def liftBy (value scale : Nat) : Nat → Nat → Nat
  | 0, start => start
  | fuel + 1, start =>
    if scale ≤ value * Nat.pow 10 start then start else liftBy value scale fuel (start + 1)

/-- The decimal exponent of the first digit. -/
def Dyadic.leading (d : Dyadic) : Int :=
  if d.scale ≤ d.value then (digitCount (d.value / d.scale) : Int) - 1
  else -(liftBy d.value d.scale 330 1 : Int)

/-- The multiple of `10^power` in the interval that lies nearest to the number, if there is one. -/
def Dyadic.onGrid (d : Dyadic) (power : Int) : Option Nat :=
  let up := Nat.pow 10 (-power).toNat
  let step := d.scale * Nat.pow 10 power.toNat
  let value := d.value * up
  let inside (n : Nat) : Bool :=
    if d.closed then d.low * up ≤ n * step && n * step ≤ d.high * up
    else d.low * up < n * step && n * step < d.high * up
  let below := value / step
  let above := below + 1
  let twice := 2 * (value % step)
  let order :=
    if twice < step ∨ (twice = step ∧ below % 2 = 0) then [below, above] else [above, below]
  order.find? inside

/-- Try ever finer grids, from `digits` digits on. -/
def Dyadic.search (d : Dyadic) (leading : Int) : Nat → Nat → Nat × Int
  | 0, digits => (d.value / d.scale, (digits : Int) - 1)
  | fuel + 1, digits =>
    let power := leading - ((digits : Int) - 1)
    match d.onGrid power with
    | some n => (n, power)
    | none => d.search leading fuel (digits + 1)

/-- Remove the zeros at the end of a digit string. -/
def dropZeros (digits : List Char) : List Char :=
  (digits.reverse.dropWhile (· == '0')).reverse

/-- **The digits of the shortest decimal**, without zeros at its end, and the exponent of the first
of them. -/
def Dyadic.shortest (d : Dyadic) : List Char × Int :=
  let (n, power) := d.search d.leading 17 1
  let digits := Nat.toDigits 10 n
  (dropZeros digits, power + (digits.length : Int) - 1)

/-- Digits with a point, at least one of them on either side of it. -/
def positional (digits : List Char) (exponent : Int) : List Char :=
  if exponent < 0 then
    ['0', '.'] ++ List.replicate (-exponent - 1).toNat '0' ++ digits
  else
    let whole := exponent.toNat + 1
    let fraction := digits.drop whole
    digits.take whole ++ List.replicate (whole - digits.length) '0' ++ ['.'] ++
      if fraction.isEmpty then ['0'] else fraction

/-- Digits with a signed exponent: `1.25e-6`, `1e+16`. -/
def scientific (digits : List Char) (exponent : Int) : List Char :=
  let fraction := digits.drop 1
  digits.take 1 ++ (if fraction.isEmpty then [] else '.' :: fraction) ++
    ['e', if exponent < 0 then '-' else '+'] ++ Nat.toDigits 10 exponent.natAbs

end Folio.Decimal
